import SearchQL.Error.Message
import SearchQL.Session

/-!
# Tracing

An executor that notes an event for every statement it passes on, and otherwise behaves as the
executor that it passes them to. How long a statement takes is not noted.

* `Tracing` holds the level of the events and the length from which statements are cut.
* `Tracing.shown` is the text of a statement as an event shows it.
* `Tracing.wrap` makes the executor; its state is that of the other one beside the events.
-/

namespace SearchQL

/-! ## Events -/

/-- The levels of events, the most urgent first. -/
inductive Level where
  | error
  | warn
  | info
  | debug
  | trace
deriving DecidableEq, Repr

/-- An event: a statement that was sent, cut if it is long, and how it ended. -/
structure Event where
  /-- The name under which the event is noted. -/
  target : String
  level : Level
  kind : Kind
  sql : String
  /-- The wording of the error, if there was one. -/
  failure : Option String
  message : String
deriving DecidableEq, Repr

/-! ## Settings -/

/-- How statements are traced. -/
structure Tracing where
  /-- The level of the events of statements that succeed. -/
  level : Level := .debug
  /-- The number of characters from which on a statement is cut, if it is cut at all. -/
  limit : Option Nat := some 200
deriving DecidableEq, Repr

namespace Tracing

/-- A statement as an event shows it: whole if it is short enough, and otherwise its start and
three dots. -/
def shown (t : Tracing) (sql : String) : String :=
  match t.limit with
  | none => sql
  | some limit =>
    if sql.length ≤ limit then sql else String.ofList (sql.toList.take limit) ++ "..."

/-- The event of a statement and its answer. An error is noted as a warning, whatever the level of
the tracing. -/
def event (t : Tracing) (kind : Kind) (sql : String) : Except Error Response → Event
  | .ok _ =>
    { target := "sphinxql.sql"
      level := t.level
      kind := kind
      sql := t.shown sql
      failure := none
      message := "statement executed" }
  | .error e =>
    { target := "sphinxql.sql"
      level := .warn
      kind := kind
      sql := t.shown sql
      failure := some e.message
      message := "statement failed" }

/-- The executor that passes statements on and notes an event for each. -/
def wrap {σ : Type} (t : Tracing) (executor : Executor σ) : Executor (σ × List Event) :=
  fun kind sql => ExceptT.mk fun (s, events) =>
    let (answer, s) := (executor kind sql).run s
    (answer, s, events ++ [t.event kind sql answer])

end Tracing

end SearchQL
