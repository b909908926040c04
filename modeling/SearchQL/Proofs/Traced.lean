import SearchQL.Proofs.Sent
import SearchQL.Tracing

/-!
# Tracing is not noticed

An executor under any number of tracings gives the answers that it gives by itself, and is sent the
same statements. Each of the tracings notes one event for each statement, which shows the statement
whole or cuts it behind a number of characters.

* `Executor.answers` sends statements one after the other, and `Executor.recording` keeps a record
  of them beside; a tracing is such a record, and so is `Executor.noting`.
* `Executor.layered` is an executor under tracings, whose state has `Layers.core` at the bottom and
  the events `Layers.noted` around it.
* `Tracing.Reports` is what an event says of a statement and its answer.
* `Executor.tracing_unnoticed` is the result.
-/

namespace SearchQL

variable {σ ε : Type}

/-! ## Statements one after the other -/

/-- A statement with its kind. -/
abbrev Statement := Kind × String

/-- The answers to statements that are sent one after the other, and the state behind them. A
statement is sent also if the one before it was refused. -/
def Executor.answers (executor : Executor σ) :
    List Statement → σ → List (Except Error Response) × σ
  | [], s => ([], s)
  | (kind, sql) :: rest, s =>
    let (answer, s) := (executor kind sql).run s
    let (answers, s) := executor.answers rest s
    (answer :: answers, s)

theorem Executor.length_answers (executor : Executor σ) (statements : List Statement) (s : σ) :
    (executor.answers statements s).1.length = statements.length := by
  induction statements generalizing s with
  | nil => rfl
  | cons statement rest ih => exact congrArg (· + 1) (ih _)

/-! ## Records -/

/-- The executor that answers as another one does, and puts what is to be noted of a statement and
its answer at the end of a record. -/
def Executor.recording (note : Statement → Except Error Response → ε) (executor : Executor σ) :
    Executor (σ × List ε) :=
  fun kind sql => ExceptT.mk fun (s, record) =>
    let (answer, s) := (executor kind sql).run s
    (answer, s, record ++ [note (kind, sql) answer])

/-- One note is put at the end of a record for each statement, and nothing else changes. -/
theorem Executor.answers_recording (note : Statement → Except Error Response → ε)
    (executor : Executor σ) (statements : List Statement) (s : σ) (record : List ε) :
    (executor.recording note).answers statements (s, record) =
      ((executor.answers statements s).1, (executor.answers statements s).2,
        record ++ List.zipWith note statements (executor.answers statements s).1) := by
  induction statements generalizing s record with
  | nil => simp [answers]
  | cons statement rest ih =>
    obtain ⟨kind, sql⟩ := statement
    have hfirst : (executor.recording note kind sql).run (s, record) =
        ((executor kind sql s).1, (executor kind sql s).2,
          record ++ [note (kind, sql) (executor kind sql s).1]) := rfl
    have hanswers : executor.answers ((kind, sql) :: rest) s =
        ((executor kind sql s).1 :: (executor.answers rest (executor kind sql s).2).1,
          (executor.answers rest (executor kind sql s).2).2) := rfl
    rw [answers, hfirst, hanswers]
    simp only [ih, List.zipWith_cons_cons, List.append_assoc, List.singleton_append]

/-- The statements are a record. -/
theorem Executor.noting_eq_recording (executor : Executor σ) :
    executor.noting = executor.recording fun statement _ => statement := rfl

/-- The events of a tracing are a record. -/
theorem Tracing.wrap_eq_recording (t : Tracing) (executor : Executor σ) :
    t.wrap executor =
      executor.recording fun statement answer => t.event statement.1 statement.2 answer := rfl

/-- A tracing puts one event for each statement behind those that it has noted. -/
theorem Tracing.answers_wrap (t : Tracing) (executor : Executor σ) (statements : List Statement)
    (s : σ) (events : List Event) :
    (t.wrap executor).answers statements (s, events) =
      ((executor.answers statements s).1, (executor.answers statements s).2,
        events ++ List.zipWith (fun statement => t.event statement.1 statement.2) statements
          (executor.answers statements s).1) := by
  rw [t.wrap_eq_recording, Executor.answers_recording]

/-- All statements are noted, whatever the answers are. -/
theorem Executor.answers_noting (executor : Executor σ) (statements : List Statement) (s : σ)
    (log : List Statement) :
    executor.noting.answers statements (s, log) = ((executor.answers statements s).1,
      (executor.answers statements s).2, log ++ statements) := by
  have hlength : statements.length ≤ (executor.answers statements s).1.length :=
    Nat.le_of_eq (executor.length_answers statements s).symm
  have hzip : List.zipWith (fun statement _ => statement) statements
      (executor.answers statements s).1 = statements := by
    calc _ = (statements.zip (executor.answers statements s).1).map Prod.fst := by
          rw [List.zip, List.map_zipWith]
      _ = statements := List.map_fst_zip hlength
  rw [noting_eq_recording, answers_recording, hzip]

/-! ## Events -/

/-- What the event of a tracing says of a statement and its answer. -/
structure Tracing.Reports (t : Tracing) (statement : Statement) (answer : Except Error Response)
    (e : Event) : Prop where
  target : e.target = "sphinxql.sql"
  kind : e.kind = statement.1
  /-- Of a statement that was answered, at the level of the tracing. -/
  answered : ∀ response, answer = .ok response →
    e.level = t.level ∧ e.failure = none ∧ e.message = "statement executed"
  /-- Of a statement that was refused, a warning with the wording of the error. -/
  refused : ∀ error, answer = .error error →
    e.level = .warn ∧ e.failure = some error.message ∧ e.message = "statement failed"
  /-- A statement without more characters than the limit is shown as it is. -/
  whole : (∀ limit, t.limit = some limit → statement.2.length ≤ limit) → e.sql = statement.2
  /-- Of a longer one the characters up to the limit are shown, and three dots. The cut is at a
  position between two characters. -/
  cut : ∀ limit, t.limit = some limit → limit < statement.2.length →
    ∃ start rest, (statement.2.startPos.nextn limit).Splits start rest ∧ start.length = limit ∧
      e.sql = start ++ "..."

namespace Tracing

theorem shown_of_le {t : Tracing} {sql : String}
    (h : ∀ limit, t.limit = some limit → sql.length ≤ limit) : t.shown sql = sql := by
  unfold shown
  split
  · rfl
  case h_2 limit hlimit => rw [if_pos (h limit hlimit)]

theorem exists_shown_of_lt {t : Tracing} {sql : String} {limit : Nat}
    (hlimit : t.limit = some limit) (h : limit < sql.length) :
    ∃ start rest, (sql.startPos.nextn limit).Splits start rest ∧ start.length = limit ∧
      t.shown sql = start ++ "..." := by
  have hsplits : (sql.startPos.nextn limit).Splits (String.ofList (sql.toList.take limit))
      (String.ofList (sql.toList.drop limit)) := by
    simpa using sql.splits_startPos.nextn limit
  have hlength : (String.ofList (sql.toList.take limit)).length = limit := by
    rw [String.length_ofList, List.length_take, String.length_toList]
    exact Nat.min_eq_left (Nat.le_of_lt h)
  refine ⟨_, _, hsplits, hlength, ?_⟩
  rw [shown, hlimit]
  exact if_neg (Nat.not_le.2 h)

/-- The event of a statement says what it ought to. -/
theorem reports_event (t : Tracing) (statement : Statement) (answer : Except Error Response) :
    t.Reports statement answer (t.event statement.1 statement.2 answer) where
  target := by cases answer <;> rfl
  kind := by cases answer <;> rfl
  answered := by
    rintro response rfl
    exact ⟨rfl, rfl, rfl⟩
  refused := by
    rintro error rfl
    exact ⟨rfl, rfl, rfl⟩
  whole h := by
    have hshown := t.shown_of_le h
    cases answer <;> exact hshown
  cut limit hlimit h := by
    have hshown := exists_shown_of_lt hlimit h
    cases answer <;> exact hshown

/-- One event for each statement and its answer. -/
def ReportsAll (t : Tracing) (statements : List Statement) (answers : List (Except Error Response))
    (events : List Event) : Prop :=
  List.Forall₂ (fun (exchange : Statement × Except Error Response) event =>
    t.Reports exchange.1 exchange.2 event) (statements.zip answers) events

theorem reportsAll_zipWith (t : Tracing) (statements : List Statement)
    (answers : List (Except Error Response)) :
    t.ReportsAll statements answers
      (List.zipWith (fun statement => t.event statement.1 statement.2) statements answers) := by
  induction statements generalizing answers with
  | nil => exact .nil
  | cons statement statements ih =>
    cases answers with
    | nil => exact .nil
    | cons answer answers => exact .cons (t.reports_event statement answer) (ih answers)

end Tracing

/-! ## Layers -/

/-- The state of an executor under tracings, the outermost first: its own state and the events that
each of them has noted. -/
def Layers (σ : Type) : List Tracing → Type
  | [] => σ
  | _ :: ts => Layers σ ts × List Event

namespace Layers

/-- The state of the executor itself. -/
def core : (ts : List Tracing) → Layers σ ts → σ
  | [], s => s
  | _ :: ts, s => core ts s.1

/-- The events that each tracing has noted. -/
def noted : (ts : List Tracing) → Layers σ ts → List (List Event)
  | [], _ => []
  | _ :: ts, s => s.2 :: noted ts s.1

/-- Every tracing has noted one event for each statement, behind those that it had. -/
def Traced (ts : List Tracing) (statements : List Statement)
    (answers : List (Except Error Response)) (s s' : Layers σ ts) : Prop :=
  List.Forall₂ (fun t (records : List Event × List Event) =>
    ∃ events, records.2 = records.1 ++ events ∧ t.ReportsAll statements answers events) ts
    ((noted ts s).zip (noted ts s'))

end Layers

namespace Executor

open Layers

/-- The executor under tracings, the outermost first. -/
def layered (executor : Executor σ) : (ts : List Tracing) → Executor (Layers σ ts)
  | [] => executor
  | t :: ts => t.wrap (executor.layered ts)

/-- Tracings change nothing of the answers and of the state below them. -/
theorem answers_layered (executor : Executor σ) (ts : List Tracing) (statements : List Statement)
    (s : Layers σ ts) :
    ((executor.layered ts).answers statements s).1 =
        (executor.answers statements (core ts s)).1 ∧
      core ts ((executor.layered ts).answers statements s).2 =
        (executor.answers statements (core ts s)).2 ∧
      Traced ts statements (executor.answers statements (core ts s)).1 s
        ((executor.layered ts).answers statements s).2 := by
  induction ts with
  | nil => exact ⟨rfl, rfl, .nil⟩
  | cons t ts ih =>
    obtain ⟨s, events⟩ := s
    obtain ⟨hanswers, hcore, htraced⟩ := ih s
    have hrun : (executor.layered (t :: ts)).answers statements (s, events) = _ :=
      t.answers_wrap (executor.layered ts) statements s events
    rw [hrun]
    refine ⟨hanswers, hcore, .cons ⟨_, rfl, ?_⟩ htraced⟩
    rw [hanswers]
    exact t.reportsAll_zipWith statements _

/-- **Tracing is not noticed, and notes each statement once.** Under any tracings an executor gives
the answers that it gives by itself and is left in the same state, and it is sent just the
statements that were given. Each tracing notes one event for each statement, in order: its kind,
the level and the outcome, and the statement itself, cut if it is too long. -/
theorem tracing_unnoticed (executor : Executor σ) (ts : List Tracing) (statements : List Statement)
    (s : Layers (σ × List Statement) ts) :
    let plain := executor.answers statements (core ts s).1
    let traced := (executor.noting.layered ts).answers statements s
    traced.1 = plain.1 ∧
    core ts traced.2 = (plain.2, (core ts s).2 ++ statements) ∧
    plain.1.length = statements.length ∧
    Traced ts statements plain.1 s traced.2 := by
  intro plain traced
  have hnoting : executor.noting.answers statements (core ts s) =
      (plain.1, plain.2, (core ts s).2 ++ statements) := executor.answers_noting statements _ _
  obtain ⟨hanswers, hcore, htraced⟩ := executor.noting.answers_layered ts statements s
  rw [hnoting] at hanswers hcore htraced
  exact ⟨hanswers, hcore, executor.length_answers statements _, htraced⟩

end Executor

/-- The limit counts characters, however many bytes they have. -/
example : Tracing.shown { limit := some 3 } "ééééé" = "ééé..." ∧
    Tracing.shown { limit := some 0 } "é" = "..." ∧
    Tracing.shown { limit := some 3 } "abc" = "abc" := by
  decide

end SearchQL
