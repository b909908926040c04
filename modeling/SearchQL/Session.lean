import SearchQL.Command
import SearchQL.Statistics
import SearchQL.Response

/-!
# Execution

An executor answers statements and may change its state with each. Connections to a server are
executors, but none of them is defined here: whatever answers statements is one. A query is executed
by sending it its text; if there is no text, nothing is sent.

* `Executor` is the type, and `Executor.canned` an executor that notes what it is sent.
* `Query.execute`, `Query.fetchAll`, `Query.fetchFirst` and `Query.fetchSets` send a query and read
  the answer.
* `fetchStatistics` and `SearchText.fetchMissing` ask about the last search.
-/

namespace SearchQL

/-! ## Executors -/

/-- Computations that may fail and that change a state also when they do. -/
abbrev Session (σ : Type) := ExceptT Error (StateM σ)

/-- What answers statements: from a kind and a text to an answer or an error, with a state. -/
abbrev Executor (σ : Type) := Kind → String → Session σ Response

/-- An executor that gives one answer to every statement and notes what it was sent. -/
def Executor.canned (answer : Except Error Response) : Executor (List (Kind × String)) :=
  fun kind sql => do
    modify (· ++ [(kind, sql)])
    liftM answer

variable {σ α : Type}

/-! ## Queries -/

namespace Query

/-- The answer to a query. A query without a text is not sent. -/
def execute (executor : Executor σ) (q : Query) : Session σ Response := do
  let sql ← q.render
  match q.kind with
  | none => throw .unsupportedKind
  | some kind => executor kind sql

/-- All rows of the answer, each read by `read`. -/
def fetchAll (executor : Executor σ) (read : Row → Except Error α) (q : Query) :
    Session σ (List α) := do
  let response ← q.execute executor
  let rows ← response.toRows
  liftM (rows.mapM read)

/-- The first row of the answer, if there is one, read by `read`. -/
def fetchFirst (executor : Executor σ) (read : Row → Except Error α) (q : Query) :
    Session σ (Option α) := do
  let response ← q.execute executor
  let rows ← response.toRows
  liftM (rows.head?.mapM read)

/-- The result sets of the answer to a query with facets. -/
def fetchSets (executor : Executor σ) (q : Query) : Session σ (List (List Row)) := do
  if q.kind = some .multiSelect then
    let response ← q.execute executor
    response.toSets
  else throw (.invalidQuery .noFacets)

end Query

/-! ## Statistics -/

/-- The statistics of the last search, or those whose names are like a pattern. -/
def fetchStatistics (executor : Executor σ) (pattern : Option String) : Session σ Statistics := do
  let response ← (Command.statistics pattern).execute executor
  let rows ← response.toRows
  return Statistics.ofRows rows

/-- The keywords of the last search that are in no document. -/
def SearchText.fetchMissing (executor : Executor σ) (expanded : Bool) (s : SearchText) :
    Session σ (List String) := do
  let statistics ← fetchStatistics executor none
  return s.missing statistics expanded

end SearchQL
