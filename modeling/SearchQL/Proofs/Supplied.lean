import SearchQL.Proofs.Area

/-!
# What a run inserts

An insertion takes rows or the answer of a query. Rows of values alone are refused once a query is
attached, and a query is refused once there are rows; a row that is given with its columns takes the
place of a query. So what is inserted after a run depends on what came since the last query.

* `Call.supplied` are the rows that a step supplies, and `Call.Displaces` says whether a step takes
  the place of an earlier query.
* `Query.input_step_of_rows` and `Query.input_step_of_query` say what a step makes of the rows and
  of the query that are inserted.
* `Query.failure?_row_iff`, `Query.failure?_rows_iff` and `Query.failure?_insertQuery_iff` say when
  a step is refused.
* `Query.input_run` is the result.
-/

namespace SearchQL

/-! ## What steps supply -/

namespace Call

/-- The rows that a step supplies. -/
def supplied : Call → List (List Value)
  | .insertRow _ _ pairs => if pairs.isEmpty then [] else [pairs.map Assignment.value]
  | .row values => [values]
  | .rows groups => groups
  | _ => []

/-- Whether a step takes the place of a query that was attached before: it attaches another one, or
it gives a row with its columns. -/
def Displaces : Call × Option Error → Prop
  | (.insertQuery _, none) => True
  | (.insertRow _ _ pairs, _) => pairs ≠ []
  | _ => False

end Call

namespace Query

variable {q query : Query} {call : Call} {given : List (List Value)}

/-! ## Steps that are refused -/

/-- A row of values is refused exactly if a query is attached. -/
theorem failure?_row_iff (q : Query) (row : List Value) (e : Error) :
    q.failure? (.row row) = some e ↔
      (∃ query, q.input = .query query) ∧ e = .kindConflict .rowAfterQuery := by
  rw [failure?_eq_some_iff]
  change q.addRow row = .error e ↔ _
  unfold addRow
  cases q.input with
  | rows given => simp
  | query query => simp [eq_comm]

/-- Rows are refused exactly if a query is attached and there is one of them. -/
theorem failure?_rows_iff (q : Query) (rows : List (List Value)) (e : Error) :
    q.failure? (.rows rows) = some e ↔
      (∃ query, q.input = .query query) ∧ rows ≠ [] ∧ e = .kindConflict .rowAfterQuery := by
  rw [failure?_eq_some_iff]
  change q.addRows rows = .error e ↔ _
  rw [addRows_eq]
  cases q.input with
  | rows given => simp
  | query query => by_cases hrows : rows = [] <;> simp [hrows, eq_comm]

/-- A query is refused exactly if there are rows. -/
theorem failure?_insertQuery_iff (q query : Query) (e : Error) :
    q.failure? (.insertQuery query) = some e ↔
      (∃ rows, rows ≠ [] ∧ q.input = .rows rows) ∧ e = .kindConflict .queryAfterRow := by
  rw [failure?_eq_some_iff]
  change q.insertQuery query = .error e ↔ _
  unfold insertQuery
  cases q.input with
  | rows given =>
    cases given with
    | nil => simp
    | cons row given => simp [eq_comm]
  | query query' => simp

/-- Rows that are refused are so from the first one on. -/
theorem exists_of_failure?_rows {rows : List (List Value)} {e : Error}
    (h : q.failure? (.rows rows) = some e) :
    ∃ row rest, rows = row :: rest ∧ q.failure? (.row row) = some e := by
  obtain ⟨hquery, hrows, rfl⟩ := (failure?_rows_iff q rows e).1 h
  obtain ⟨row, rest, rfl⟩ := List.exists_cons_of_ne_nil hrows
  exact ⟨row, rest, rfl, (failure?_row_iff q row _).2 ⟨hquery, rfl⟩⟩

/-- When the steps of an insertion are refused. -/
structure Refusals (q : Query) : Prop where
  /-- A row of values is refused where a query is attached. -/
  row : ∀ row e, q.failure? (.row row) = some e ↔
    (∃ query, q.input = .query query) ∧ e = .kindConflict .rowAfterQuery
  /-- Rows are refused where a query is attached, if there is one of them. -/
  rows : ∀ rows e, q.failure? (.rows rows) = some e ↔
    (∃ query, q.input = .query query) ∧ rows ≠ [] ∧ e = .kindConflict .rowAfterQuery
  /-- Rows that are refused are so from the first one on, and none is added. -/
  none_added : ∀ rows e, q.failure? (.rows rows) = some e → q.step (.rows rows) = q ∧
    ∃ row rest, rows = row :: rest ∧ q.failure? (.row row) = some e
  /-- A query is refused where there are rows. -/
  query : ∀ query e, q.failure? (.insertQuery query) = some e ↔
    (∃ rows, rows ≠ [] ∧ q.input = .rows rows) ∧ e = .kindConflict .queryAfterRow

theorem refusals (q : Query) : q.Refusals where
  row := q.failure?_row_iff
  rows := q.failure?_rows_iff
  none_added _ _ h := ⟨(step_of_error (failure?_eq_some_iff.1 h)).1, exists_of_failure?_rows h⟩
  query := q.failure?_insertQuery_iff

/-! ## What steps make of the input -/

/-- A step that supplies no rows and attaches no query leaves what is inserted as it is. -/
theorem input_step_eq (hreset : call ≠ .reset) (hsupplied : call.supplied = [])
    (hquery : ∀ query, call ≠ .insertQuery query) : (q.step call).input = q.input := by
  by_cases harea : call.area = some .statement
  · cases call with
    | insertRow insertion target row =>
      have hrow : row = [] := by simpa [Call.supplied] using hsupplied
      subst hrow
      rfl
    | row row => cases hsupplied
    | rows rows =>
      cases hsupplied
      rfl
    | insertQuery query => exact absurd rfl (hquery query)
    | _ => first | rfl | cases harea
  · have hpart : (q.step call).part .statement = q.part .statement := part_step hreset harea
    have hinput := congrArg Query.input hpart
    exact hinput

/-- A step adds the rows that it supplies to those that are there; only where there are none, a
query is attached. -/
theorem input_step_of_rows (hinput : q.input = .rows given) (hreset : call ≠ .reset) :
    (∃ query, (call, q.failure? call) = (.insertQuery query, none) ∧
      (q.step call).input = .query query) ∨
    ((∀ query, (call, q.failure? call) ≠ (.insertQuery query, none)) ∧
      (q.step call).input = .rows (given ++ call.supplied)) := by
  have hother (hsupplied : call.supplied = []) (hquery : ∀ query, call ≠ .insertQuery query) :
      (∀ query, (call, q.failure? call) ≠ (.insertQuery query, none)) ∧
        (q.step call).input = .rows (given ++ call.supplied) := by
    refine ⟨fun query heq => hquery query (Prod.mk.inj heq).1, ?_⟩
    rw [input_step_eq hreset hsupplied hquery, hsupplied, List.append_nil, hinput]
  cases call with
  | insertRow insertion target row =>
    cases row with
    | nil => exact .inr (hother rfl (by simp))
    | cons pair row =>
      refine .inr ⟨by simp, ?_⟩
      change Input.push _ q.input = _
      rw [hinput]
      rfl
  | row row =>
    have happly : q.apply (.row row) = .ok { q with input := .rows (given ++ [row]) } := by
      rw [apply, addRow, hinput]
    exact .inr ⟨by simp, by rw [(step_of_ok happly).1, Call.supplied]⟩
  | rows rows =>
    have happly : q.apply (.rows rows) = .ok { q with input := .rows (given ++ rows) } := by
      rw [apply, addRows_eq, hinput]
    exact .inr ⟨by simp, by rw [(step_of_ok happly).1, Call.supplied]⟩
  | insertQuery query =>
    cases given with
    | nil =>
      have happly : q.apply (.insertQuery query) = .ok { q with input := .query query } := by
        rw [apply, insertQuery, hinput]
      obtain ⟨hstep, hfailure⟩ := step_of_ok happly
      exact .inl ⟨query, by rw [hfailure], by rw [hstep]⟩
    | cons row given =>
      have happly : q.apply (.insertQuery query) = .error (.kindConflict .queryAfterRow) := by
        rw [apply, insertQuery, hinput]
      obtain ⟨hstep, hfailure⟩ := step_of_error happly
      refine .inr ⟨fun query' heq => ?_, ?_⟩
      · rw [hfailure] at heq
        cases heq
      · rw [hstep, hinput]
        exact congrArg Input.rows (List.append_nil _).symm
  | reset => exact absurd rfl hreset
  | _ => exact .inr (hother rfl (by simp))

/-- A query that is attached stays, or a step takes its place. -/
theorem input_step_of_query (hinput : q.input = .query query) (hreset : call ≠ .reset) :
    (∃ query', (call, q.failure? call) = (.insertQuery query', none) ∧
      (q.step call).input = .query query') ∨
    (∃ insertion target row, call = .insertRow insertion target row ∧ row ≠ [] ∧
      (q.step call).input = .rows call.supplied) ∨
    (¬ Call.Displaces (call, q.failure? call) ∧ (q.step call).input = .query query) := by
  have hother (hsupplied : call.supplied = []) (hquery : ∀ query, call ≠ .insertQuery query) :
      (q.step call).input = .query query := by
    rw [input_step_eq hreset hsupplied hquery, hinput]
  cases call with
  | insertRow insertion target row =>
    cases row with
    | nil => exact .inr (.inr ⟨fun h => h rfl, hother rfl (by simp)⟩)
    | cons pair row =>
      refine .inr (.inl ⟨insertion, target, pair :: row, rfl, List.cons_ne_nil pair row, ?_⟩)
      change Input.push _ q.input = _
      rw [hinput]
      rfl
  | row row =>
    have happly : q.apply (.row row) = .error (.kindConflict .rowAfterQuery) := by
      rw [apply, addRow, hinput]
    exact .inr (.inr ⟨id, by rw [(step_of_error happly).1, hinput]⟩)
  | rows rows =>
    cases rows with
    | nil => exact .inr (.inr ⟨id, hother rfl (by simp)⟩)
    | cons row rows =>
      have happly : q.apply (.rows (row :: rows)) = .error (.kindConflict .rowAfterQuery) := by
        rw [apply, addRows_eq, hinput]
        exact if_neg (List.cons_ne_nil row rows)
      exact .inr (.inr ⟨id, by rw [(step_of_error happly).1, hinput]⟩)
  | insertQuery query' =>
    have happly : q.apply (.insertQuery query') = .ok { q with input := .query query' } := by
      rw [apply, insertQuery, hinput]
    obtain ⟨hstep, hfailure⟩ := step_of_ok happly
    exact .inl ⟨query', by rw [hfailure], by rw [hstep]⟩
  | reset => exact absurd rfl hreset
  | _ => exact .inr (.inr ⟨id, hother rfl (by simp)⟩)

/-! ## What a run leaves -/

/-- A query is attached after a step if the step attaches it, or if it was there and stays. -/
theorem input_step_query_iff (hreset : call ≠ .reset) :
    (q.step call).input = .query query ↔ (call, q.failure? call) = (.insertQuery query, none) ∨
      q.input = .query query ∧ ¬ Call.Displaces (call, q.failure? call) := by
  cases hinput : q.input with
  | rows given =>
    rcases input_step_of_rows hinput hreset with ⟨query', hcall, hstep⟩ | ⟨hcall, hstep⟩
    · simp [hcall, hstep]
    · simp [hcall, hstep]
  | query query₀ =>
    rcases input_step_of_query hinput hreset with
      ⟨query', hcall, hstep⟩ | ⟨insertion, target, row, rfl, hrow, hstep⟩ | ⟨hkept, hstep⟩
    · simp [hcall, hstep, Call.Displaces]
    · simp [hstep, hrow, Call.Displaces]
    · have hcall : (call, q.failure? call) ≠ (.insertQuery query, none) := by
        intro heq
        rw [heq] at hkept
        exact hkept trivial
      simp [hcall, hkept, hstep]

/-- A run in two parts: what is inserted was a query for the last time between them, or they are
its start and the whole of it. -/
structure SinceQuery (before after : List Call) : Prop where
  start : before = [] ∨ ∃ query, (empty.run before).input = .query query
  last : ∀ mid rest, after = mid ++ rest → mid ≠ [] →
    ∀ query, (empty.run (before ++ mid)).input ≠ .query query

namespace SinceQuery

/-- Nothing was a query before the first step. -/
theorem nil : SinceQuery [] [] where
  start := .inl rfl
  last := by
    rintro mid rest heq hmid
    exact absurd (List.append_eq_nil_iff.1 heq.symm).1 hmid

theorem append_singleton {before after : List Call} {call : Call} (h : SinceQuery before after)
    (hcall : ∀ query, (empty.run (before ++ (after ++ [call]))).input ≠ .query query) :
    SinceQuery before (after ++ [call]) where
  start := h.start
  last := by
    intro mid rest heq hmid
    rcases List.eq_nil_or_concat' rest with rfl | ⟨rest, last, rfl⟩
    · rw [List.append_nil] at heq
      rw [← heq]
      exact hcall
    · rw [← List.append_assoc] at heq
      exact h.last mid rest (List.append_inj' heq rfl).1 hmid

end SinceQuery

/-- Where no query is inserted after a run, the rows supplied since there last was one are. -/
theorem exists_sinceQuery {calls : List Call} {rows : List (List Value)} (h : .reset ∉ calls)
    (hrows : (empty.run calls).input = .rows rows) : ∃ before after, calls = before ++ after ∧
      SinceQuery before after ∧ rows = after.flatMap Call.supplied := by
  -- the last step adds to the rows since there was a query, or starts them anew behind one
  induction calls using List.reverseRecOn generalizing rows with
  | nil =>
    cases hrows
    exact ⟨[], [], rfl, .nil, rfl⟩
  | append_singleton calls call ih =>
    rw [List.mem_append, not_or, List.mem_singleton] at h
    obtain ⟨hcalls, hcall⟩ := h
    have hnot (query : Query) : (empty.run (calls ++ [call])).input ≠ .query query := by
      rw [hrows]
      exact nofun
    rw [run_append, run_cons, run_nil] at hrows
    cases hinput : (empty.run calls).input with
    | rows given =>
      obtain ⟨before, after, rfl, hsince, rfl⟩ := ih hcalls hinput
      refine ⟨before, after ++ [call], List.append_assoc _ _ _, ?_, ?_⟩
      · exact hsince.append_singleton fun query => List.append_assoc before after _ ▸ hnot query
      · rcases input_step_of_rows hinput (Ne.symm hcall) with ⟨query, -, hstep⟩ | ⟨-, hstep⟩
        · cases hstep.symm.trans hrows
        · rw [hstep] at hrows
          rw [List.flatMap_append, List.flatMap_singleton]
          exact (Input.rows.inj hrows).symm
    | query query =>
      have hstart : SinceQuery calls [] := ⟨.inr ⟨query, hinput⟩, by simp⟩
      refine ⟨calls, [call], rfl, hstart.append_singleton hnot, ?_⟩
      rcases input_step_of_query hinput (Ne.symm hcall) with
        ⟨query', -, hstep⟩ | ⟨insertion, target, row, rfl, hrow, hstep⟩ | ⟨-, hstep⟩
      · cases hstep.symm.trans hrows
      · rw [hstep] at hrows
        rw [List.flatMap_singleton]
        exact (Input.rows.inj hrows).symm
      · cases hstep.symm.trans hrows

/-- The query that is attached last in a run: no step behind it takes its place. -/
def AttachedLast (outcomes : List (Call × Option Error)) (query : Query) : Prop :=
  ∃ before after, outcomes = before ++ (.insertQuery query, none) :: after ∧
    ∀ later ∈ after, ¬ Call.Displaces later

theorem input_run_query_iff {calls : List Call} (h : .reset ∉ calls) (query : Query) :
    (empty.run calls).input = .query query ↔ AttachedLast (empty.outcomes calls) query := by
  have hstep (q : Query) (call : Call) (hmem : call ∈ calls) :
      (q.step call).input = .query query ↔
        (call, q.failure? call) = (.insertQuery query, none) ∨
          q.input = .query query ∧ ¬ Call.Displaces (call, q.failure? call) :=
    input_step_query_iff fun heq => h (heq ▸ hmem)
  have hempty : empty.input ≠ .query query := Input.noConfusion
  have hlast : (empty.run calls).input = .query query ↔ ∃ before outcome after,
      empty.outcomes calls = before ++ outcome :: after ∧ outcome = (.insertQuery query, none) ∧
        ∀ later ∈ after, ¬ Call.Displaces later :=
    run_iff_exists_outcome (P := fun q => q.input = .query query) hempty hstep
  rw [hlast]
  constructor
  · rintro ⟨before, _, after, heq, rfl, hafter⟩
    exact ⟨before, after, heq, hafter⟩
  · rintro ⟨before, after, heq, hafter⟩
    exact ⟨before, _, after, heq, rfl, hafter⟩

/-- **No row is lost, doubled or moved, and rows never stand beside a query.** After a run the query
attached last is inserted, if none of the later steps takes its place; otherwise all rows supplied
since there last was a query are, in order. Rows of values are refused exactly where a query is
attached, and then none of them is added; a query is refused exactly where there are rows. -/
theorem input_run {calls : List Call} (h : .reset ∉ calls) :
    (∀ query, (empty.run calls).input = .query query ↔
      AttachedLast (empty.outcomes calls) query) ∧
    ((∀ query, ¬ AttachedLast (empty.outcomes calls) query) →
      ∃ before after, calls = before ++ after ∧ SinceQuery before after ∧
        (empty.run calls).input = .rows (after.flatMap Call.supplied)) ∧
    ∀ before after, calls = before ++ after → (empty.run before).Refusals := by
  refine ⟨input_run_query_iff h, fun hlast => ?_, fun before _ _ => (empty.run before).refusals⟩
  cases hinput : (empty.run calls).input with
  | rows rows =>
    obtain ⟨before, after, hcalls, hsince, rfl⟩ := exists_sinceQuery h hinput
    exact ⟨before, after, hcalls, hsince, rfl⟩
  | query query => exact absurd ((input_run_query_iff h query).1 hinput) (hlast query)

/-- An insertion that turns from rows to a query and back, with steps that are refused. -/
def turning : List Call :=
  [.insertInto .insert (.name "rt"), .rows [], .insertQuery empty, .row [.int 1],
    .rows [[.int 2], [.int 3]], .insertRow .insert (.name "rt") [], .insertQuery (selecting []),
    .insertRow .replace (.name "rt") [⟨.name "id", .int 4⟩], .insertQuery empty, .row [],
    .rows [[.int 5], [.int 6]]]

theorem input_run_turning :
    .reset ∉ turning ∧
    (empty.outcomes turning).filterMap Prod.snd =
      [.kindConflict .rowAfterQuery, .kindConflict .rowAfterQuery, .kindConflict .queryAfterRow] ∧
    (∃ before after, turning = before ++ after ∧ SinceQuery before after ∧
      after.flatMap Call.supplied = [[.int 4], [], [.int 5], [.int 6]]) ∧
    (empty.run turning).Refusals := by
  have h : Call.reset ∉ turning := by simp [turning]
  obtain ⟨hquery, hrows, hrefusals⟩ := input_run h
  have hlast (query : Query) : ¬ AttachedLast (empty.outcomes turning) query := by
    rw [← hquery]
    exact Input.noConfusion
  obtain ⟨before, after, heq, hsince, hinput⟩ := hrows hlast
  refine ⟨h, rfl, ⟨before, after, heq, hsince, ?_⟩, hrefusals turning [] (List.append_nil _).symm⟩
  exact (Input.rows.inj hinput).symm

end Query

end SearchQL
