import Mathlib.Tactic.SplitIfs
import SearchQL.Proofs.Run
import SearchQL.Proofs.Success
import SearchQL.Query.Render

/-!
# Steps for different areas of a query

The clauses of a query fall into areas. Every step but a reset belongs to one of them: what it does,
and whether it fails, depends on the clauses of its area alone, and it leaves all others as they
are. So the order of steps matters only within an area.

* `Call.area` is the area of a step, and `Query.part` a query with the clauses of one area alone.
* `Query.map_part_apply` and `Query.yields_part_apply` say what a step does to its own area and to
  the others.
* `Query.run_eq_of_areas` is the result.
-/

namespace SearchQL

/-! ## Areas -/

/-- An area of a query: clauses that some step changes together or changes one by the other. -/
inductive Area where
  /-- Both groups of conditions, and which one is closed next. -/
  | conditions
  /-- The kind of statement, what is selected, given as a facet or inserted, and the raw text. -/
  | statement
  | distinct
  | indexes
  | searches
  | groupBy
  | order
  | limit
  | offset
  | options
  | assignments
deriving DecidableEq, Repr

/-- The area that a step belongs to. A reset belongs to none. -/
def Call.area : Call → Option Area
  | .condition .. | .conditions .. | .filter .. | .openBracket .. | .closeBracket _ =>
    some .conditions
  | .select _ | .facet _ | .insertInto .. | .insertRow .. | .target _ | .fields _ | .row _ | .rows _
  | .insertQuery _ | .update _ | .delete _ | .raw _ | .bindRaw .. => some .statement
  | .distinct _ => some .distinct
  | .index _ => some .indexes
  | .search _ => some .searches
  | .groupBy _ => some .groupBy
  | .order _ | .setOrder _ => some .order
  | .limit _ => some .limit
  | .offset _ => some .offset
  | .option _ => some .options
  | .assign _ => some .assignments
  | .reset => none

theorem Call.exists_area {call : Call} (h : call ≠ .reset) : ∃ a, call.area = some a := by
  cases call with
  | reset => exact absurd rfl h
  | _ => exact ⟨_, rfl⟩

namespace Query

/-- The query with the clauses of one area and no others. -/
def part (a : Area) (q : Query) : Query :=
  match a with
  | .conditions =>
    { empty with filters := q.filters, having := q.having, lastOpened := q.lastOpened }
  | .statement =>
    { empty with
      kind := q.kind, columns := q.columns, facets := q.facets, target := q.target
      fields := q.fields, input := q.input, raw := q.raw }
  | .distinct => { empty with distinct := q.distinct }
  | .indexes => { empty with indexes := q.indexes }
  | .searches => { empty with searches := q.searches }
  | .groupBy => { empty with groupBy := q.groupBy }
  | .order => { empty with orderBy := q.orderBy }
  | .limit => { empty with limit := q.limit }
  | .offset => { empty with offset := q.offset }
  | .options => { empty with options := q.options }
  | .assignments => { empty with assignments := q.assignments }

/-- A query is made of its areas. -/
theorem eq_of_parts {q q' : Query} (h : ∀ a, q.part a = q'.part a) : q = q' := by
  have hconditions := h .conditions
  have hstatement := h .statement
  have hdistinct := h .distinct
  have hindexes := h .indexes
  have hsearches := h .searches
  have hgroupBy := h .groupBy
  have horder := h .order
  have hlimit := h .limit
  have hoffset := h .offset
  have hoptions := h .options
  have hassignments := h .assignments
  cases q
  cases q'
  simp only [part, empty, Query.mk.injEq, true_and, and_true] at *
  grind

/-! ## Steps in their own area -/

theorem part_addCondition (q : Query) (scope : Scope) (logic : Logic) (condition : Condition) :
    (q.addCondition scope logic condition).part .conditions =
      ((q.part .conditions).addCondition scope logic condition).part .conditions := by
  cases scope with
  | filters => rfl
  | having => rfl

theorem part_addConditions (q : Query) (scope : Scope) (logic : Logic)
    (conditions : List Condition) :
    (q.addConditions scope logic conditions).part .conditions =
      ((q.part .conditions).addConditions scope logic conditions).part .conditions := by
  induction conditions generalizing q with
  | nil => rfl
  | cons condition conditions ih =>
    change ((q.addCondition scope logic condition).addConditions scope logic conditions).part _ =
      (((q.part .conditions).addCondition scope logic condition).addConditions scope logic
        conditions).part _
    rw [ih, part_addCondition, ← ih]

theorem part_openBracket (q : Query) (scope : Scope) (logic : Logic) :
    (q.openBracket scope logic).part .conditions =
      ((q.part .conditions).openBracket scope logic).part .conditions := by
  cases scope with
  | filters => rfl
  | having => rfl

theorem map_part_closeBracket (q : Query) (dropIfEmpty : Bool) :
    (q.closeBracket dropIfEmpty).map (part .conditions) =
      ((q.part .conditions).closeBracket dropIfEmpty).map (part .conditions) := by
  have hlast : (q.part .conditions).lastOpened = q.lastOpened := rfl
  have hgroup (scope : Scope) : (q.part .conditions).group scope = q.group scope := by
    cases scope <;> rfl
  have hwith (scope : Scope) (g : Group Condition) : (q.withGroup scope g).part .conditions =
      ((q.part .conditions).withGroup scope g).part .conditions := by
    cases scope <;> rfl
  rw [closeBracket, closeBracket, hlast, hgroup]
  cases (q.group q.lastOpened).closeBracket dropIfEmpty q.lastOpened.keyword with
  | error e => rfl
  | ok g => exact congrArg Except.ok (hwith q.lastOpened g)

/-- Rows are added all at once, unless a query is inserted and there is one of them. -/
theorem addRows_eq (q : Query) (rows : List (List Value)) :
    q.addRows rows = match q.input with
      | .rows given => .ok { q with input := .rows (given ++ rows) }
      | .query _ => if rows = [] then .ok q else .error (.kindConflict .rowAfterQuery) := by
  induction rows generalizing q with
  | nil =>
    cases q with
    | mk _ _ _ _ _ _ _ _ _ _ _ _ input =>
      cases input with
      | rows given =>
        simp only [List.append_nil]
        rfl
      | query query => rfl
  | cons row rows ih =>
    rw [addRows, List.foldlM_cons, addRow]
    cases q.input with
    | rows given =>
      change addRows rows _ = _
      rw [ih]
      simp
    | query query => rfl

/-- What a step does to its area, and whether it fails, depends on the area alone. -/
theorem map_part_apply (q : Query) {call : Call} {a : Area} (h : call.area = some a) :
    (q.apply call).map (part a) = ((q.part a).apply call).map (part a) := by
  have hinput : (q.part .statement).input = q.input := rfl
  cases call with
  | condition scope logic condition =>
    cases h
    exact congrArg Except.ok (q.part_addCondition scope logic condition)
  | conditions scope logic conditions =>
    cases h
    exact congrArg Except.ok (q.part_addConditions scope logic conditions)
  | filter logic condition =>
    cases h
    refine congrArg Except.ok ?_
    unfold addFilter
    split
    · rfl
    · exact q.part_addCondition .filters logic condition
  | openBracket scope logic =>
    cases h
    exact congrArg Except.ok (q.part_openBracket scope logic)
  | closeBracket dropIfEmpty =>
    cases h
    exact q.map_part_closeBracket dropIfEmpty
  | insertRow insertion target row =>
    cases h
    refine congrArg Except.ok ?_
    unfold insertRow pushRow
    split <;> rfl
  | row row =>
    cases h
    change (q.addRow row).map _ = ((q.part .statement).addRow row).map _
    rw [addRow, addRow, hinput]
    cases q.input <;> rfl
  | rows rows =>
    cases h
    change (q.addRows rows).map _ = ((q.part .statement).addRows rows).map _
    rw [addRows_eq, addRows_eq, hinput]
    cases q.input with
    | rows given => rfl
    | query query => split_ifs <;> rfl
  | insertQuery query =>
    cases h
    change (q.insertQuery query).map _ = ((q.part .statement).insertQuery query).map _
    rw [insertQuery, insertQuery, hinput]
    split <;> rfl
  | reset => cases h
  | _ =>
    cases h
    rfl

/-! ## Steps outside of an area -/

theorem part_withGroup {a : Area} (hne : .conditions ≠ a) (q : Query) (scope : Scope)
    (g : Group Condition) : (q.withGroup scope g).part a = q.part a := by
  cases a with
  | conditions => exact absurd rfl hne
  | _ => cases scope <;> rfl

theorem part_addConditions_of_ne {a : Area} (hne : .conditions ≠ a) (q : Query) (scope : Scope)
    (logic : Logic) (conditions : List Condition) :
    (q.addConditions scope logic conditions).part a = q.part a := by
  induction conditions generalizing q with
  | nil => rfl
  | cons condition conditions ih => exact (ih _).trans (part_withGroup hne q scope _)

theorem part_setInput {a : Area} (hne : .statement ≠ a) (q : Query) (input : Input) :
    { q with input }.part a = q.part a := by
  cases a with
  | statement => exact absurd rfl hne
  | _ => rfl

/-- Rows and a query that are inserted change nothing else. -/
theorem yields_addRow (q : Query) (row : List Value) :
    Yields (fun q' => ∃ input, q' = { q with input }) (q.addRow row) := by
  unfold addRow
  split
  · exact .ok ⟨_, rfl⟩
  · exact .error _

theorem yields_addRows (q : Query) (rows : List (List Value)) :
    Yields (fun q' => ∃ input, q' = { q with input }) (q.addRows rows) := by
  rw [addRows_eq]
  split
  · exact .ok ⟨_, rfl⟩
  · split_ifs
    · refine .ok ⟨q.input, ?_⟩
      cases q
      rfl
    · exact .error _

theorem yields_insertQuery (q query : Query) :
    Yields (fun q' => ∃ input, q' = { q with input }) (q.insertQuery query) := by
  unfold insertQuery
  split
  · exact .error _
  · exact .ok ⟨_, rfl⟩

/-- A step leaves all areas but its own as they are. -/
theorem yields_part_apply (q : Query) {call : Call} {a : Area} (hreset : call ≠ .reset)
    (harea : call.area ≠ some a) : Yields (fun q' => q'.part a = q.part a) (q.apply call) := by
  obtain ⟨b, h⟩ := Call.exists_area hreset
  have hne : b ≠ a := fun heq => harea (heq ▸ h)
  have hinput {q' : Query} : (∃ input, q' = { q with input }) → b = .statement →
      q'.part a = q.part a := by
    rintro ⟨input, rfl⟩ rfl
    exact part_setInput hne q input
  cases call with
  | condition scope logic condition =>
    cases h
    exact .ok (part_withGroup hne q scope _)
  | conditions scope logic conditions =>
    cases h
    exact .ok (part_addConditions_of_ne hne q scope logic conditions)
  | filter logic condition =>
    cases h
    refine .ok ?_
    unfold addFilter
    split
    · rfl
    · exact part_withGroup hne q .filters _
  | openBracket scope logic =>
    cases h
    cases a with
    | conditions => exact absurd rfl hne
    | _ => cases scope <;> exact .ok rfl
  | closeBracket dropIfEmpty =>
    cases h
    exact Yields.map (P := fun _ => True) (fun _ _ => trivial) fun g _ => part_withGroup hne q _ g
  | insertRow insertion target row =>
    cases h
    refine .ok ?_
    unfold insertRow pushRow
    cases a with
    | statement => exact absurd rfl hne
    | _ => split <;> rfl
  | row row =>
    cases h
    exact (q.yields_addRow row).imp fun q' h => hinput h rfl
  | rows rows =>
    cases h
    exact (q.yields_addRows rows).imp fun q' h => hinput h rfl
  | insertQuery query =>
    cases h
    exact (q.yields_insertQuery query).imp fun q' h => hinput h rfl
  | reset => cases h
  | _ =>
    -- these steps set clauses of one area; the others are compared one by one
    cases h
    cases a <;> first | exact absurd rfl hne | exact .ok rfl

/-! ## Runs -/

/-- A step leaves all areas but its own as they are, also if it fails. -/
theorem part_step {q : Query} {call : Call} {a : Area} (hreset : call ≠ .reset)
    (harea : call.area ≠ some a) : (q.step call).part a = q.part a := by
  rcases q.step_failure_cases call with ⟨q', happly, hstep, -⟩ | ⟨e, -, hstep, -⟩
  · rw [hstep]
    exact q.yields_part_apply hreset harea q' happly
  · rw [hstep]

/-- Queries that agree in an area still do after a step in it, which fails in both or in none. -/
theorem part_step_congr {q q' : Query} {call : Call} {a : Area} (hpart : q.part a = q'.part a)
    (h : call.area = some a) :
    (q.step call).part a = (q'.step call).part a ∧ q.failure? call = q'.failure? call := by
  have hmap : (q.apply call).map (part a) = (q'.apply call).map (part a) := by
    rw [q.map_part_apply h, q'.map_part_apply h, hpart]
  rcases q.step_failure_cases call with ⟨r, happly, hstep, hfailure⟩ | ⟨e, happly, hstep, hfailure⟩
  all_goals
    rcases q'.step_failure_cases call with
      ⟨r', happly', hstep', hfailure'⟩ | ⟨e', happly', hstep', hfailure'⟩
  all_goals rw [happly, happly'] at hmap
  · rw [hstep, hstep', hfailure, hfailure']
    exact ⟨Except.ok.inj hmap, rfl⟩
  · cases hmap
  · cases hmap
  · rw [hstep, hstep', hfailure, hfailure', Except.error.inj hmap]
    exact ⟨hpart, rfl⟩

/-- What a run does to an area, the steps for the area do by themselves. -/
theorem part_run {q q' : Query} {calls : List Call} {a : Area} (hpart : q.part a = q'.part a)
    (h : .reset ∉ calls) :
    (q.run calls).part a = (q'.run (calls.filter (·.area = some a))).part a ∧
      (q.outcomes calls).filter (·.1.area = some a) =
        q'.outcomes (calls.filter (·.area = some a)) := by
  -- the query beside makes only the steps for the area, so the two agree there and nowhere else
  induction calls generalizing q q' with
  | nil => exact ⟨hpart, rfl⟩
  | cons call calls ih =>
    rw [List.mem_cons, not_or] at h
    rw [run_cons, outcomes]
    by_cases harea : call.area = some a
    · obtain ⟨hstep, hfailure⟩ := part_step_congr hpart harea
      obtain ⟨hrun, houtcomes⟩ := ih hstep h.2
      rw [List.filter_cons_of_pos (by simpa using harea),
        List.filter_cons_of_pos (by simpa using harea), run_cons, outcomes, hrun, houtcomes,
        hfailure]
      exact ⟨rfl, rfl⟩
    · rw [List.filter_cons_of_neg (by simpa using harea),
        List.filter_cons_of_neg (by simpa using harea)]
      exact ih ((part_step (Ne.symm h.1) harea).trans hpart) h.2

/-- **Steps for different areas may be made in any order.** Two runs that have the same steps for
each area, in the same order, lead to the same query; the same steps fail in both, with the same
errors, and the text is the same. -/
theorem run_eq_of_areas (q : Query) {calls calls' : List Call} (h : .reset ∉ calls)
    (h' : .reset ∉ calls')
    (hareas : ∀ a, calls.filter (·.area = some a) = calls'.filter (·.area = some a)) :
    q.run calls = q.run calls' ∧
    (∀ a, (q.outcomes calls).filter (·.1.area = some a) =
      (q.outcomes calls').filter (·.1.area = some a)) ∧
    (q.run calls).render = (q.run calls').render := by
  have hrun : q.run calls = q.run calls' := by
    refine eq_of_parts fun a => ?_
    rw [(part_run rfl h).1, (part_run rfl h').1, hareas]
  refine ⟨hrun, fun a => ?_, congrArg render hrun⟩
  rw [(part_run rfl h).2, (part_run rfl h').2, hareas]

/-- A selection built clause by clause, with two brackets too many. -/
def inTurn : List Call :=
  [.select [.name "a"], .index (.name "rt"), .closeBracket true, .openBracket .having .and,
    .condition .filters .or (.equal (.name "b") (.int 1)),
    .condition .having .and (.equal (.name "c") (.int 2)), .closeBracket false,
    .closeBracket false, .row [], .insertQuery empty, .limit 5, .offset 2]

/-- The same steps, those for different areas in another order. -/
def shuffled : List Call :=
  [.offset 2, .closeBracket true, .select [.name "a"], .openBracket .having .and, .row [],
    .condition .filters .or (.equal (.name "b") (.int 1)), .limit 5,
    .condition .having .and (.equal (.name "c") (.int 2)), .insertQuery empty,
    .closeBracket false, .index (.name "rt"), .closeBracket false]

theorem run_eq_of_areas_shuffled :
    .reset ∉ inTurn ∧ .reset ∉ shuffled ∧
    (∀ a, inTurn.filter (·.area = some a) = shuffled.filter (·.area = some a)) ∧
    empty.run inTurn = empty.run shuffled ∧
    (empty.outcomes shuffled).filterMap Prod.snd =
      [.malformedGroup (.noneOpen "WHERE"), .kindConflict .queryAfterRow,
        .malformedGroup (.noneOpen "HAVING")] ∧
    ((empty.outcomes shuffled).filter (·.1.area = some .statement)).map Prod.snd =
      [none, none, some (.kindConflict .queryAfterRow)] ∧
    (empty.run shuffled).render =
      .ok "SELECT `a` FROM `rt` WHERE `b` = 1 HAVING (`c` = 2) LIMIT 2, 5" := by
  have hareas : ∀ a, inTurn.filter (·.area = some a) = shuffled.filter (·.area = some a) := by
    intro a
    cases a <;> rfl
  have hturn : Call.reset ∉ inTurn := by simp [inTurn]
  have hshuffled : Call.reset ∉ shuffled := by simp [shuffled]
  obtain ⟨hrun, houtcomes, hrender⟩ := run_eq_of_areas empty hturn hshuffled hareas
  refine ⟨hturn, hshuffled, hareas, hrun, rfl, ?_, ?_⟩
  · rw [← houtcomes]
    rfl
  · rw [← hrender]
    rfl

end Query

end SearchQL
