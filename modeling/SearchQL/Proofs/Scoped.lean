import SearchQL.Proofs.Area
import SearchQL.Proofs.Bracket

/-!
# The two groups of conditions, each by itself

A query has two groups of conditions. A condition and an opening bracket name the group that they
are for, and a bracket is closed in the group in which one was opened last. So a run makes of each
group what the steps that are for this group make of it by themselves.

* `Call.edits` are the edits that a step makes in a group, and `Query.group_step` says so.
* `Call.lastOpened` is the group in which a run opened a bracket last, `Call.replay` are the edits
  that a run makes in a group, and `Query.group_run` says so.
* `Call.given` are the conditions that a step gives to a group, and `Group.clauses` those that a
  group has.
* `Query.groups_apart` is the result.
-/

namespace SearchQL

/-! ## Steps for a group -/

namespace Call

/-- The group in which a step opens a bracket. -/
def opened? : Call → Option Scope
  | .openBracket scope _ => some scope
  | _ => none

/-- The group in which a bracket was opened last. Where none was, it is that of the conditions on
documents. -/
def lastOpened (calls : List Call) : Scope := (calls.filterMap opened?).getLast?.getD .filters

/-- The conditions that a step gives to a group, each with its logic. A filter with a blank value
gives none. -/
def given (scope : Scope) : Call → List (Logic × Condition)
  | .condition scope' logic c => if scope' = scope then [(logic, c)] else []
  | .conditions scope' logic cs => if scope' = scope then cs.map (logic, ·) else []
  | .filter logic c => if scope = .filters ∧ ¬ c.value.isBlank then [(logic, c)] else []
  | _ => []

/-- The edits that a step makes in a group, if brackets are closed in the group `closing`. -/
def edits (scope closing : Scope) : Call → List (Group.Edit Condition)
  | .condition scope' logic c => if scope' = scope then [.push logic c] else []
  | .conditions scope' logic cs => if scope' = scope then cs.map (.push logic) else []
  | .filter logic c => if scope = .filters ∧ ¬ c.value.isBlank then [.push logic c] else []
  | .openBracket scope' logic => if scope' = scope then [.openBracket logic] else []
  | .closeBracket dropIfEmpty =>
    if closing = scope then [.closeBracket dropIfEmpty closing.keyword] else []
  | _ => []

/-- The edits that the steps of a run make in a group, behind the steps of another run. -/
def replayBehind (scope : Scope) (before : List Call) : List Call → List (Group.Edit Condition)
  | [] => []
  | call :: after =>
    call.edits scope (lastOpened before) ++ replayBehind scope (before ++ [call]) after

/-- The edits that a run makes in a group: those of the steps for this group, with every closing
bracket for which the bracket opened last before it is one of the group. -/
def replay (scope : Scope) (calls : List Call) : List (Group.Edit Condition) :=
  replayBehind scope [] calls

theorem replayBehind_concat (scope : Scope) (before calls : List Call) (call : Call) :
    replayBehind scope before (calls ++ [call]) =
      replayBehind scope before calls ++ call.edits scope (lastOpened (before ++ calls)) := by
  induction calls generalizing before with
  | nil => simp [replayBehind]
  | cons first calls ih =>
    rw [List.cons_append, replayBehind, ih, replayBehind, List.append_assoc, List.append_assoc,
      List.singleton_append]

theorem replay_concat (scope : Scope) (calls : List Call) (call : Call) :
    replay scope (calls ++ [call]) = replay scope calls ++ call.edits scope (lastOpened calls) :=
  replayBehind_concat scope [] calls call

theorem lastOpened_concat (calls : List Call) (call : Call) :
    lastOpened (calls ++ [call]) = call.opened?.getD (lastOpened calls) := by
  unfold lastOpened
  cases h : call.opened? with
  | none => simp [h]
  | some scope => simp [h]

/-- Steps for other areas make no edits. -/
theorem edits_of_area {call : Call} (h : call.area ≠ some .conditions) (scope closing : Scope) :
    call.edits scope closing = [] := by
  cases call <;> first | rfl | exact absurd rfl h

theorem opened?_of_area {call : Call} (h : call.area ≠ some .conditions) : call.opened? = none := by
  cases call <;> first | rfl | exact absurd rfl h

end Call

/-! ## What a step makes of a group -/

namespace Query

theorem group_withGroup (q : Query) (scope scope' : Scope) (g : Group Condition) :
    (q.withGroup scope' g).group scope = if scope' = scope then g else q.group scope := by
  cases scope <;> cases scope' <;> rfl

theorem withGroup_group (q : Query) (scope : Scope) : q.withGroup scope (q.group scope) = q := by
  cases q
  cases scope <;> rfl

theorem lastOpened_withGroup (q : Query) (scope : Scope) (g : Group Condition) :
    (q.withGroup scope g).lastOpened = q.lastOpened := by
  cases scope <;> rfl

/-- An edit of one group leaves the other as it is. -/
theorem group_withGroup_step (q : Query) (scope scope' : Scope) (edit : Group.Edit Condition) :
    (q.withGroup scope' ((q.group scope').step edit)).group scope =
      (q.group scope).run (if scope' = scope then [edit] else []) := by
  rw [group_withGroup]
  split
  case isTrue h => rw [h]; rfl
  case isFalse => rfl

/-- Conditions are put at the end of the group that they are given to. -/
theorem group_addConditions (q : Query) (scope scope' : Scope) (logic : Logic)
    (cs : List Condition) : (q.addConditions scope' logic cs).group scope =
      (q.group scope).run (if scope' = scope then cs.map (.push logic) else []) := by
  induction cs generalizing q with
  | nil => split <;> rfl
  | cons c cs ih =>
    have hfirst : (q.addCondition scope' logic c).group scope =
        (q.group scope).run (if scope' = scope then [.push logic c] else []) :=
      q.group_withGroup_step scope scope' (.push logic c)
    change ((q.addCondition scope' logic c).addConditions scope' logic cs).group scope = _
    rw [ih, hfirst]
    split <;> rfl

/-- A closing bracket is an edit of the group in which one was opened last, also if it fails. -/
theorem step_closeBracket (q : Query) (dropIfEmpty : Bool) :
    q.step (.closeBracket dropIfEmpty) = q.withGroup q.lastOpened
      ((q.group q.lastOpened).step (.closeBracket dropIfEmpty q.lastOpened.keyword)) := by
  rw [step, apply, closeBracket, Group.step, Group.apply]
  cases (q.group q.lastOpened).closeBracket dropIfEmpty q.lastOpened.keyword with
  | ok g => rfl
  | error e => exact (q.withGroup_group q.lastOpened).symm

/-- What a step makes of a group is what its edits make of it. -/
theorem group_step (q : Query) {call : Call} (h : call ≠ .reset) (scope : Scope) :
    (q.step call).group scope = (q.group scope).run (call.edits scope q.lastOpened) := by
  by_cases harea : call.area = some .conditions
  · cases call with
    | condition scope' logic c => exact q.group_addConditions scope scope' logic [c]
    | conditions scope' logic cs => exact q.group_addConditions scope scope' logic cs
    | filter logic c =>
      have hadd := q.group_addConditions scope .filters logic [c]
      change (q.addFilter logic c).group scope = _
      unfold addFilter Call.edits
      by_cases hblank : c.value.isBlank = true
      · simp [hblank]
      · simpa [hblank, eq_comm, addConditions] using hadd
    | openBracket scope' logic => exact q.group_withGroup_step scope scope' (.openBracket logic)
    | closeBracket dropIfEmpty =>
      rw [step_closeBracket]
      exact q.group_withGroup_step scope q.lastOpened _
    | _ => cases harea
  · have hpart : (q.step call).part .conditions = q.part .conditions := part_step h harea
    have hfilters := congrArg Query.filters hpart
    have hhaving := congrArg Query.having hpart
    rw [Call.edits_of_area harea]
    cases scope with
    | filters => exact hfilters
    | having => exact hhaving

theorem lastOpened_addConditions (q : Query) (scope : Scope) (logic : Logic)
    (cs : List Condition) : (q.addConditions scope logic cs).lastOpened = q.lastOpened := by
  induction cs generalizing q with
  | nil => rfl
  | cons c cs ih => exact (ih _).trans (q.lastOpened_withGroup scope _)

/-- Only an opening bracket changes in which group the next one is closed. -/
theorem lastOpened_step (q : Query) {call : Call} (h : call ≠ .reset) :
    (q.step call).lastOpened = call.opened?.getD q.lastOpened := by
  by_cases harea : call.area = some .conditions
  · cases call with
    | condition scope logic c => exact q.lastOpened_withGroup scope _
    | conditions scope logic cs => exact q.lastOpened_addConditions scope logic cs
    | filter logic c =>
      change (q.addFilter logic c).lastOpened = q.lastOpened
      unfold addFilter
      split
      · rfl
      · exact q.lastOpened_withGroup .filters _
    | openBracket scope logic => rfl
    | closeBracket dropIfEmpty =>
      rw [step_closeBracket]
      exact q.lastOpened_withGroup q.lastOpened _
    | _ => cases harea
  · have hpart : (q.step call).part .conditions = q.part .conditions := part_step h harea
    have hlast := congrArg Query.lastOpened hpart
    rw [Call.opened?_of_area harea]
    exact hlast

/-- A bracket cannot be closed exactly if none is open in the group in which one was opened last. -/
theorem failure?_closeBracket_iff (q : Query) (dropIfEmpty : Bool) (e : Error) :
    q.failure? (.closeBracket dropIfEmpty) = some e ↔ (q.group q.lastOpened).depth = 0 ∧
      e = .malformedGroup (.noneOpen q.lastOpened.keyword) := by
  rw [failure?_eq_some_iff, ← Group.closeBracket_eq_error_iff, apply, closeBracket]
  cases (q.group q.lastOpened).closeBracket dropIfEmpty q.lastOpened.keyword <;> simp [Except.map]

/-! ## Runs -/

/-- The query without any clause, of a kind or of none yet. -/
def fresh (kind : Option Kind) : Query := { empty with kind }

/-- A run makes of both groups what its edits of each make of the empty one. -/
theorem group_run (kind : Option Kind) {calls : List Call} (h : .reset ∉ calls) :
    (∀ scope, ((fresh kind).run calls).group scope = Group.run {} (Call.replay scope calls)) ∧
      ((fresh kind).run calls).lastOpened = Call.lastOpened calls := by
  induction calls using List.reverseRecOn with
  | nil => exact ⟨fun scope => by cases scope <;> rfl, rfl⟩
  | append_singleton calls call ih =>
    rw [List.mem_append, not_or, List.mem_singleton] at h
    obtain ⟨hgroup, hlast⟩ := ih h.1
    have hcall : call ≠ .reset := Ne.symm h.2
    rw [run_append, run_cons, run_nil]
    constructor
    · intro scope
      rw [group_step _ hcall, hgroup, hlast, Call.replay_concat, Group.run_append]
    · rw [lastOpened_step _ hcall, hlast, Call.lastOpened_concat]

end Query

/-! ## The clauses of a group -/

variable {α : Type}

/-- The clause of an entry, with its logic. -/
def Entry.clause? : Entry α → Option (Logic × α)
  | .clause logic item => some (logic, item)
  | _ => none

namespace Group

/-- The clauses of a group from left to right, whatever brackets they are in. -/
def clauses (g : Group α) : List (Logic × α) := g.entries.filterMap Entry.clause?

/-- The clause that an edit adds. -/
def Edit.pushed : Edit α → List (Logic × α)
  | .push logic item => [(logic, item)]
  | _ => []

/-- Brackets have no clauses, and an empty one that is dropped takes none away. -/
theorem clauses_closeBracket {g g' : Group α} {dropIfEmpty : Bool} {label : String}
    (h : g.closeBracket dropIfEmpty label = .ok g') : g'.clauses = g.clauses := by
  unfold closeBracket at h
  split at h
  · cases h
  split at h
  case isTrue hdrop =>
    cases h
    obtain ⟨logic, hentries⟩ := endsOpen_iff.1 (Bool.and_eq_true_iff.1 hdrop).2
    have hclauses := congrArg (List.filterMap Entry.clause?) hentries
    rw [List.filterMap_append] at hclauses
    exact (hclauses.trans (List.append_nil _)).symm
  case isFalse =>
    cases h
    simp [clauses, Entry.clause?]

theorem clauses_step (g : Group α) (edit : Edit α) :
    (g.step edit).clauses = g.clauses ++ edit.pushed := by
  cases edit with
  | push logic item => simp [step, apply, push, clauses, Entry.clause?, Edit.pushed]
  | openBracket logic => simp [step, apply, openBracket, clauses, Entry.clause?, Edit.pushed]
  | closeBracket dropIfEmpty label =>
    have hpushed : (Edit.closeBracket dropIfEmpty label : Edit α).pushed = [] := rfl
    rw [step, apply, hpushed, List.append_nil]
    split
    case h_1 g' hclose => exact clauses_closeBracket hclose
    case h_2 => rfl

/-- The clauses of a group are those that were added, in order. -/
theorem clauses_run (g : Group α) (edits : List (Edit α)) :
    (g.run edits).clauses = g.clauses ++ edits.flatMap Edit.pushed := by
  induction edits generalizing g with
  | nil => simp
  | cons edit edits ih =>
    rw [run_cons, ih, clauses_step, List.append_assoc, List.flatMap_cons]

end Group

namespace Call

open SearchQL.Group

/-- The edits of a step add the conditions that it gives. -/
theorem flatMap_pushed_edits (scope closing : Scope) (call : Call) :
    (call.edits scope closing).flatMap Edit.pushed = call.given scope := by
  cases call with
  | condition scope' logic c => exact apply_ite (List.flatMap Edit.pushed) _ _ _
  | conditions scope' logic cs =>
    have hpushed : (cs.map (.push logic)).flatMap Edit.pushed = cs.map (logic, ·) := by
      rw [List.flatMap_map]
      exact List.map_eq_flatMap.symm
    exact (apply_ite (List.flatMap Edit.pushed) _ _ _).trans (by rw [hpushed]; rfl)
  | filter logic c => exact apply_ite (List.flatMap Edit.pushed) _ _ _
  | openBracket scope' logic =>
    exact (apply_ite (List.flatMap Edit.pushed) _ _ _).trans (ite_self [])
  | closeBracket dropIfEmpty =>
    exact (apply_ite (List.flatMap Edit.pushed) _ _ _).trans (ite_self [])
  | _ => rfl

theorem flatMap_pushed_replay (scope : Scope) (calls : List Call) :
    (replay scope calls).flatMap Edit.pushed = calls.flatMap (given scope) := by
  induction calls using List.reverseRecOn with
  | nil => rfl
  | append_singleton calls call ih =>
    rw [replay_concat, List.flatMap_append, List.flatMap_append, ih, flatMap_pushed_edits,
      List.flatMap_singleton]

end Call

namespace Query

/-- **The two groups do not touch each other.** After a run each group is what the steps for it
make of an empty group, brackets being closed in the group in which one was opened last. A bracket
cannot be closed exactly if this group has none open. The clauses of a group are the conditions
that were given to it, in order and with their logic. -/
theorem groups_apart (kind : Option Kind) {calls : List Call} (h : .reset ∉ calls) :
    (∀ scope, ((fresh kind).run calls).group scope = Group.run {} (Call.replay scope calls)) ∧
    (∀ before dropIfEmpty after, calls = before ++ .closeBracket dropIfEmpty :: after →
      ∀ scope, Call.lastOpened before = scope →
      ∀ e, ((fresh kind).run before).failure? (.closeBracket dropIfEmpty) = some e ↔
        Entry.Balanced (Group.run {} (Call.replay scope before)).entries ∧
          e = .malformedGroup (.noneOpen scope.keyword)) ∧
    ∀ scope, (((fresh kind).run calls).group scope).clauses = calls.flatMap (Call.given scope) := by
  refine ⟨(group_run kind h).1, ?_, fun scope => ?_⟩
  · rintro before dropIfEmpty after rfl scope rfl e
    have hbefore : .reset ∉ before := fun hmem => h (List.mem_append_left _ hmem)
    obtain ⟨hgroup, hlast⟩ := group_run kind hbefore
    rw [failure?_closeBracket_iff, hlast, hgroup,
      (Group.sound_run (Call.replay (Call.lastOpened before) before)).depth_eq_zero_iff]
  · rw [(group_run kind h).1 scope, Group.clauses_run, Call.flatMap_pushed_replay]
    rfl

/-- A run that opens brackets in both groups, gives conditions to the one while a bracket of the
other is open, and closes one bracket too many. -/
def interleaved : List Call :=
  [.openBracket .filters .and, .condition .having .or (.equal (.name "h") (.int 1)),
    .openBracket .having .and, .filter .or (.equal (.name "blank") (.text " ")),
    .condition .filters .and (.equal (.name "w") (.int 2)), .closeBracket true,
    .closeBracket false]

theorem groups_apart_interleaved :
    .reset ∉ interleaved ∧
    ((empty.run interleaved).group .filters).entries =
      [.opened .and, .clause .and (.equal (.name "w") (.int 2))] ∧
    ((empty.run interleaved).group .having).entries =
      [.clause .or (.equal (.name "h") (.int 1))] ∧
    (empty.run (interleaved.take 6)).failure? (.closeBracket false) =
      some (.malformedGroup (.noneOpen "HAVING")) := by
  have hreset : .reset ∉ interleaved := by simp [interleaved]
  obtain ⟨hgroup, hfails, -⟩ := groups_apart none hreset
  have hbalanced : Entry.Balanced
      (Group.run {} (Call.replay .having (interleaved.take 6))).entries := by
    exact (Group.sound_run _).balanced rfl
  refine ⟨hreset, ?_, ?_, ?_⟩
  · exact congrArg Group.entries (hgroup .filters)
  · exact congrArg Group.entries (hgroup .having)
  · exact (hfails (interleaved.take 6) false [] rfl .having rfl _).2 ⟨hbalanced, rfl⟩

end Query

end SearchQL
