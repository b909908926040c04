import SearchQL.Proofs.Scoped

/-!
# Brackets of queries that can be built

A query is built by steps from an empty one. Its groups of conditions are then groups made by edits
from the empty group, so that their depth is right, and a statement that writes a group with an
open bracket is refused.

* `Query.Reachable` are the queries that steps lead to, and `Query.Reachable.exists_run` takes
  their groups back to edits.
* `Clauses.statement_fails` says that a statement fails with each group that its kind writes.
* `Query.brackets_balance` is the result.
-/

namespace SearchQL

/-! ## Computations that fail -/

/-- A computation without a result. -/
def Fails {α : Type} (x : Except Error α) : Prop := ∃ e, x = .error e

namespace Fails

variable {α β : Type}

theorem not_ok {x : Except Error α} (h : Fails x) (a : α) : x ≠ .ok a := by
  obtain ⟨e, rfl⟩ := h
  exact nofun

theorem map {x : Except Error α} (h : Fails x) (f : α → β) : Fails (x.map f) := by
  obtain ⟨e, rfl⟩ := h
  exact ⟨e, rfl⟩

theorem bind {x : Except Error α} (h : Fails x) (f : α → Except Error β) : Fails (x >>= f) := by
  obtain ⟨e, rfl⟩ := h
  exact ⟨e, rfl⟩

/-- What comes before a failure can only fail earlier. -/
theorem after (x : Except Error α) {f : α → Except Error β} (h : ∀ a, Fails (f a)) :
    Fails (x >>= f) := by
  cases x with
  | error e => exact ⟨e, rfl⟩
  | ok a => exact h a

end Fails

/-! ## Groups of statements -/

/-- Whether the statements of a kind write a group of conditions. -/
def Kind.writes (scope : Scope) : Kind → Bool
  | .select | .multiSelect => true
  | .update | .delete => scope = .filters
  | _ => false

namespace Clauses

/-- The clause of a group of conditions. -/
def group (scope : Scope) (c : Clauses) : Option (Except Error String) :=
  match scope with
  | .filters => c.filters
  | .having => c.having

theorem conditions_fails (keyword : String) {x : Except Error String} (h : Fails x) :
    Fails (conditions keyword (some x)) := h.map _

theorem selectionFilter_fails {c : Clauses} {x : Except Error String} (h : Fails x)
    (hc : c.filters = some x) : Fails c.selectionFilter := by
  unfold selectionFilter
  rw [hc]
  split
  · exact conditions_fails _ h
  · exact (conditions_fails _ h).map _

theorem selection_fails {c : Clauses} {scope : Scope} {x : Except Error String} (h : Fails x)
    (hc : c.group scope = some x) : Fails c.selection := by
  unfold selection
  refine .after _ fun columns => .after _ fun indexes => ?_
  cases scope with
  | filters => exact (selectionFilter_fails h hc).bind _
  | having =>
    refine .after _ fun filter => .after _ fun groupBy => Fails.bind ?_ _
    change c.having = some x at hc
    rw [hc]
    exact conditions_fails _ h

theorem changeTail_fails {c : Clauses} {x : Except Error String} (h : Fails x)
    (hc : c.filters = some x) : Fails c.changeTail := by
  unfold changeTail
  rw [hc]
  exact (conditions_fails _ h).bind _

theorem update_fails {c : Clauses} (h : Fails c.changeTail) : Fails c.update := by
  unfold update
  split
  · exact ⟨_, rfl⟩
  · exact ⟨_, rfl⟩
  · exact .after _ fun target => .after _ fun assignments => h.bind _

theorem deletion_fails {c : Clauses} (h : Fails c.changeTail) : Fails c.deletion := by
  unfold deletion
  split
  · exact ⟨_, rfl⟩
  · exact .after _ fun target => h.bind _

/-- A statement fails with each of the groups that its kind writes. -/
theorem statement_fails {c : Clauses} {kind : Kind} {scope : Scope} {x : Except Error String}
    (h : Fails x) (hc : c.group scope = some x) (hkind : kind.writes scope) :
    Fails (c.statement (some kind)) := by
  cases kind with
  | select => exact selection_fails h hc
  | multiSelect => exact selection_fails h hc
  | update =>
    obtain rfl : scope = .filters := by simpa [Kind.writes] using hkind
    exact update_fails (changeTail_fails h hc)
  | delete =>
    obtain rfl : scope = .filters := by simpa [Kind.writes] using hkind
    exact deletion_fails (changeTail_fails h hc)
  | raw => cases hkind
  | insert => cases hkind
  | replace => cases hkind

end Clauses

/-- A group with an open bracket is refused, unless it is empty. -/
theorem Condition.renderClause_fails (scope : Scope) {g : Group Condition} (hdepth : g.depth ≠ 0)
    (hne : g.isEmpty = false) : ∃ x, Condition.renderClause scope g = some x ∧ Fails x := by
  obtain ⟨entries, depth⟩ := g
  have hentries : ¬ entries.isEmpty = true := by simpa [Group.isEmpty] using hne
  refine ⟨_, by rw [Condition.renderClause, if_neg hentries], ?_⟩
  rw [Group.balancedText, if_pos hdepth]
  exact ⟨_, rfl⟩

namespace Query

theorem group_clauses (q : Query) (scope : Scope) :
    q.clauses.group scope = Condition.renderClause scope (q.group scope) := by
  cases q
  cases scope <;> rfl

/-! ## Groups made by edits -/

/-- The queries that steps lead to from an empty one. -/
inductive Reachable : Query → Prop where
  | empty : Reachable empty
  | ofKind (kind : Kind) : Reachable (ofKind kind)
  | apply {q q' : Query} {call : Call} (h : Reachable q) (hcall : q.apply call = .ok q') :
      Reachable q'

theorem Reachable.run {q : Query} (h : q.Reachable) (calls : List Call) :
    (q.run calls).Reachable := by
  induction calls generalizing q with
  | nil => exact h
  | cons call calls ih =>
    refine ih ?_
    unfold step
    split
    · exact .apply h ‹_›
    · exact h

/-- The groups of a query that can be built are made by edits. -/
theorem Reachable.exists_run {q : Query} (h : q.Reachable) (scope : Scope) :
    ∃ edits, q.group scope = Group.run {} edits := by
  induction h with
  | empty => exact ⟨[], by cases scope <;> rfl⟩
  | ofKind kind => exact ⟨[], by cases scope <;> rfl⟩
  | @apply q q' call _ hcall ih =>
    obtain ⟨edits, hedits⟩ := ih
    by_cases hreset : call = .reset
    · subst hreset
      cases hcall
      exact ⟨[], by cases scope <;> rfl⟩
    · have hgroup := q.group_step hreset scope
      rw [(step_of_ok hcall).1, hedits, ← Group.run_append] at hgroup
      exact ⟨_, hgroup⟩

theorem Reachable.sound {q : Query} (h : q.Reachable) (scope : Scope) :
    (q.group scope).Sound := by
  obtain ⟨edits, hedits⟩ := h.exists_run scope
  rw [hedits]
  exact Group.sound_run edits

/-! ## Statements -/

/-- An open bracket in a group that is written makes the statement fail. -/
theorem Reachable.render_fails {q : Query} (h : q.Reachable) {kind : Kind} {scope : Scope}
    (hkind : q.kind = some kind) (hwrites : kind.writes scope)
    (hdepth : (q.group scope).depth ≠ 0) : Fails q.render := by
  have hne := (h.sound scope).isEmpty_eq_false (Nat.pos_of_ne_zero hdepth)
  obtain ⟨x, hx, hfails⟩ := Condition.renderClause_fails scope hdepth hne
  rw [render, hkind]
  exact Clauses.statement_fails hfails ((q.group_clauses scope).trans hx) hwrites

/-- The depth of a group is what its brackets leave open, however the group was made. A statement
that writes a group of conditions is refused while a bracket of the group is open, so that every
statement has balanced brackets. -/
theorem brackets_balance {α : Type} :
    (∀ (edits : List (Group.Edit α)) (g : Group α), Group.run {} edits = g →
      (g.depth : Int) = Entry.opens g.entries - Entry.closes g.entries ∧
      (∀ es, es <+: g.entries → Entry.closes es ≤ Entry.opens es) ∧
      (∀ dropIfEmpty label,
        (∃ e, g.closeBracket dropIfEmpty label = .error e) ↔ g.depth = 0) ∧
      (0 < g.depth → g.isEmpty = false)) ∧
    ∀ q : Query, q.Reachable → ∀ kind scope, q.kind = some kind → kind.writes scope →
      (∀ text, q.render = .ok text → Entry.Balanced (q.group scope).entries) ∧
      ((q.group scope).depth ≠ 0 → (q.group scope).isEmpty = false ∧ ∃ e, q.render = .error e) := by
  constructor
  · rintro edits g rfl
    have hsound : (Group.run {} edits).Sound := Group.sound_run edits
    have hdepth := hsound.depth_eq
    exact ⟨by omega, hsound.neverBelow, fun _ _ => Group.exists_closeBracket_eq_error_iff,
      hsound.isEmpty_eq_false⟩
  · intro q hq kind scope hkind hwrites
    have hsound : (q.group scope).Sound := hq.sound scope
    constructor
    · intro text htext
      refine hsound.balanced (Classical.byContradiction fun hdepth => ?_)
      exact (hq.render_fails hkind hwrites hdepth).not_ok text htext
    · intro hdepth
      exact ⟨hsound.isEmpty_eq_false (Nat.pos_of_ne_zero hdepth),
        hq.render_fails hkind hwrites hdepth⟩

/-- A deletion with brackets in both groups, of which one is dropped and one stays open. -/
def bracketing : Query :=
  empty.run [.delete (.name "rt"), .openBracket .filters .and,
    .filter .and (.equal (.name "a") (.int 1)), .openBracket .filters .or, .closeBracket true,
    .closeBracket false, .openBracket .having .and]

theorem brackets_balance_bracketing :
    bracketing.Reachable ∧ (∃ text, bracketing.render = .ok text) ∧
    Entry.Balanced (bracketing.group .filters).entries ∧
    (bracketing.select []).Reachable ∧ ((bracketing.select []).group .having).depth = 1 ∧
    (∃ e, (bracketing.select []).render = .error e) ∧
    ((Group.run {} [.closeBracket false "", .openBracket .or] : Group Nat).depth : Int) = 1 - 0 := by
  have hreach : bracketing.Reachable := Reachable.empty.run _
  have hselect : (bracketing.select []).Reachable := hreach.run [.select []]
  have hrender : ∃ text, bracketing.render = .ok text := ⟨_, rfl⟩
  obtain ⟨text, htext⟩ := hrender
  have hdelete := brackets_balance (α := Nat).2 bracketing hreach .delete .filters rfl rfl
  have hopen := brackets_balance (α := Nat).2 (bracketing.select []) hselect .select .having rfl rfl
  refine ⟨hreach, ⟨text, htext⟩, hdelete.1 text htext, hselect, rfl, (hopen.2 (by decide)).2, ?_⟩
  exact (brackets_balance.1 _ _ rfl).1

end Query

end SearchQL
