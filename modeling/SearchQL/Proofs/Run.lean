import Mathlib.Data.List.Basic
import Mathlib.Data.List.Induction
import SearchQL.Query.Call

/-!
# Runs traced back

A run goes on after a step that fails, so what it leads to depends on which steps fail. A property
that some steps give and others take away holds after a run if it was given and not taken away
since.

* `Query.failure?` is why a step fails, and `Query.outcomes` are the steps of a run, each with its
  error if it fails.
* `Query.run_iff_exists` and `Query.run_iff_exists_outcome` trace a property back to the last step
  that gave it.
-/

namespace SearchQL

/-- What is given at a place of a list and kept by all that follows is given by the last member, or
given before and kept by it. -/
theorem exists_split_append_singleton {α : Type} {gives : List α → α → Prop} {keeps : α → Prop}
    {xs : List α} {x : α} :
    (∃ before y after, xs ++ [x] = before ++ y :: after ∧ gives before y ∧
      ∀ later ∈ after, keeps later) ↔
    gives xs x ∨ (∃ before y after, xs = before ++ y :: after ∧ gives before y ∧
      ∀ later ∈ after, keeps later) ∧ keeps x := by
  constructor
  · rintro ⟨before, y, after, heq, hgives, hafter⟩
    rcases List.eq_nil_or_concat' after with rfl | ⟨after, last, rfl⟩
    · obtain ⟨rfl, hlast⟩ := List.append_inj' heq rfl
      cases hlast
      exact .inl hgives
    · rw [← List.cons_append, ← List.append_assoc] at heq
      obtain ⟨rfl, hlast⟩ := List.append_inj' heq rfl
      cases hlast
      rw [List.forall_mem_append, List.forall_mem_singleton] at hafter
      exact .inr ⟨⟨before, y, after, rfl, hgives, hafter.1⟩, hafter.2⟩
  · rintro (hgives | ⟨⟨before, y, after, rfl, hgives, hafter⟩, hx⟩)
    · exact ⟨xs, x, [], rfl, hgives, List.forall_mem_nil _⟩
    · refine ⟨before, y, after ++ [x], by simp, hgives, ?_⟩
      rw [List.forall_mem_append, List.forall_mem_singleton]
      exact ⟨hafter, hx⟩

namespace Query

/-! ## Steps and their outcomes -/

/-- Why a step fails, if it does. -/
def failure? (q : Query) (call : Call) : Option Error :=
  match q.apply call with
  | .ok _ => none
  | .error e => some e

/-- The steps of a run, each with its error if it fails. -/
def outcomes (q : Query) : List Call → List (Call × Option Error)
  | [] => []
  | call :: calls => (call, q.failure? call) :: (q.step call).outcomes calls

theorem failure?_eq_some_iff {q : Query} {call : Call} {e : Error} :
    q.failure? call = some e ↔ q.apply call = .error e := by
  unfold failure?
  cases q.apply call with
  | ok q' => exact ⟨nofun, nofun⟩
  | error e' => simp

theorem step_of_ok {q q' : Query} {call : Call} (h : q.apply call = .ok q') :
    q.step call = q' ∧ q.failure? call = none := by
  rw [step, failure?, h]
  exact ⟨rfl, rfl⟩

theorem step_of_error {q : Query} {call : Call} {e : Error} (h : q.apply call = .error e) :
    q.step call = q ∧ q.failure? call = some e := by
  rw [step, failure?, h]
  exact ⟨rfl, rfl⟩

/-- A step leads on, or it fails and leaves the query as it is. -/
theorem step_failure_cases (q : Query) (call : Call) :
    (∃ q', q.apply call = .ok q' ∧ q.step call = q' ∧ q.failure? call = none) ∨
      ∃ e, q.apply call = .error e ∧ q.step call = q ∧ q.failure? call = some e := by
  cases happly : q.apply call with
  | ok q' => exact .inl ⟨q', rfl, step_of_ok happly⟩
  | error e => exact .inr ⟨e, rfl, step_of_error happly⟩

theorem outcomes_append (q : Query) (calls calls' : List Call) :
    q.outcomes (calls ++ calls') = q.outcomes calls ++ (q.run calls).outcomes calls' := by
  induction calls generalizing q with
  | nil => rfl
  | cons call calls ih => rw [List.cons_append, outcomes, ih, outcomes, run_cons, List.cons_append]

/-! ## Properties traced back -/

variable {P : Query → Prop} {q : Query}

/-- A property that a step gives, and that other steps keep, holds after a run exactly if it was
given and kept from there on. -/
theorem run_iff_exists {gives : Query → Call → Prop} {keeps : Call → Prop} (hq : ¬ P q)
    (hstep : ∀ q call, P (q.step call) ↔ gives q call ∨ P q ∧ keeps call) (calls : List Call) :
    P (q.run calls) ↔ ∃ before call after, calls = before ++ call :: after ∧
      gives (q.run before) call ∧ ∀ later ∈ after, keeps later := by
  induction calls using List.reverseRecOn with
  | nil => simpa using hq
  | append_singleton calls last ih =>
    rw [run_append, run_cons, run_nil, hstep, ih, exists_split_append_singleton]

/-- The same for a property that depends on how the steps turn out. -/
theorem run_iff_exists_outcome {gives keeps : Call × Option Error → Prop} (hq : ¬ P q)
    {calls : List Call} (hstep : ∀ q, ∀ call ∈ calls,
      P (q.step call) ↔ gives (call, q.failure? call) ∨ P q ∧ keeps (call, q.failure? call)) :
    P (q.run calls) ↔ ∃ before outcome after, q.outcomes calls = before ++ outcome :: after ∧
      gives outcome ∧ ∀ later ∈ after, keeps later := by
  induction calls using List.reverseRecOn with
  | nil => simpa [outcomes] using hq
  | append_singleton calls last ih =>
    have hlast : q.outcomes (calls ++ [last]) =
        q.outcomes calls ++ [(last, (q.run calls).failure? last)] := outcomes_append q calls [last]
    have hcalls := ih fun q call hmem => hstep q call (List.mem_append_left _ hmem)
    rw [run_append, run_cons, run_nil, hlast, exists_split_append_singleton, ← hcalls]
    exact hstep (q.run calls) last (List.mem_append_right _ (List.mem_singleton_self _))

end Query

end SearchQL
