import SearchQL.Proofs.Area
import SearchQL.Proofs.Parts
import SearchQL.Proofs.Sent

/-!
# Facets and the kind that is announced

A selection with facets is answered by several result sets, and the executor is told so by the kind
of the statement. The kind and the facets are set by different steps: a step to another statement
leaves the facets as they are, and a selection after it no longer looks at them.

* `Call.role` is what a step does to the kind and the facets.
* `Query.facets_announced` says after which runs a selection with facets is announced as a plain
  one, and what is sent and answered in either case.
-/

namespace SearchQL

/-! ## Steps by what they do to the kind and the facets -/

/-- What a step does to the kind of a statement and to its facets. -/
inductive Role where
  /-- A selection, unless there is one with facets already. -/
  | select
  /-- One more facet, which makes the statement a selection with facets. -/
  | facet
  /-- A statement that is no selection. -/
  | turn
  /-- No facets. -/
  | reset
  /-- Neither is changed. -/
  | clause
deriving DecidableEq, Repr

/-- What a step does to the kind of a statement and to its facets. -/
def Call.role : Call → Role
  | .select _ => .select
  | .facet _ => .facet
  | .insertInto _ _ | .insertRow _ _ _ | .update _ | .delete _ | .raw _ => .turn
  | .reset => .reset
  | _ => .clause

namespace Query

/-- Two queries of the same kind and with the same facets. -/
structure Kept (q q' : Query) : Prop where
  kind : q'.kind = q.kind
  facets : q'.facets = q.facets

namespace Kept

theorem refl (q : Query) : Kept q q := ⟨rfl, rfl⟩

theorem of_part {q q' : Query} (h : q'.part .statement = q.part .statement) : Kept q q' := by
  have hkind := congrArg Query.kind h
  have hfacets := congrArg Query.facets h
  exact ⟨hkind, hfacets⟩

theorem setInput {q q' : Query} (h : ∃ input, q' = { q with input }) : Kept q q' := by
  obtain ⟨input, rfl⟩ := h
  exact ⟨rfl, rfl⟩

theorem insertRow (q : Query) (insertion : Insertion) (target : Column)
    (row : List Assignment) : Kept (q.insertInto insertion target)
      (q.insertRow insertion target row) := by
  unfold Query.insertRow pushRow
  split
  · exact refl _
  · exact ⟨rfl, rfl⟩

/-- A step that fails changes nothing. -/
theorem step {q : Query} {call : Call} (h : Yields (Kept q) (q.apply call)) :
    Kept q (q.step call) := by
  unfold Query.step
  split
  case h_1 q' hcall => exact h q' hcall
  case h_2 => exact refl q

end Kept

/-- All other steps leave the kind and the facets as they are. -/
theorem kept_clause (q : Query) {call : Call} (h : call.role = .clause) :
    Kept q (q.step call) := by
  by_cases harea : call.area = some .statement
  -- of these steps, those that change what is inserted may fail
  · cases call with
    | row row => exact .step ((q.yields_addRow row).imp fun _ => .setInput)
    | rows rows => exact .step ((q.yields_addRows rows).imp fun _ => .setInput)
    | insertQuery query => exact .step ((q.yields_insertQuery query).imp fun _ => .setInput)
    | target | fields | bindRaw => exact ⟨rfl, rfl⟩
    | select | facet | insertInto | insertRow | update | delete | raw => cases h
    | _ => cases harea
  · have hreset : call ≠ .reset := by
      rintro rfl
      cases h
    exact .of_part (part_step hreset harea)

/-- A statement that is no selection keeps the facets of the one before it. -/
theorem step_turn (q : Query) {call : Call} (h : call.role = .turn) :
    (q.step call).facets = q.facets ∧ (q.step call).kind ≠ some .select ∧
      (q.step call).kind ≠ some .multiSelect := by
  have hinsert (insertion : Insertion) (target : Column) :
      (q.insertInto insertion target).kind ≠ some .select ∧
        (q.insertInto insertion target).kind ≠ some .multiSelect := by
    cases insertion with
    | insert => exact ⟨nofun, nofun⟩
    | replace => exact ⟨nofun, nofun⟩
  cases call with
  | insertInto insertion target => exact ⟨rfl, hinsert insertion target⟩
  | insertRow insertion target row =>
    have hkept := Kept.insertRow q insertion target row
    refine ⟨hkept.facets, ?_⟩
    change (q.insertRow insertion target row).kind ≠ _ ∧
      (q.insertRow insertion target row).kind ≠ _
    rw [hkept.kind]
    exact hinsert insertion target
  | update target => exact ⟨rfl, nofun, nofun⟩
  | delete target => exact ⟨rfl, nofun, nofun⟩
  | raw template => exact ⟨rfl, nofun, nofun⟩
  | _ => cases h

theorem step_select (q : Query) {call : Call} (h : call.role = .select) :
    (q.step call).facets = q.facets ∧
      (q.step call).kind = if q.kind = some .multiSelect then q.kind else some .select := by
  cases call with
  | select columns => exact ⟨rfl, rfl⟩
  | _ => cases h

theorem step_facet (q : Query) {call : Call} (h : call.role = .facet) :
    (q.step call).facets ≠ [] ∧ (q.step call).kind = some .multiSelect := by
  cases call with
  | facet facet => exact ⟨List.append_ne_nil_of_right_ne_nil _ (List.cons_ne_nil _ _), rfl⟩
  | _ => cases h

theorem step_reset (q : Query) {call : Call} (h : call.role = .reset) :
    (q.step call).facets = [] := by
  cases call with
  | reset => rfl
  | _ => cases h

/-! ## Runs traced back -/

/-- A query has facets if one was given, and not taken away by a reset. -/
theorem facets_run_ne_nil_iff (calls : List Call) :
    (empty.run calls).facets ≠ [] ↔ ∃ before call after, calls = before ++ call :: after ∧
      call.role = .facet ∧ ∀ later ∈ after, later.role ≠ .reset := by
  have hstep (q : Query) (call : Call) : (q.step call).facets ≠ [] ↔
      call.role = .facet ∨ q.facets ≠ [] ∧ call.role ≠ .reset := by
    cases hrole : call.role with
    | facet => simp [(q.step_facet hrole).1]
    | reset => simp [q.step_reset hrole]
    | select => simp [(q.step_select hrole).1]
    | turn => simp [(q.step_turn hrole).1]
    | clause => simp [(q.kept_clause hrole).facets]
  exact run_iff_exists (P := fun q => q.facets ≠ []) (fun h => h rfl) hstep calls

/-- A query has facets and another kind than they call for: it was turned into another statement. -/
def Estranged (q : Query) : Prop := q.facets ≠ [] ∧ q.kind ≠ some .multiSelect

theorem step_estranged (q : Query) (call : Call) :
    (q.step call).Estranged ↔ (q.facets ≠ [] ∧ call.role = .turn) ∨
      (q.Estranged ∧ (call.role ≠ .facet ∧ call.role ≠ .reset)) := by
  unfold Estranged
  cases hrole : call.role with
  | facet => simp [(q.step_facet hrole).2]
  | reset => simp [q.step_reset hrole]
  | select =>
    obtain ⟨hfacets, hkind⟩ := q.step_select hrole
    rw [hfacets, hkind]
    grind
  | turn =>
    obtain ⟨hfacets, -, hkind⟩ := q.step_turn hrole
    rw [hfacets]
    grind
  | clause => simp [(q.kept_clause hrole).facets, (q.kept_clause hrole).kind]

/-- A query has facets and is announced as a plain selection. -/
def Unannounced (q : Query) : Prop := q.facets ≠ [] ∧ q.kind = some .select

theorem step_unannounced (q : Query) (call : Call) :
    (q.step call).Unannounced ↔ (q.Estranged ∧ call.role = .select) ∨
      (q.Unannounced ∧ (call.role ≠ .facet ∧ call.role ≠ .reset ∧ call.role ≠ .turn)) := by
  unfold Estranged Unannounced
  cases hrole : call.role with
  | facet => simp [(q.step_facet hrole).2]
  | reset => simp [q.step_reset hrole]
  | select =>
    obtain ⟨hfacets, hkind⟩ := q.step_select hrole
    rw [hfacets, hkind]
    grind
  | turn => simp [(q.step_turn hrole).2.1]
  | clause => simp [(q.kept_clause hrole).facets, (q.kept_clause hrole).kind]

end Query

/-- A run that leads from a facet by a statement that is no selection back to a selection: no reset
takes the facet away, and no further facet stands behind the other statement. -/
def Call.Detour (calls : List Call) : Prop :=
  ∃ before facet between turn between' select after,
    calls = before ++ facet :: between ++ turn :: between' ++ select :: after ∧
    facet.role = .facet ∧ (∀ call ∈ between, call.role ≠ .reset) ∧
    turn.role = .turn ∧ (∀ call ∈ between', call.role ≠ .facet ∧ call.role ≠ .reset) ∧
    select.role = .select ∧
      ∀ call ∈ after, call.role ≠ .facet ∧ call.role ≠ .reset ∧ call.role ≠ .turn

namespace Query

/-- The runs after which a selection has facets and is not announced with them. -/
theorem unannounced_run_iff (calls : List Call) :
    (empty.run calls).Unannounced ↔ Call.Detour calls := by
  have hestranged := run_iff_exists (P := Estranged) (q := empty) (fun h => h.1 rfl) step_estranged
  rw [run_iff_exists (fun h => h.1 rfl) step_unannounced]
  constructor
  · rintro ⟨toSelect, select, after, rfl, ⟨h, hselect⟩, hafter⟩
    obtain ⟨toTurn, turn, between', rfl, ⟨h, hturn⟩, hbetween'⟩ := (hestranged toSelect).1 h
    obtain ⟨before, facet, between, rfl, hfacet, hbetween⟩ := (facets_run_ne_nil_iff toTurn).1 h
    exact ⟨before, facet, between, turn, between', select, after, rfl, hfacet, hbetween, hturn,
      hbetween', hselect, hafter⟩
  · rintro ⟨before, facet, between, turn, between', select, after, rfl, hfacet, hbetween, hturn,
      hbetween', hselect, hafter⟩
    refine ⟨_, select, after, rfl, ⟨(hestranged _).2 ?_, hselect⟩, hafter⟩
    refine ⟨_, turn, between', rfl, ⟨(facets_run_ne_nil_iff _).2 ?_, hturn⟩, hbetween'⟩
    exact ⟨before, facet, between, rfl, hfacet, hbetween⟩

/-! ## What is sent -/

variable {σ : Type} {q : Query} {kind : Kind} {text : String}

/-- The text of a selection ends with the facets. -/
theorem exists_facetText (hkind : kind = .select ∨ kind = .multiSelect) (hq : q.kind = some kind)
    (htext : q.render = .ok text) : ∃ front texts,
      List.Forall₂ (fun facet text => facet.render = .ok text) q.facets texts ∧
        text = front ++ Clauses.facetText texts := by
  have hselection : q.clauses.selection = .ok text := by
    rw [← htext, render, hq]
    rcases hkind with rfl | rfl
    · rfl
    · rfl
  obtain ⟨front, filter, middle, texts, -, htexts, rfl⟩ := Clauses.exists_of_selection hselection
  rw [facets_clauses] at htexts
  exact ⟨front ++ filter ++ middle, texts, Facet.renderAll_eq_ok_iff.1 htexts, rfl⟩

/-- **A selection with facets is announced, unless it was reached by a detour.** The facets stand
in its text in either case. Without a detour the text is sent as one with several result sets, and
they are given; behind one it is sent as a plain selection, and no result sets are given. -/
theorem facets_announced (executor : Executor σ) (calls : List Call) :
    ((empty.run calls).facets ≠ [] ∧ (empty.run calls).kind = some .select ↔
      Call.Detour calls) ∧
    ∀ kind text, kind = .select ∨ kind = .multiSelect → (empty.run calls).kind = some kind →
      (empty.run calls).render = .ok text → (empty.run calls).facets ≠ [] →
      (∃ front texts, List.Forall₂ (fun facet text => facet.render = .ok text)
        (empty.run calls).facets texts ∧ text = front ++ Clauses.facetText texts) ∧
      (¬ Call.Detour calls →
        (empty.run calls).execute executor = executor .multiSelect text ∧
        (empty.run calls).fetchSets executor = (do
          let response ← executor .multiSelect text
          response.toSets)) ∧
      (Call.Detour calls →
        (empty.run calls).execute executor = executor .select text ∧
        (empty.run calls).fetchSets executor = throw (.invalidQuery .noFacets)) := by
  have hdetour := unannounced_run_iff calls
  refine ⟨hdetour, fun kind text hselects hkind htext hfacets => ?_⟩
  refine ⟨exists_facetText hselects hkind htext, fun hnot => ?_, fun h => ?_⟩
  · have hmulti : (empty.run calls).kind = some .multiSelect := by
      rcases hselects with rfl | rfl
      · exact absurd (hdetour.1 ⟨hfacets, hkind⟩) hnot
      · exact hkind
    exact ⟨execute_eq executor hmulti htext, fetchSets_eq executor hmulti htext⟩
  · have hselect : (empty.run calls).kind = some .select := (hdetour.2 h).2
    refine ⟨execute_eq executor hselect htext, fetchSets_eq_throw executor ?_⟩
    rw [hselect]
    exact nofun

/-- A facet behind the detour announces the earlier one as well. -/
theorem facets_announced_returning :
    let calls : List Call := [.facet (.body "a"), .delete (.name "rt"), .select [],
      .facet (.body "b"), .select [.name "*"]]
    ¬ Call.Detour calls ∧
    (empty.run calls).fetchSets (Executor.canned (.ok (.sets [[], [], []]))) [] =
      (.ok [[], [], []], [(.multiSelect, "SELECT * FACET a FACET b")]) := by
  intro calls
  obtain ⟨hdetour, hsent⟩ :=
    facets_announced (Executor.canned (.ok (.sets [[], [], []]))) calls
  have hnot : ¬ Call.Detour calls := fun h => by
    cases (hdetour.2 h).2
  obtain ⟨-, hsets⟩ := (hsent .multiSelect _ (.inr rfl) rfl rfl nofun).2.1 hnot
  refine ⟨hnot, ?_⟩
  rw [hsets]
  rfl

/-- A selection with a facet is reached by a detour: it is sent as a plain one, and its result sets
are refused. -/
theorem facets_unannounced :
    let q := empty.run [.facet (.body "a"), .delete (.name "rt"), .select [.name "*"]]
    q.kind = some .select ∧ q.facets ≠ [] ∧ q.render = .ok "SELECT * FACET a" ∧
    q.execute (Executor.canned (.ok (.sets [[], []]))) [] =
      (.ok (.sets [[], []]), [(.select, "SELECT * FACET a")]) ∧
    q.fetchSets (Executor.canned (.ok (.sets [[], []]))) [] =
      (.error (.invalidQuery .noFacets), []) :=
  ⟨rfl, nofun, rfl, rfl, rfl⟩

end Query

end SearchQL
