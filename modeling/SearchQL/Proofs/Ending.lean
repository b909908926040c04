import SearchQL.Proofs.Area

/-!
# The shared end of statements

A change and a selection end alike: with the conditions on documents, the order and the limit. The
selection has its own text for conditions, which also searches, and its own text for the limit,
which also skips rows; where it does neither, and nothing stands between these clauses or behind
them, it ends as the changes do.

* `Query.ending` is the end, which depends on the three clauses and nothing else.
* `Query.turned` is a query turned into a statement of another kind.
* `Clauses.update_eq`, `Clauses.deletion_eq` and `Clauses.selection_eq` take the end off the
  statements.
* `Query.ending_follows` is the result.
-/

namespace SearchQL

/-! ## Statements without their end -/

namespace Clauses

/-- The clauses without the conditions on documents, the order and the limit. -/
def withoutEnding (c : Clauses) : Clauses :=
  { c with filters := none, orderBy := .ok [], limit := none }

/-- A statement and what follows it. The statement is looked at first. -/
def followed (text tail : Except Error String) : Except Error String := do
  return (← text) ++ (← tail)

/-- A statement up to its end goes on with the end. -/
theorem followed_bind_eq {α : Type} (x : Except Error α) (f : α → String)
    (tail : Except Error String) :
    (do return f (← x) ++ (← tail)) = followed (x.map fun a => f a ++ "") tail := by
  cases x with
  | error e => rfl
  | ok a =>
    cases tail with
    | error e => rfl
    | ok tail => exact congrArg (fun text => Except.ok (text ++ tail)) String.append_empty.symm

/-- A change in place is its beginning, then the end. -/
theorem update_eq (c : Clauses) : c.update = followed c.withoutEnding.update c.changeTail := by
  have htarget : c.withoutEnding.target = c.target := rfl
  have hassignments : c.withoutEnding.assignments = c.assignments := rfl
  have htail : c.withoutEnding.changeTail = .ok "" := rfl
  rw [update, update, htarget, hassignments, htail]
  cases c.target with
  | none => rfl
  | some target =>
    cases c.assignments with
    | error e => cases target <;> rfl
    | ok assignments =>
      cases assignments with
      | nil => rfl
      | cons a assignments =>
        cases target with
        | error e => rfl
        | ok target =>
          exact followed_bind_eq (.ok (a :: assignments))
            (fun assignments => "UPDATE " ++ target ++ " SET " ++ joinWith ", " assignments) _

/-- A deletion is its beginning, then the end. -/
theorem deletion_eq (c : Clauses) :
    c.deletion = followed c.withoutEnding.deletion c.changeTail := by
  have htarget : c.withoutEnding.target = c.target := rfl
  have htail : c.withoutEnding.changeTail = .ok "" := rfl
  rw [deletion, deletion, htarget, htail]
  cases c.target with
  | none => rfl
  | some target => exact followed_bind_eq target (fun target => "DELETE FROM " ++ target) _

theorem update_congr {c c' : Clauses} (htarget : c'.target = c.target)
    (hassignments : c'.assignments = c.assignments) (htail : c'.changeTail = c.changeTail) :
    c'.update = c.update := by
  rw [update, update, htarget, hassignments, htail]

theorem deletion_congr {c c' : Clauses} (htarget : c'.target = c.target)
    (htail : c'.changeTail = c.changeTail) : c'.deletion = c.deletion := by
  rw [deletion, deletion, htarget, htail]

/-- A selection that does not search, group, skip rows or go on behind the limit. -/
structure EndsPlainly (c : Clauses) : Prop where
  search : c.search = none
  groupBy : c.groupBy = .ok []
  having : c.having = none
  offset : c.offset = none
  options : c.options = []
  facets : c.facets = .ok []

/-- The text of such a selection, from its beginning and its end. -/
theorem EndsPlainly.selection_eq_bind {c : Clauses} (h : c.EndsPlainly) :
    c.selection = do
      let columns ← c.columns
      let indexes ← c.indexes
      let tail ← c.changeTail
      return "SELECT " ++ (if c.distinct then "DISTINCT " else "") ++ selected columns ++
        listed " FROM " indexes ++ tail := by
  obtain ⟨hsearch, hgroupBy, hhaving, hoffset, hoptions, hfacets⟩ := h
  have hfilter : c.selectionFilter = conditions " WHERE " c.filters := by
    rw [selectionFilter, hsearch]
  have hwindow : window c.limit none = limitText c.limit := by
    cases c.limit <;> rfl
  rw [selection, changeTail, hfilter, hgroupBy, hhaving, hoffset, hoptions, hfacets, hwindow]
  cases c.columns with
  | error e => rfl
  | ok columns =>
    cases c.indexes with
    | error e => rfl
    | ok indexes =>
      cases conditions " WHERE " c.filters with
      | error e => rfl
      | ok filter =>
        cases c.orderBy with
        | error e => rfl
        | ok orderBy =>
          refine congrArg Except.ok ?_
          simp [listed, facetText, String.append_assoc]

/-- A selection that ends plainly is its beginning, then the end. -/
theorem EndsPlainly.selection_eq {c : Clauses} (h : c.EndsPlainly) :
    c.selection = followed c.withoutEnding.selection c.changeTail := by
  have hbeginning : c.withoutEnding.EndsPlainly := ⟨h.1, h.2, h.3, h.4, h.5, h.6⟩
  have hcolumns : c.withoutEnding.columns = c.columns := rfl
  have hindexes : c.withoutEnding.indexes = c.indexes := rfl
  have htail : c.withoutEnding.changeTail = .ok "" := rfl
  rw [h.selection_eq_bind, hbeginning.selection_eq_bind, hcolumns, hindexes, htail]
  cases c.columns with
  | error e => rfl
  | ok columns => exact followed_bind_eq c.indexes (fun _ => _) _

end Clauses

/-! ## Queries without their end -/

namespace Query

/-- The query turned into a statement of another kind, with the clauses that it has. -/
def turned (kind : Kind) (q : Query) : Query := { q with kind := some kind }

/-- The query without its conditions on documents, its order and its limit. -/
def withoutEnding (q : Query) : Query := { q with filters := {}, orderBy := [], limit := none }

/-- The text of conditions on documents, an order and a limit at the end of a statement. -/
def ending (filters : Group Condition) (orderBy : List OrderKey) (limit : Option Nat) :
    Except Error String := do
  let filter ← Clauses.conditions " WHERE " (Condition.renderClause .filters filters)
  let orderBy ← OrderKey.renderAll orderBy
  return filter ++ Clauses.listed " ORDER BY " orderBy ++ Clauses.limitText limit

theorem changeTail_clauses (q : Query) :
    q.clauses.changeTail = ending q.filters q.orderBy q.limit := by
  cases q
  rfl

theorem clauses_withoutEnding (q : Query) : q.withoutEnding.clauses = q.clauses.withoutEnding := by
  cases q
  rfl

/-- Whether nothing that only a selection has stands between the shared clauses or behind them. -/
structure EndsPlainly (q : Query) : Prop where
  searches : q.searches = []
  groupBy : q.groupBy = []
  having : q.having.entries = []
  offset : q.offset = none
  options : q.options = []
  facets : q.facets = []

theorem EndsPlainly.turned {q : Query} (h : q.EndsPlainly) (kind : Kind) :
    (q.turned kind).EndsPlainly :=
  ⟨h.searches, h.groupBy, h.having, h.offset, h.options, h.facets⟩

theorem EndsPlainly.clauses {q : Query} (h : q.EndsPlainly) : q.clauses.EndsPlainly where
  search := by rw [search_clauses, h.searches]; rfl
  groupBy := by rw [groupBy_clauses, h.groupBy]; rfl
  having := by rw [having_clauses, Condition.renderClause, h.having]; rfl
  offset := by rw [offset_clauses, h.offset]
  options := by rw [options_clauses, h.options]
  facets := by rw [facets_clauses, h.facets]; rfl

/-- Steps for other clauses keep the conditions, the order and the limit. -/
theorem ending_run (q : Query) {calls : List Call}
    (h : ∀ call ∈ calls, ∃ a, call.area = some a ∧ a ∉ [Area.conditions, .order, .limit]) :
    ending (q.run calls).filters (q.run calls).orderBy (q.run calls).limit =
      ending q.filters q.orderBy q.limit := by
  induction calls generalizing q with
  | nil => rfl
  | cons call calls ih =>
    rw [List.forall_mem_cons] at h
    obtain ⟨⟨a, harea, hother⟩, hcalls⟩ := h
    simp only [List.mem_cons, List.not_mem_nil, or_false, not_or] at hother
    have hreset : call ≠ .reset := by
      rintro rfl
      cases harea
    have hpart {b : Area} (hne : a ≠ b) : (q.step call).part b = q.part b :=
      part_step hreset (by rwa [harea, ne_eq, Option.some.injEq])
    have hfilters : (q.step call).filters = q.filters := by
      simpa only [part] using congrArg Query.filters (hpart hother.1)
    have horderBy : (q.step call).orderBy = q.orderBy := by
      simpa only [part] using congrArg Query.orderBy (hpart hother.2.1)
    have hlimit : (q.step call).limit = q.limit := by
      simpa only [part] using congrArg Query.limit (hpart hother.2.2)
    rw [run_cons, ih _ hcalls, hfilters, horderBy, hlimit]

/-- **Statements of all kinds end alike, and a change has nothing else of the query in it.** The
conditions on documents, the order and the limit make one text or one error. It stands at the end of
a change, and of a selection in which nothing comes between these clauses or behind them; the rest
of the statement is that of the query without them, and if it fails that is the error. Of all other
clauses the rest of a deletion has only the index and that of a change in place also what is
assigned. Steps for other clauses, such as those that turn the query into another statement, keep
the end as it is. -/
theorem ending_follows (q : Query) :
    (∀ kind, kind = .update ∨ kind = .delete ∨
        (kind = .select ∨ kind = .multiSelect) ∧ q.EndsPlainly →
      (q.turned kind).render =
        Clauses.followed (q.withoutEnding.turned kind).render
          (ending q.filters q.orderBy q.limit)) ∧
    (∀ q' : Query, q'.target = q.target →
      (q'.withoutEnding.turned .delete).render = (q.withoutEnding.turned .delete).render ∧
      (q'.assignments = q.assignments →
        (q'.withoutEnding.turned .update).render = (q.withoutEnding.turned .update).render)) ∧
    ∀ calls : List Call,
      (∀ call ∈ calls, ∃ a, call.area = some a ∧ a ∉ [Area.conditions, .order, .limit]) →
      ending (q.run calls).filters (q.run calls).orderBy (q.run calls).limit =
        ending q.filters q.orderBy q.limit := by
  refine ⟨fun kind h => ?_, fun q' htarget => ?_, fun calls h => q.ending_run h⟩
  · have htail : (q.turned kind).clauses.changeTail = ending q.filters q.orderBy q.limit :=
      changeTail_clauses _
    have hbeginning : (q.withoutEnding.turned kind).clauses =
        (q.turned kind).clauses.withoutEnding := clauses_withoutEnding (q.turned kind)
    rw [render, render, hbeginning, ← htail]
    rcases h with rfl | rfl | ⟨hkind, hplain⟩
    · exact Clauses.update_eq _
    · exact Clauses.deletion_eq _
    · have hclauses := (hplain.turned kind).clauses
      rcases hkind with rfl | rfl
      · exact hclauses.selection_eq
      · exact hclauses.selection_eq
  · have hclauses (kind : Kind) : (q'.withoutEnding.turned kind).clauses.target =
        (q.withoutEnding.turned kind).clauses.target := by
      rw [target_clauses, target_clauses]
      exact congrArg _ htarget
    have htail (kind : Kind) : (q'.withoutEnding.turned kind).clauses.changeTail =
        (q.withoutEnding.turned kind).clauses.changeTail := by
      rw [changeTail_clauses, changeTail_clauses]
      rfl
    refine ⟨Clauses.deletion_congr (hclauses .delete) (htail .delete), fun hassignments => ?_⟩
    refine Clauses.update_congr (hclauses .update) ?_ (htail .update)
    rw [assignments_clauses, assignments_clauses]
    exact congrArg _ hassignments

/-- A query with a clause of every kind, and a bracket of its conditions on groups left open. -/
def stale : Query :=
  empty.run [.select [.name "a"], .distinct true, .index (.name "i"), .search ⟨none, .text "x"⟩,
    .groupBy [.name "g"], .openBracket .having .and, .option "cutoff=1", .facet (.body "f"),
    .offset 7, .fields [.name "c"], .row [.int 1], .raw (.ofText "t"),
    .condition .filters .and (.equal (.name "b") (.int 1)), .order ⟨.name "o", .descending⟩,
    .limit 5, .target (.name "rt")]

/-- A selection with the same conditions, order and limit. -/
def bareSelection : Query :=
  empty.run [.select [], .condition .filters .and (.equal (.name "b") (.int 1)),
    .order ⟨.name "o", .descending⟩, .limit 5]

theorem ending_follows_stale :
    bareSelection.EndsPlainly ∧
    ending stale.filters stale.orderBy stale.limit =
      .ok " WHERE `b` = 1 ORDER BY `o` DESC LIMIT 5" ∧
    (bareSelection.turned .select).render = .ok "SELECT * WHERE `b` = 1 ORDER BY `o` DESC LIMIT 5" ∧
    (stale.turned .delete).render = .ok "DELETE FROM `rt` WHERE `b` = 1 ORDER BY `o` DESC LIMIT 5" ∧
    (stale.withoutEnding.turned .delete).render =
      ((deleting (.name "rt")).withoutEnding.turned .delete).render ∧
    ending (stale.run [.insertInto .insert (.name "i"), .distinct false]).filters
      (stale.run [.insertInto .insert (.name "i"), .distinct false]).orderBy
      (stale.run [.insertInto .insert (.name "i"), .distinct false]).limit =
        .ok " WHERE `b` = 1 ORDER BY `o` DESC LIMIT 5" := by
  have hplain : bareSelection.EndsPlainly := ⟨rfl, rfl, rfl, rfl, rfl, rfl⟩
  have hselect := (ending_follows bareSelection).1 .select (.inr (.inr ⟨.inl rfl, hplain⟩))
  obtain ⟨hkinds, hleaks, hsteps⟩ := ending_follows stale
  have hdelete := hkinds .delete (.inr (.inl rfl))
  have hbare := (hleaks (deleting (.name "rt")) rfl).1
  have hkept := hsteps [.insertInto .insert (.name "i"), .distinct false]
    (by simp [Call.area])
  exact ⟨hplain, rfl, hselect, hdelete, hbare.symm, hkept⟩

end Query

end SearchQL
