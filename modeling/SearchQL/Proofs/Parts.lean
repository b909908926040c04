import SearchQL.Proofs.Reachable
import SearchQL.Proofs.Success
import SearchQL.Query.Render

/-!
# What a text needs

Each part of a query has a text exactly if all the parts that are written for it have one. The
statements here go one level down: from a list to its members, from a condition to its column and
its value, from a statement to the clauses of its kind.

* `Value.renderAll_eq_ok_iff`, `Column.renderAll_eq_ok_iff` and `Facet.renderAll_eq_ok_iff` say what
  the texts of lists are.
* `Condition.succeeds_render` and `Condition.succeeds_renderClause` are the rules for conditions.
* `Clauses.exists_of_selection` cuts the text of a selection around its conditions.
* `Clauses.succeeds_selection`, `Clauses.succeeds_insertion`, `Clauses.succeeds_update` and
  `Clauses.succeeds_deletion` are the rules for statements.
-/

namespace SearchQL

theorem fails_iff_not_succeeds {α : Type} {x : Except Error α} : Fails x ↔ ¬ Succeeds x :=
  not_succeeds_iff.symm

/-! ## Lists -/

namespace Value

theorem succeeds_renderAll (values : List Value) :
    Succeeds (renderAll values) ↔ ∀ value ∈ values, Succeeds value.render :=
  succeeds_list (r := renderAll) (succeeds_ok []) (fun _ _ => succeeds_both) values

theorem succeeds_renderRows (rows : List (List Value)) :
    Succeeds (renderRows rows) ↔ ∀ row ∈ rows, ∀ value ∈ row, Succeeds value.render := by
  refine succeeds_list (r := renderRows) (succeeds_ok []) (fun row rows => ?_) rows
  rw [← succeeds_renderAll]
  exact succeeds_both

end Value

theorem Column.succeeds_renderAll (place : Place) (columns : List Column) :
    Succeeds (Column.renderAll place columns) ↔
      ∀ column ∈ columns, Succeeds (column.render place) :=
  succeeds_list (r := Column.renderAll place) (succeeds_ok []) (fun _ _ => succeeds_both) columns

theorem Facet.succeeds_renderAll (facets : List Facet) :
    Succeeds (Facet.renderAll facets) ↔ ∀ facet ∈ facets, Succeeds facet.render :=
  succeeds_list (r := Facet.renderAll) (succeeds_ok []) (fun _ _ => succeeds_both) facets

theorem Column.isEmpty_of_renderAll {place : Place} {columns : List Column} {texts : List String}
    (h : Column.renderAll place columns = .ok texts) : texts.isEmpty = columns.isEmpty :=
  isEmpty_eq_of_ok (r := Column.renderAll place) rfl (fun _ _ => rfl) h

namespace OrderKey

/-- The text of one column of an order with its direction. -/
def render (key : OrderKey) : Except Error String :=
  (key.column.render .column).map (· ++ " " ++ key.direction.word)

theorem renderAll_cons (key : OrderKey) (keys : List OrderKey) :
    renderAll (key :: keys) = do return (← key.render) :: (← renderAll keys) := by
  obtain ⟨column, direction⟩ := key
  rw [renderAll, render]
  cases column.render .column <;> rfl

theorem succeeds_renderAll (keys : List OrderKey) :
    Succeeds (renderAll keys) ↔ ∀ key ∈ keys, Succeeds (key.column.render .column) := by
  refine succeeds_list (r := renderAll) (succeeds_ok []) (fun key keys => ?_) keys
  rw [renderAll_cons, succeeds_both, render, succeeds_map]

theorem isEmpty_of_renderAll {keys : List OrderKey} {texts : List String}
    (h : renderAll keys = .ok texts) : texts.isEmpty = keys.isEmpty :=
  isEmpty_eq_of_ok (r := renderAll) rfl renderAll_cons h

end OrderKey

namespace Assignment

/-- The text of one assignment. -/
def render (a : Assignment) : Except Error String := do
  return (← a.column.render .column) ++ " = " ++ (← a.value.render)

theorem renderAll_cons (a : Assignment) (assignments : List Assignment) :
    renderAll (a :: assignments) = do return (← a.render) :: (← renderAll assignments) := by
  obtain ⟨column, value⟩ := a
  rw [renderAll, render]
  cases column.render .column <;> cases value.render <;> rfl

theorem succeeds_renderAll (assignments : List Assignment) :
    Succeeds (renderAll assignments) ↔
      ∀ a ∈ assignments, Succeeds (a.column.render .column) ∧ Succeeds a.value.render := by
  refine succeeds_list (r := renderAll) (succeeds_ok []) (fun a assignments => ?_) assignments
  rw [renderAll_cons, succeeds_both, render, succeeds_both]

/-- There is nothing to assign exactly if there are no texts of assignments. -/
theorem isEmpty_of_renderAll {assignments : List Assignment} {texts : List String}
    (h : renderAll assignments = .ok texts) : texts.isEmpty = assignments.isEmpty :=
  isEmpty_eq_of_ok (r := renderAll) rfl renderAll_cons h

end Assignment

/-! ### The texts of lists -/

theorem Value.renderAll_eq_ok_iff {values : List Value} {texts : List String} :
    Value.renderAll values = .ok texts ↔
      List.Forall₂ (fun value text => value.render = .ok text) values texts :=
  ok_list_iff (r := Value.renderAll) rfl fun _ _ => rfl

theorem Column.renderAll_eq_ok_iff {place : Place} {columns : List Column} {texts : List String} :
    Column.renderAll place columns = .ok texts ↔
      List.Forall₂ (fun column text => column.render place = .ok text) columns texts :=
  ok_list_iff (r := Column.renderAll place) rfl fun _ _ => rfl

theorem Facet.renderAll_eq_ok_iff {facets : List Facet} {texts : List String} :
    Facet.renderAll facets = .ok texts ↔
      List.Forall₂ (fun facet text => facet.render = .ok text) facets texts :=
  ok_list_iff (r := Facet.renderAll) rfl fun _ _ => rfl

/-! ## Conditions -/

theorem Operator.succeeds_operand (op : Operator) (count : Nat)
    (texts : Except Error (List String)) :
    Succeeds (op.operand count texts) ↔ Succeeds texts ∧ (op = .between → count = 2) := by
  unfold Operator.operand
  split
  case isTrue hop =>
    split
    case isTrue hcount => simp [hcount]
    case isFalse hcount => simp [hop, hcount]
  case isFalse hop => split <;> simp [hop]

/-- What holds of all clauses among entries holds of the first and of those behind it. -/
theorem Entry.forall_clause_cons {α : Type} {P : α → Prop} {logic : Logic} {item : α}
    {es : List (Entry α)} :
    (∀ logic' item', .clause logic' item' ∈ .clause logic item :: es → P item') ↔
      P item ∧ ∀ logic' item', .clause logic' item' ∈ es → P item' := by
  constructor
  · intro h
    exact ⟨h logic item List.mem_cons_self, fun logic' item' hmem =>
      h logic' item' (List.mem_cons_of_mem _ hmem)⟩
  · rintro ⟨hitem, hrest⟩ logic' item' hmem
    rcases List.mem_cons.1 hmem with heq | hmem
    · cases heq
      exact hitem
    · exact hrest logic' item' hmem

namespace Condition

/-- A condition needs its column and its value, and a range two bounds. -/
theorem succeeds_render (c : Condition) :
    Succeeds c.render ↔ Succeeds (c.column.render .predicate) ∧ Succeeds c.value.render ∧
      (c.operator = .between → ∀ items, c.value = .list items → items.length = 2) := by
  obtain ⟨column, op, value⟩ := c
  cases value with
  | list items =>
    have hboth : Succeeds (Condition.render ⟨column, op, .list items⟩) ↔
        Succeeds (column.render .predicate) ∧
          Succeeds (op.operand items.length (Value.renderAll items)) := succeeds_both
    rw [hboth, Operator.succeeds_operand, Value.render, succeeds_map]
    simp
  | _ =>
    refine succeeds_both.trans ?_
    simp

theorem succeeds_renderEntries (entries : List (Entry Condition)) :
    Succeeds (renderEntries entries) ↔
      ∀ logic c, .clause logic c ∈ entries → Succeeds c.render := by
  induction entries with
  | nil => simp [renderEntries]
  | cons entry entries ih =>
    cases entry with
    | opened logic => simp [renderEntries, ih]
    | closed => simp [renderEntries, ih]
    | clause logic c =>
      have hboth : Succeeds (renderEntries (.clause logic c :: entries)) ↔
          Succeeds c.render ∧ Succeeds (renderEntries entries) := succeeds_both
      rw [hboth, ih, Entry.forall_clause_cons]

/-- The text of a group needs all its brackets closed, and all its conditions. -/
theorem succeeds_renderGroup (label : String) (g : Group Condition) :
    Succeeds (renderGroup label g) ↔
      g.depth = 0 ∧ ∀ logic c, .clause logic c ∈ g.entries → Succeeds c.render := by
  unfold renderGroup Group.balancedText
  rw [← succeeds_renderEntries]
  split
  · simp_all
  · simp_all

theorem renderClause_eq (scope : Scope) (g : Group Condition) :
    renderClause scope g = if g.isEmpty then none else some (renderGroup scope.keyword g) := by
  cases g
  rfl

/-- The clause of a group needs the same. A group without entries is not written, but then it has
no open bracket either. -/
theorem succeeds_renderClause (scope : Scope) {g : Group Condition} (h : g.Sound) :
    (∀ x ∈ renderClause scope g, Succeeds x) ↔
      g.depth = 0 ∧ ∀ logic c, .clause logic c ∈ g.entries → Succeeds c.render := by
  rw [renderClause_eq]
  cases hempty : g.isEmpty with
  | true =>
    have hentries : g.entries = [] := List.isEmpty_iff.1 hempty
    have hdepth : g.depth = 0 := by
      refine Classical.byContradiction fun hne => ?_
      rw [h.isEmpty_eq_false (Nat.pos_of_ne_zero hne)] at hempty
      cases hempty
    simp [hentries, hdepth]
  | false => simp [succeeds_renderGroup]

end Condition

/-! ## Statements -/

namespace Clauses

theorem succeeds_conditions (keyword : String) (group : Option (Except Error String)) :
    Succeeds (conditions keyword group) ↔ ∀ x ∈ group, Succeeds x := by
  cases group with
  | none => simp [conditions]
  | some x => simp [conditions]

theorem succeeds_selectionFilter (c : Clauses) :
    Succeeds c.selectionFilter ↔ ∀ x ∈ c.filters, Succeeds x := by
  unfold selectionFilter
  split
  · exact succeeds_conditions " WHERE " c.filters
  · rw [succeeds_map, succeeds_conditions]

/-- A selection needs all its lists and both groups of conditions. -/
theorem succeeds_selection (c : Clauses) :
    Succeeds c.selection ↔ Succeeds c.columns ∧ Succeeds c.indexes ∧
      (∀ x ∈ c.filters, Succeeds x) ∧ Succeeds c.groupBy ∧ (∀ x ∈ c.having, Succeeds x) ∧
      Succeeds c.orderBy ∧ Succeeds c.facets := by
  rw [← succeeds_selectionFilter, ← succeeds_conditions " HAVING "]
  exact succeeds_bind_of_iff fun _ => succeeds_bind_of_iff fun _ => succeeds_bind_of_iff fun _ =>
    succeeds_bind_of_iff fun _ => succeeds_bind_of_iff fun _ => succeeds_both

/-- The text of a selection has its conditions in the middle and its facets at the end. -/
theorem exists_of_selection {c : Clauses} {text : String} (h : c.selection = .ok text) :
    ∃ front filter middle facets, c.selectionFilter = .ok filter ∧ c.facets = .ok facets ∧
      text = front ++ filter ++ middle ++ facetText facets := by
  simp only [selection, ok_bind_iff] at h
  obtain ⟨columns, -, indexes, -, filter, hfilter, groupBy, -, having, -, orderBy, -, facets,
    hfacets, heq⟩ := h
  refine ⟨"SELECT " ++ (if c.distinct then "DISTINCT " else "") ++ selected columns ++
      listed " FROM " indexes, filter,
    listed " GROUP BY " groupBy ++ having ++ listed " ORDER BY " orderBy ++
      window c.limit c.offset ++ listed " OPTION " c.options, facets, hfilter, hfacets, ?_⟩
  rw [← Except.ok.inj heq]
  simp only [String.append_assoc]

/-- An insertion needs an index, the columns, and what is inserted. -/
theorem succeeds_insertion (keyword : String) (c : Clauses) :
    Succeeds (c.insertion keyword) ↔
      (∃ target, c.target = some target ∧ Succeeds target) ∧ Succeeds c.fields ∧
        Succeeds c.input := by
  unfold insertion
  split
  case h_1 htarget => simp [htarget]
  case h_2 target htarget =>
    have hall : Succeeds (do
        let fields ← c.fields
        let target ← target
        let input ← c.input
        return keyword ++ " " ++ target ++ " (" ++ joinWith ", " fields ++ ") " ++ input) ↔
          Succeeds c.fields ∧ Succeeds target ∧ Succeeds c.input :=
      succeeds_bind_of_iff fun _ => succeeds_both
    rw [hall]
    simp [htarget, and_left_comm]

theorem succeeds_changeTail (c : Clauses) :
    Succeeds c.changeTail ↔ (∀ x ∈ c.filters, Succeeds x) ∧ Succeeds c.orderBy := by
  rw [← succeeds_conditions " WHERE "]
  exact succeeds_both

/-- A change in place needs an index, something to assign, and the conditions and the order. -/
theorem succeeds_update (c : Clauses) :
    Succeeds c.update ↔
      (∃ target, c.target = some target ∧ Succeeds target) ∧
      (Succeeds c.assignments ∧ c.assignments ≠ .ok []) ∧
      (∀ x ∈ c.filters, Succeeds x) ∧ Succeeds c.orderBy := by
  rw [← succeeds_changeTail]
  unfold update
  split
  case h_1 htarget => simp [htarget]
  case h_2 hassignments => simp [hassignments]
  case h_3 target htarget hne =>
    have hall : Succeeds (do
        let target ← target
        let assignments ← c.assignments
        let tail ← c.changeTail
        return "UPDATE " ++ target ++ " SET " ++ joinWith ", " assignments ++ tail) ↔
          Succeeds target ∧ Succeeds c.assignments ∧ Succeeds c.changeTail :=
      succeeds_bind_of_iff fun _ => succeeds_both
    rw [hall]
    have hnotnil : c.assignments ≠ .ok [] := fun hnil => hne hnil
    simp [htarget, hnotnil]

/-- A deletion needs an index, and the conditions and the order. -/
theorem succeeds_deletion (c : Clauses) :
    Succeeds c.deletion ↔
      (∃ target, c.target = some target ∧ Succeeds target) ∧
      (∀ x ∈ c.filters, Succeeds x) ∧ Succeeds c.orderBy := by
  rw [← succeeds_changeTail]
  unfold deletion
  split
  case h_1 htarget => simp [htarget]
  case h_2 target htarget =>
    have hall : Succeeds (do
        let target ← target
        let tail ← c.changeTail
        return "DELETE FROM " ++ target ++ tail) ↔ Succeeds target ∧ Succeeds c.changeTail :=
      succeeds_both
    rw [hall]
    simp [htarget]

theorem succeeds_rawText (c : Clauses) :
    Succeeds c.rawText ↔ ∃ text, c.raw = some text ∧ Succeeds text := by
  unfold rawText
  split
  case h_1 hraw => simp [hraw]
  case h_2 text hraw => simp [hraw]

end Clauses

end SearchQL
