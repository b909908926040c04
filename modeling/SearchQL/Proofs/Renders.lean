import SearchQL.Proofs.Binding
import SearchQL.Proofs.Built
import SearchQL.Proofs.Parts

/-!
# Queries that have a text

What a query must be like to have a text, told without making the text: which of its parts are
looked at for its kind, and what is asked of each of them, down to the floats that have to be
finite and the ranges that need two bounds.

* `Query.Renders` is the notion for queries, beside those for their parts.
* `Query.Built.succeeds_iff` says that it is right for every query that can be built, by induction
  on how the query is built.
* `Query.renders_exactly` is the result.
-/

namespace SearchQL

/-! ## The notion -/

mutual

/-- A value that has a text: at no depth of its lists there is a float that is not finite, or a
query or a template without a text. -/
inductive Value.Renders : Value → Prop where
  | null : Value.Renders .null
  | bool (b : Bool) : Value.Renders (.bool b)
  | int (n : Int) : Value.Renders (.int n)
  | float {x : Binary64} (finite : x.isFinite = true) : Value.Renders (.float x)
  | text (s : String) : Value.Renders (.text s)
  | list {items : List Value} (h : ∀ value ∈ items, Value.Renders value) :
    Value.Renders (.list items)
  | query {q : Query} (h : Query.Renders q) : Value.Renders (.query q)
  | template {t : Template} (h : Template.Renders t) : Value.Renders (.template t)

/-- A template that has a text: all its placeholders, the empty one apart, have values that do,
whether or not they stand in it. -/
inductive Template.Renders : Template → Prop where
  | intro {t : Template} (bindings : ∀ b ∈ t.bindings, b.1 ≠ "" → Value.Renders b.2) :
    Template.Renders t

/-- A column that has a text. -/
inductive Column.Renders : Column → Prop where
  | name (name : String) : Column.Renders (.name name)
  | template {t : Template} (h : Template.Renders t) : Column.Renders (.template t)
  | query {q : Query} (h : Query.Renders q) : Column.Renders (.query q)
  | aliased {column : Column} (h : Column.Renders column) (label : String) :
    Column.Renders (.aliased column label)

/-- A condition that has a text. A list of bounds has to be of length two. -/
inductive Condition.Renders : Condition → Prop where
  | intro {c : Condition} (column : Column.Renders c.column) (value : Value.Renders c.value)
    (bounds : c.operator = .between → ∀ items, c.value = .list items → items.length = 2) :
    Condition.Renders c

/-- A facet that has a text. -/
inductive Facet.Renders : Facet → Prop where
  | body (s : String) : Facet.Renders (.body s)
  | template {t : Template} (h : Template.Renders t) : Facet.Renders (.template t)
  | query {q : Query} (h : Query.Renders q) : Facet.Renders (.query q)

/-- Input that has a text. -/
inductive Input.Renders : Input → Prop where
  | rows {rows : List (List Value)} (h : ∀ row ∈ rows, ∀ value ∈ row, Value.Renders value) :
    Input.Renders (.rows rows)
  | query {q : Query} (h : Query.Renders q) : Input.Renders (.query q)

/-- A query that has a text. Its kind is set, and decides which of its parts have to have one. -/
inductive Query.Renders : Query → Prop where
  | selection {q : Query} (kind : q.kind = some .select ∨ q.kind = some .multiSelect)
    (columns : ∀ column ∈ q.columns, Column.Renders column)
    (indexes : ∀ column ∈ q.indexes, Column.Renders column)
    (filtersClosed : q.filters.depth = 0)
    (filters : ∀ logic c, .clause logic c ∈ q.filters.entries → Condition.Renders c)
    (groupBy : ∀ column ∈ q.groupBy, Column.Renders column)
    (havingClosed : q.having.depth = 0)
    (having : ∀ logic c, .clause logic c ∈ q.having.entries → Condition.Renders c)
    (orderBy : ∀ key ∈ q.orderBy, Column.Renders key.column)
    (facets : ∀ facet ∈ q.facets, Facet.Renders facet) : Query.Renders q
  | insertion {q : Query} (kind : q.kind = some .insert ∨ q.kind = some .replace) {index : Column}
    (target : q.target = some index) (index : Column.Renders index)
    (fields : ∀ column ∈ q.fields, Column.Renders column) (input : Input.Renders q.input) :
    Query.Renders q
  | update {q : Query} (kind : q.kind = some .update) {index : Column}
    (target : q.target = some index) (index : Column.Renders index)
    (nonempty : q.assignments ≠ [])
    (assigned : ∀ a ∈ q.assignments, Column.Renders a.column)
    (assigning : ∀ a ∈ q.assignments, Value.Renders a.value)
    (filtersClosed : q.filters.depth = 0)
    (filters : ∀ logic c, .clause logic c ∈ q.filters.entries → Condition.Renders c)
    (orderBy : ∀ key ∈ q.orderBy, Column.Renders key.column) : Query.Renders q
  | deletion {q : Query} (kind : q.kind = some .delete) {index : Column}
    (target : q.target = some index) (index : Column.Renders index)
    (filtersClosed : q.filters.depth = 0)
    (filters : ∀ logic c, .clause logic c ∈ q.filters.entries → Condition.Renders c)
    (orderBy : ∀ key ∈ q.orderBy, Column.Renders key.column) : Query.Renders q
  | raw {q : Query} (kind : q.kind = some .raw) {t : Template} (raw : q.raw = some t)
    (template : Template.Renders t) : Query.Renders q

end

/-! ## One level -/

/-- The notion is right for each part of a query. -/
structure Query.Judged (q : Query) : Prop where
  columns : Succeeds (Column.renderAll .column q.columns) ↔ ∀ column ∈ q.columns, column.Renders
  indexes : Succeeds (Column.renderAll .index q.indexes) ↔ ∀ column ∈ q.indexes, column.Renders
  filters : (∀ x ∈ Condition.renderClause .filters q.filters, Succeeds x) ↔
    q.filters.depth = 0 ∧ ∀ logic c, .clause logic c ∈ q.filters.entries → c.Renders
  groupBy : Succeeds (Column.renderAll .column q.groupBy) ↔ ∀ column ∈ q.groupBy, column.Renders
  having : (∀ x ∈ Condition.renderClause .having q.having, Succeeds x) ↔
    q.having.depth = 0 ∧ ∀ logic c, .clause logic c ∈ q.having.entries → c.Renders
  orderBy : Succeeds (OrderKey.renderAll q.orderBy) ↔ ∀ key ∈ q.orderBy, key.column.Renders
  facets : Succeeds (Facet.renderAll q.facets) ↔ ∀ facet ∈ q.facets, facet.Renders
  target : ∀ column ∈ q.target, (Succeeds (column.render .index) ↔ column.Renders)
  fields : Succeeds (Column.renderAll .column q.fields) ↔ ∀ column ∈ q.fields, column.Renders
  input : Succeeds q.input.render ↔ q.input.Renders
  assignments : Succeeds (Assignment.renderAll q.assignments) ↔
    ∀ a ∈ q.assignments, a.column.Renders ∧ a.value.Renders
  raw : ∀ t ∈ q.raw, (Succeeds t.render ↔ t.Renders)

namespace Query.Judged

variable {q : Query}

theorem selection (h : q.Judged) (hkind : q.kind = some .select ∨ q.kind = some .multiSelect) :
    Succeeds q.render ↔ q.Renders := by
  have hrender : q.render = q.clauses.selection := by
    rcases hkind with hkind | hkind <;> rw [render, hkind] <;> rfl
  rw [hrender, Clauses.succeeds_selection]
  simp only [columns_clauses, indexes_clauses, filters_clauses, groupBy_clauses, having_clauses,
    orderBy_clauses, facets_clauses, h.columns, h.indexes, h.filters, h.groupBy, h.having,
    h.orderBy, h.facets]
  constructor
  · rintro ⟨columns, indexes, ⟨filtersClosed, filters⟩, groupBy, ⟨havingClosed, having⟩, orderBy,
      facets⟩
    exact .selection hkind columns indexes filtersClosed filters groupBy havingClosed having
      orderBy facets
  · rintro (⟨_, columns, indexes, filtersClosed, filters, groupBy, havingClosed, having, orderBy,
      facets⟩ | hother | hother | hother | hother)
    case selection =>
      exact ⟨columns, indexes, ⟨filtersClosed, filters⟩, groupBy, ⟨havingClosed, having⟩, orderBy,
        facets⟩
    all_goals rcases hkind with hkind | hkind <;> simp [hkind] at hother

theorem insertion (h : q.Judged) (hkind : q.kind = some .insert ∨ q.kind = some .replace) :
    Succeeds q.render ↔ q.Renders := by
  have hrender : ∃ keyword, q.render = q.clauses.insertion keyword := by
    rcases hkind with hkind | hkind <;> rw [render, hkind] <;> exact ⟨_, rfl⟩
  obtain ⟨keyword, hrender⟩ := hrender
  rw [hrender, Clauses.succeeds_insertion]
  simp only [target_clauses, fields_clauses, input_clauses, h.fields, h.input]
  constructor
  · rintro ⟨⟨text, htarget, hindex⟩, fields, input⟩
    obtain ⟨index, target, rfl⟩ := Option.map_eq_some_iff.1 htarget
    exact .insertion hkind target ((h.target index target).1 hindex) fields input
  · rintro (hother | ⟨_, target, index, fields, input⟩ | hother | hother | hother)
    case insertion =>
      exact ⟨⟨_, by rw [target, Option.map_some], (h.target _ target).2 index⟩, fields, input⟩
    all_goals rcases hkind with hkind | hkind <;> simp [hkind] at hother

theorem update (h : q.Judged) (hkind : q.kind = some .update) :
    Succeeds q.render ↔ q.Renders := by
  have hrender : q.render = q.clauses.update := by rw [render, hkind]; rfl
  have hnil : Assignment.renderAll q.assignments ≠ .ok [] ↔ q.assignments ≠ [] :=
    not_congr ⟨fun hnil => List.isEmpty_iff.1 (Assignment.isEmpty_of_renderAll hnil).symm,
      fun hnil => by rw [hnil, Assignment.renderAll]⟩
  rw [hrender, Clauses.succeeds_update]
  simp only [target_clauses, assignments_clauses, filters_clauses, orderBy_clauses, hnil,
    h.assignments, h.filters, h.orderBy]
  constructor
  · rintro ⟨⟨text, htarget, hindex⟩, ⟨assignments, nonempty⟩, ⟨filtersClosed, filters⟩, orderBy⟩
    obtain ⟨index, target, rfl⟩ := Option.map_eq_some_iff.1 htarget
    exact .update hkind target ((h.target index target).1 hindex) nonempty
      (fun a ha => (assignments a ha).1) (fun a ha => (assignments a ha).2) filtersClosed filters
      orderBy
  · rintro (hother | hother | ⟨_, target, index, nonempty, assigned, assigning, filtersClosed,
      filters, orderBy⟩ | hother | hother)
    case update =>
      exact ⟨⟨_, by rw [target, Option.map_some], (h.target _ target).2 index⟩,
        ⟨fun a ha => ⟨assigned a ha, assigning a ha⟩, nonempty⟩, ⟨filtersClosed, filters⟩, orderBy⟩
    all_goals simp [hkind] at hother

theorem deletion (h : q.Judged) (hkind : q.kind = some .delete) :
    Succeeds q.render ↔ q.Renders := by
  have hrender : q.render = q.clauses.deletion := by rw [render, hkind]; rfl
  rw [hrender, Clauses.succeeds_deletion]
  simp only [target_clauses, filters_clauses, orderBy_clauses, h.filters, h.orderBy]
  constructor
  · rintro ⟨⟨text, htarget, hindex⟩, ⟨filtersClosed, filters⟩, orderBy⟩
    obtain ⟨index, target, rfl⟩ := Option.map_eq_some_iff.1 htarget
    exact .deletion hkind target ((h.target index target).1 hindex) filtersClosed filters orderBy
  · rintro (hother | hother | hother | ⟨_, target, index, filtersClosed, filters, orderBy⟩ | hother)
    case deletion =>
      exact ⟨⟨_, by rw [target, Option.map_some], (h.target _ target).2 index⟩,
        ⟨filtersClosed, filters⟩, orderBy⟩
    all_goals simp [hkind] at hother

theorem rawText (h : q.Judged) (hkind : q.kind = some .raw) : Succeeds q.render ↔ q.Renders := by
  have hrender : q.render = q.clauses.rawText := by rw [render, hkind]; rfl
  rw [hrender, Clauses.succeeds_rawText]
  simp only [raw_clauses]
  constructor
  · rintro ⟨text, hmap, htext⟩
    obtain ⟨t, hraw, rfl⟩ := Option.map_eq_some_iff.1 hmap
    exact .raw hkind hraw ((h.raw t hraw).1 htext)
  · rintro (hother | hother | hother | hother | ⟨_, hraw, template⟩)
    case raw => exact ⟨_, by rw [hraw, Option.map_some], (h.raw _ hraw).2 template⟩
    all_goals simp [hkind] at hother

/-- Without a kind there is no text. -/
theorem unset (hkind : q.kind = none) : Succeeds q.render ↔ q.Renders := by
  rw [render, hkind]
  constructor
  · rintro ⟨_, h⟩
    cases h
  · rintro (hother | hother | hother | hother | hother) <;> simp [hkind] at hother

theorem succeeds_iff (h : q.Judged) : Succeeds q.render ↔ q.Renders := by
  cases hkind : q.kind with
  | none => exact unset hkind
  | some kind =>
    cases kind with
    | select => exact h.selection (.inl hkind)
    | multiSelect => exact h.selection (.inr hkind)
    | insert => exact h.insertion (.inl hkind)
    | replace => exact h.insertion (.inr hkind)
    | update => exact h.update hkind
    | delete => exact h.deletion hkind
    | raw => exact h.rawText hkind

end Query.Judged

/-! ## All levels -/

theorem Binary64.succeeds_render (x : Binary64) : Succeeds x.render ↔ x.isFinite = true := by
  unfold Binary64.render
  split <;> simp_all

-- The induction is on how the parts are built: the members of lists, the values of placeholders and
-- nested queries are smaller, and a nested query is reachable itself.
mutual

/-- A value has a text exactly if it is such as to have one. -/
theorem Value.Built.succeeds_iff {value : Value} :
    value.Built → (Succeeds value.render ↔ value.Renders)
  | .null => ⟨fun _ => .null, fun _ => succeeds_ok _⟩
  | .bool b => ⟨fun _ => .bool b, fun _ => succeeds_ok _⟩
  | .int n => ⟨fun _ => .int n, fun _ => succeeds_ok _⟩
  | .float x => by
    rw [Value.render, x.succeeds_render]
    exact ⟨.float, fun | .float finite => finite⟩
  | .text s => ⟨fun _ => .text s, fun _ => succeeds_ok _⟩
  | @Value.Built.list items h => by
    have hitems : (∀ value ∈ items, Succeeds value.render) ↔ ∀ value ∈ items, value.Renders :=
      forall₂_congr fun value hmem => (h value hmem).succeeds_iff
    rw [Value.render, succeeds_map, Value.succeeds_renderAll, hitems]
    exact ⟨.list, fun | .list h => h⟩
  | .query h => by
    rw [Value.render_query, succeeds_map, h.succeeds_iff]
    exact ⟨.query, fun | .query h => h⟩
  | .template h => by
    rw [Value.render, h.succeeds_iff]
    exact ⟨.template, fun | .template h => h⟩

theorem Template.Built.succeeds_iff {t : Template} :
    t.Built → (Succeeds t.render ↔ t.Renders)
  | .intro h => by
    have hbindings : (∀ b ∈ t.bindings, b.1 ≠ "" → Succeeds b.2.render) ↔
        ∀ b ∈ t.bindings, b.1 ≠ "" → b.2.Renders :=
      forall₂_congr fun b hmem => imp_congr_right fun _ => (h b hmem).succeeds_iff
    rw [Template.succeeds_render, hbindings]
    exact ⟨.intro, fun | .intro h => h⟩

/-- The place of a column does not matter. -/
theorem Column.Built.succeeds_iff {column : Column} (place : Place) :
    column.Built → (Succeeds (column.render place) ↔ column.Renders)
  | .name name => ⟨fun _ => .name name, fun _ => succeeds_ok _⟩
  | .template h => by
    rw [Column.render, h.succeeds_iff]
    exact ⟨.template, fun | .template h => h⟩
  | .query h => by
    rw [Column.render_query, succeeds_map, h.succeeds_iff]
    exact ⟨.query, fun | .query h => h⟩
  | .aliased h label => by
    rw [Column.render, succeeds_map, h.succeeds_iff place]
    exact ⟨fun h => .aliased h label, fun | .aliased h _ => h⟩

theorem Condition.Built.succeeds_iff {c : Condition} :
    c.Built → (Succeeds c.render ↔ c.Renders)
  | .intro column value => by
    rw [Condition.succeeds_render, column.succeeds_iff .predicate, value.succeeds_iff]
    exact ⟨fun ⟨column, value, bounds⟩ => .intro column value bounds,
      fun | .intro column value bounds => ⟨column, value, bounds⟩⟩

theorem Facet.Built.succeeds_iff {facet : Facet} :
    facet.Built → (Succeeds facet.render ↔ facet.Renders)
  | .body s => ⟨fun _ => .body s, fun _ => succeeds_ok _⟩
  | .template h => by
    rw [Facet.render, h.succeeds_iff]
    exact ⟨.template, fun | .template h => h⟩
  | .query h => by
    rw [Facet.render_query, h.succeeds_iff]
    exact ⟨.query, fun | .query h => h⟩

theorem Input.Built.succeeds_iff {input : Input} :
    input.Built → (Succeeds input.render ↔ input.Renders)
  | @Input.Built.rows rows h => by
    have hrows : (∀ row ∈ rows, ∀ value ∈ row, Succeeds value.render) ↔
        ∀ row ∈ rows, ∀ value ∈ row, value.Renders :=
      forall₂_congr fun row hrow => forall₂_congr fun value hmem =>
        (h row hrow value hmem).succeeds_iff
    rw [Input.render, succeeds_map, Value.succeeds_renderRows, hrows]
    exact ⟨.rows, fun | .rows h => h⟩
  | .query h => by
    rw [Input.render_query, h.succeeds_iff]
    exact ⟨.query, fun | .query h => h⟩

/-- A query has a text exactly if it is such as to have one. -/
theorem Query.Built.succeeds_iff {q : Query} :
    q.Built → (Succeeds q.render ↔ q.Renders)
  | .intro reachable columns indexes groupBy having facets target fields input assigned assigning
      raw filters orderBy => by
    have hclause : ∀ scope : Scope,
        (∀ logic c, .clause logic c ∈ (q.group scope).entries →
          (Succeeds c.render ↔ c.Renders)) →
        ((∀ x ∈ Condition.renderClause scope (q.group scope), Succeeds x) ↔
          (q.group scope).depth = 0 ∧
            ∀ logic c, .clause logic c ∈ (q.group scope).entries → c.Renders) := fun scope h => by
      rw [Condition.succeeds_renderClause scope (reachable.sound scope)]
      exact and_congr_right fun _ => forall₂_congr fun logic c => forall_congr' (h logic c)
    exact Query.Judged.succeeds_iff
      { columns := (Column.succeeds_renderAll ..).trans
          (forall₂_congr fun column h => (columns column h).succeeds_iff .column)
        indexes := (Column.succeeds_renderAll ..).trans
          (forall₂_congr fun column h => (indexes column h).succeeds_iff .index)
        filters := hclause .filters fun logic c h => (filters logic c h).succeeds_iff
        groupBy := (Column.succeeds_renderAll ..).trans
          (forall₂_congr fun column h => (groupBy column h).succeeds_iff .column)
        having := hclause .having fun logic c h => (having logic c h).succeeds_iff
        orderBy := (OrderKey.succeeds_renderAll ..).trans
          (forall₂_congr fun key h => (orderBy key h).succeeds_iff .column)
        facets := (Facet.succeeds_renderAll ..).trans
          (forall₂_congr fun facet h => (facets facet h).succeeds_iff)
        target := fun column h => (target column h).succeeds_iff .index
        fields := (Column.succeeds_renderAll ..).trans
          (forall₂_congr fun column h => (fields column h).succeeds_iff .column)
        input := input.succeeds_iff
        assignments := (Assignment.succeeds_renderAll ..).trans
          (forall₂_congr fun a h => and_congr ((assigned a h).succeeds_iff .column)
            (assigning a h).succeeds_iff)
        raw := fun t h => (raw t h).succeeds_iff }

end

/-! ## What fails -/

/-- The parts that have a value at some depth of its lists. -/
inductive Value.At (part : Value) : Value → Prop where
  | self : At part part
  | item {value : Value} {items : List Value} (hmem : value ∈ items) (h : At part value) :
    At part (.list items)

/-- A value that has no text by itself. -/
inductive Value.Faulty : Value → Prop where
  | float {x : Binary64} (h : x.isFinite = false) : Faulty (.float x)
  | query {q : Query} (h : Fails q.render) : Faulty (.query q)
  | template {t : Template} (h : Fails t.render) : Faulty (.template t)

theorem Value.At.list_iff {part : Value} {items : List Value} :
    At part (.list items) ↔ part = .list items ∨ ∃ value ∈ items, At part value := by
  constructor
  · rintro (_ | ⟨hmem, h⟩)
    · exact .inl rfl
    · exact .inr ⟨_, hmem, h⟩
  · rintro (rfl | ⟨value, hmem, h⟩)
    · exact .self
    · exact .item hmem h

/-- A value other than a list has no parts but itself. -/
theorem Value.At.iff_eq {part value : Value} (h : value.items? = none) :
    At part value ↔ part = value := by
  constructor
  · rintro (_ | _)
    · rfl
    · cases h
  · rintro rfl
    exact .self

/-- Outside of lists a value fails by itself. -/
theorem Value.fails_iff_faulty {value : Value} (h : value.items? = none) :
    Fails value.render ↔ value.Faulty := by
  rw [fails_iff_not_succeeds]
  cases value with
  | list items => cases h
  | float x =>
    rw [render, x.succeeds_render, Bool.not_eq_true]
    exact ⟨.float, fun | .float h => h⟩
  | query q =>
    rw [render_query, succeeds_map, ← fails_iff_not_succeeds]
    exact ⟨.query, fun | .query h => h⟩
  | template t =>
    rw [render, ← fails_iff_not_succeeds]
    exact ⟨.template, fun | .template h => h⟩
  | _ => exact ⟨fun hnot => absurd (succeeds_ok _) hnot, nofun⟩

/-- Induction on the depth of lists, over values that may hold anything else. -/
@[elab_as_elim]
theorem Value.list_induction {motive : Value → Prop}
    (part : ∀ value, value.items? = none → motive value)
    (list : ∀ items, (∀ value ∈ items, motive value) → motive (.list items)) (value : Value) :
    motive value := by
  cases value with
  | list items => exact list items fun value _ => value.list_induction part list
  | _ => exact part _ rfl
termination_by sizeOf value
decreasing_by
  have hlt := List.sizeOf_lt_of_mem ‹_ ∈ _›
  simp only [Value.list.sizeOf_spec]
  omega

/-- A value fails with what is faulty at some depth of its lists. -/
theorem Value.fails_iff (value : Value) :
    Fails value.render ↔ ∃ part, Value.At part value ∧ part.Faulty := by
  induction value using list_induction with
  | part value hitems =>
    rw [fails_iff_faulty hitems]
    simp [At.iff_eq hitems]
  | list items ih =>
    have hlist : ¬ (Value.list items).Faulty := nofun
    rw [fails_iff_not_succeeds, render, succeeds_map, succeeds_renderAll]
    simp only [not_forall, exists_prop, At.list_iff, ← fails_iff_not_succeeds]
    constructor
    · rintro ⟨value, hmem, hvalue⟩
      obtain ⟨part, hpart, hfaulty⟩ := (ih value hmem).1 hvalue
      exact ⟨part, .inr ⟨value, hmem, hpart⟩, hfaulty⟩
    · rintro ⟨part, rfl | ⟨value, hmem, hpart⟩, hfaulty⟩
      · exact absurd hfaulty hlist
      · exact ⟨value, hmem, (ih value hmem).2 ⟨part, hpart, hfaulty⟩⟩

/-- A column fails with what stands under its second names. -/
theorem Column.fails_iff (place : Place) : ∀ column : Column,
    Fails (column.render place) ↔
      (∃ q, column.base = .query q ∧ Fails q.render) ∨
      ∃ t, column.base = .template t ∧ Fails t.render
  | .name s => by simp [Column.render, Column.base, Fails]
  | .template t => by simp [Column.render, Column.base]
  | .query q => by simp [Column.base, fails_iff_not_succeeds]
  | .aliased column label => by
    rw [Column.base, ← Column.fails_iff place column, Column.render, fails_iff_not_succeeds,
      succeeds_map, fails_iff_not_succeeds]

/-- A template fails with the values of its placeholders, also of those that stand nowhere. -/
theorem Template.fails_iff (t : Template) :
    Fails t.render ↔ ∃ b ∈ t.bindings, b.1 ≠ "" ∧ Fails b.2.render := by
  simp [fails_iff_not_succeeds, succeeds_render]

theorem Condition.fails_iff (c : Condition) :
    Fails c.render ↔ Fails (c.column.render .predicate) ∨ Fails c.value.render ∨
      c.operator = .between ∧ ∃ items, c.value = .list items ∧ items.length ≠ 2 := by
  simp only [fails_iff_not_succeeds, succeeds_render]
  grind

/-! ## The result -/

namespace Query

/-- **A query has no text for the documented reasons only.** A query that can be built, as can all
queries inside it, has a text exactly if its kind is set and the parts that this kind looks at have
one. A column fails with what stands under its second names, a value with what is faulty at some
depth of its lists, a template with the value of a placeholder that is not empty, and a condition
with its column, its value, or a range that has not two bounds. -/
theorem renders_exactly :
    (∀ q : Query, q.Built → ((∃ text, q.render = .ok text) ↔ q.Renders)) ∧
    (∀ (place : Place) (column : Column), (∃ e, column.render place = .error e) ↔
      (∃ q, column.base = .query q ∧ ∃ e, q.render = .error e) ∨
      ∃ t, column.base = .template t ∧ ∃ e, t.render = .error e) ∧
    (∀ value : Value, (∃ e, value.render = .error e) ↔
      ∃ part, Value.At part value ∧ part.Faulty) ∧
    (∀ t : Template, (∃ e, t.render = .error e) ↔
      ∃ b ∈ t.bindings, b.1 ≠ "" ∧ ∃ e, b.2.render = .error e) ∧
    ∀ c : Condition, (∃ e, c.render = .error e) ↔
      (∃ e, c.column.render .predicate = .error e) ∨ (∃ e, c.value.render = .error e) ∨
      c.operator = .between ∧ ∃ items, c.value = .list items ∧ items.length ≠ 2 :=
  ⟨fun _ h => h.succeeds_iff, Column.fails_iff, Value.fails_iff, Template.fails_iff,
    Condition.fails_iff⟩

/-- A selection with a query under a second name and a range, and with a value to assign, which is
not finite and which no selection writes. -/
def overloaded : Query :=
  empty.run [.select [.aliased (.query (ofKind .select)) "n"],
    .condition .filters .and ⟨.name "a", .between, .list [.int 1, .int 2]⟩,
    .assign [⟨.name "b", .list [.float .nan]⟩]]

theorem built_ofKind (kind : Kind) : (ofKind kind).Built :=
  .intro (.ofKind kind) nofun nofun nofun nofun nofun nofun nofun (.rows nofun) nofun nofun nofun
    nofun nofun

theorem Built.update {q : Query} (h : q.Built) {target : Column} (htarget : target.Built) :
    (q.update target).Built := by
  obtain ⟨reachable, columns, indexes, groupBy, having, facets, _, fields, input, assigned,
    assigning, raw, filters, orderBy⟩ := h
  have hcall : q.apply (.update target) = .ok (q.update target) := rfl
  exact .intro (reachable.apply hcall) columns indexes groupBy having facets
    (fun column h => Option.some.inj h ▸ htarget) fields input assigned assigning raw filters
    orderBy

theorem overloaded_built : overloaded.Built := by
  have hcolumns : ∀ column ∈ overloaded.columns, column.Built := fun column h => by
    obtain rfl := List.mem_singleton.1 h
    exact .aliased (.query (built_ofKind .select)) "n"
  have hassigned : ∀ a ∈ overloaded.assignments, a.column.Built ∧ a.value.Built := fun a h => by
    obtain rfl := List.mem_singleton.1 h
    exact ⟨.name "b", .list fun _ h => List.mem_singleton.1 h ▸ .float .nan⟩
  have hfilters : ∀ logic c, .clause logic c ∈ overloaded.filters.entries → c.Built :=
    fun logic c h => by
      cases List.mem_singleton.1 h
      refine .intro (.name "a") (.list fun value h => ?_)
      rcases List.mem_pair.1 h with rfl | rfl <;> exact .int _
  exact .intro (Reachable.empty.run _) hcolumns nofun nofun nofun nofun nofun nofun (.rows nofun)
    (fun a h => (hassigned a h).1) (fun a h => (hassigned a h).2) nofun hfilters nofun

theorem renders_exactly_overloaded :
    overloaded.Built ∧ overloaded.Renders ∧ (overloaded.update (.name "rt")).Built ∧
    ¬ (overloaded.update (.name "rt")).Renders ∧
    ∃ part, Value.At part (.list [.list [.float .nan]]) ∧ part.Faulty := by
  have hupdate : (overloaded.update (.name "rt")).Built := overloaded_built.update (.name "rt")
  refine ⟨overloaded_built, (renders_exactly.1 overloaded overloaded_built).1 ⟨_, rfl⟩, hupdate,
    fun h => ?_, (renders_exactly.2.2.1 _).1 ⟨_, rfl⟩⟩
  obtain ⟨text, htext⟩ := (renders_exactly.1 _ hupdate).2 h
  have hnone : (overloaded.update (.name "rt")).render = .error (.invalidQuery (.notFinite .nan)) :=
    rfl
  rw [hnone] at htext
  cases htext

end Query

end SearchQL
