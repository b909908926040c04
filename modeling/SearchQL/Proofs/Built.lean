import SearchQL.Proofs.Reachable

/-!
# Parts that can be built

A query is built by steps, and so is every query inside it. These predicates follow the parts of a
query down to its values and columns, so that a statement about all of them is proved by induction
on how the query is built, with one case for each kind of part.

* `Query.Built` is the notion for queries, `Query.Built.reachable` what it says at the top.
* The terms of a full-text search are left out. They hold no queries that are written.
-/

namespace SearchQL

mutual

/-- A value all of whose queries are built by steps. -/
inductive Value.Built : Value → Prop where
  | null : Value.Built .null
  | bool (b : Bool) : Value.Built (.bool b)
  | int (n : Int) : Value.Built (.int n)
  | float (x : Binary64) : Value.Built (.float x)
  | text (s : String) : Value.Built (.text s)
  | list {items : List Value} (h : ∀ value ∈ items, Value.Built value) : Value.Built (.list items)
  | query {q : Query} (h : Query.Built q) : Value.Built (.query q)
  | template {t : Template} (h : Template.Built t) : Value.Built (.template t)

/-- A template all of whose queries are built by steps. -/
inductive Template.Built : Template → Prop where
  | intro {t : Template} (bindings : ∀ b ∈ t.bindings, Value.Built b.2) : Template.Built t

/-- A column all of whose queries are built by steps. -/
inductive Column.Built : Column → Prop where
  | name (name : String) : Column.Built (.name name)
  | template {t : Template} (h : Template.Built t) : Column.Built (.template t)
  | query {q : Query} (h : Query.Built q) : Column.Built (.query q)
  | aliased {column : Column} (h : Column.Built column) (label : String) :
    Column.Built (.aliased column label)

/-- A condition all of whose queries are built by steps. -/
inductive Condition.Built : Condition → Prop where
  | intro {c : Condition} (column : Column.Built c.column) (value : Value.Built c.value) :
    Condition.Built c

/-- A facet all of whose queries are built by steps. -/
inductive Facet.Built : Facet → Prop where
  | body (s : String) : Facet.Built (.body s)
  | template {t : Template} (h : Template.Built t) : Facet.Built (.template t)
  | query {q : Query} (h : Query.Built q) : Facet.Built (.query q)

/-- Input all of whose queries are built by steps. -/
inductive Input.Built : Input → Prop where
  | rows {rows : List (List Value)} (h : ∀ row ∈ rows, ∀ value ∈ row, Value.Built value) :
    Input.Built (.rows rows)
  | query {q : Query} (h : Query.Built q) : Input.Built (.query q)

/-- A query that is built by steps, as all queries inside it are. -/
inductive Query.Built : Query → Prop where
  | intro {q : Query} (reachable : q.Reachable)
    (columns : ∀ column ∈ q.columns, Column.Built column)
    (indexes : ∀ column ∈ q.indexes, Column.Built column)
    (groupBy : ∀ column ∈ q.groupBy, Column.Built column)
    (having : ∀ logic c, .clause logic c ∈ q.having.entries → Condition.Built c)
    (facets : ∀ facet ∈ q.facets, Facet.Built facet)
    (target : ∀ column ∈ q.target, Column.Built column)
    (fields : ∀ column ∈ q.fields, Column.Built column)
    (input : Input.Built q.input)
    (assigned : ∀ a ∈ q.assignments, Column.Built a.column)
    (assigning : ∀ a ∈ q.assignments, Value.Built a.value)
    (raw : ∀ t ∈ q.raw, Template.Built t)
    (filters : ∀ logic c, .clause logic c ∈ q.filters.entries → Condition.Built c)
    (orderBy : ∀ key ∈ q.orderBy, Column.Built key.column) : Query.Built q

end

theorem Query.Built.reachable {q : Query} (h : q.Built) : q.Reachable := by
  obtain ⟨hreachable⟩ := h
  exact hreachable

end SearchQL
