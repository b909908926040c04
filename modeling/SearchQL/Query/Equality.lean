import SearchQL.Query.Basic

/-!
# Equality of queries

Two queries are the same if all their clauses are, down to the group in which the next bracket is
closed. Floats are compared as numbers: zeros of either sign are equal, and what is not a number
differs from itself, so that a query that holds it differs from itself as well.

* `Value.same`, `Template.same`, `Column.same`, `Condition.same`, `Input.same` and `Query.same`
  compare single parts. Lists are compared member by member.
-/

namespace SearchQL

mutual

/-- Whether two values are equal. -/
def Value.same : Value → Value → Bool
  | .null, .null => true
  | .bool a, .bool b => a == b
  | .int a, .int b => a == b
  | .float a, .float b => a.same b
  | .text a, .text b => a == b
  | .list as, .list bs => Value.sameAll as bs
  | .query a, .query b => a.same b
  | .template a, .template b => a.same b
  | _, _ => false
termination_by structural a => a

/-- Whether two lists of values are equal. -/
def Value.sameAll : List Value → List Value → Bool
  | [], [] => true
  | a :: as, b :: bs => a.same b && Value.sameAll as bs
  | _, _ => false
termination_by structural a => a

/-- Whether two lists of rows are equal. -/
def Value.sameRows : List (List Value) → List (List Value) → Bool
  | [], [] => true
  | a :: as, b :: bs => Value.sameAll a b && Value.sameRows as bs
  | _, _ => false
termination_by structural a => a

/-- Whether two templates are equal. -/
def Template.same : Template → Template → Bool
  | ⟨text, bindings⟩, ⟨text', bindings'⟩ =>
    text == text' && Template.sameBindings bindings bindings'
termination_by structural a => a

/-- Whether two templates are equal or both missing. -/
def Template.sameOption : Option Template → Option Template → Bool
  | none, none => true
  | some a, some b => a.same b
  | _, _ => false
termination_by structural a => a

/-- Whether two lists of placeholders with their values are equal. -/
def Template.sameBindings : List (String × Value) → List (String × Value) → Bool
  | [], [] => true
  | (k, a) :: as, (k', b) :: bs => k == k' && a.same b && Template.sameBindings as bs
  | _, _ => false
termination_by structural a => a

/-- Whether two columns are equal. -/
def Column.same : Column → Column → Bool
  | .name a, .name b => a == b
  | .template a, .template b => a.same b
  | .query a, .query b => a.same b
  | .aliased a label, .aliased b label' => a.same b && label == label'
  | _, _ => false
termination_by structural a => a

/-- Whether two lists of columns are equal. -/
def Column.sameAll : List Column → List Column → Bool
  | [], [] => true
  | a :: as, b :: bs => a.same b && Column.sameAll as bs
  | _, _ => false
termination_by structural a => a

/-- Whether two columns are equal or both missing. -/
def Column.sameOption : Option Column → Option Column → Bool
  | none, none => true
  | some a, some b => a.same b
  | _, _ => false
termination_by structural a => a

/-- Whether two conditions are equal. -/
def Condition.same : Condition → Condition → Bool
  | ⟨column, op, value⟩, ⟨column', op', value'⟩ =>
    column.same column' && op == op' && value.same value'
termination_by structural a => a

/-- Whether two sequences of conditions and brackets are equal. -/
def Condition.sameEntries : List (Entry Condition) → List (Entry Condition) → Bool
  | [], [] => true
  | .opened l :: as, .opened l' :: bs => l == l' && Condition.sameEntries as bs
  | .closed :: as, .closed :: bs => Condition.sameEntries as bs
  | .clause l a :: as, .clause l' b :: bs =>
    l == l' && a.same b && Condition.sameEntries as bs
  | _, _ => false
termination_by structural a => a

/-- Whether two groups of conditions are equal. -/
def Condition.sameGroup : Group Condition → Group Condition → Bool
  | ⟨as, depth⟩, ⟨bs, depth'⟩ => Condition.sameEntries as bs && depth == depth'
termination_by structural a => a

/-- Whether two terms are equal. -/
def Term.same : Term → Term → Bool
  | .text a, .text b => a == b
  | .template a, .template b => a.same b
  | _, _ => false
termination_by structural a => a

/-- Whether two lists of terms are equal. -/
def Term.sameAll : List Term → List Term → Bool
  | [], [] => true
  | a :: as, b :: bs => a.same b && Term.sameAll as bs
  | _, _ => false
termination_by structural a => a

/-- Whether two lists of terms are equal or both missing. -/
def Term.sameFields : Option (List Term) → Option (List Term) → Bool
  | none, none => true
  | some as, some bs => Term.sameAll as bs
  | _, _ => false
termination_by structural a => a

/-- Whether two lists of searches are equal. -/
def Search.sameAll : List Search → List Search → Bool
  | [], [] => true
  | ⟨fields, term⟩ :: as, ⟨fields', term'⟩ :: bs =>
    Term.sameFields fields fields' && term.same term' && Search.sameAll as bs
  | _, _ => false
termination_by structural a => a

/-- Whether two facets are equal. -/
def Facet.same : Facet → Facet → Bool
  | .body a, .body b => a == b
  | .template a, .template b => a.same b
  | .query a, .query b => a.same b
  | _, _ => false
termination_by structural a => a

/-- Whether two lists of facets are equal. -/
def Facet.sameAll : List Facet → List Facet → Bool
  | [], [] => true
  | a :: as, b :: bs => a.same b && Facet.sameAll as bs
  | _, _ => false
termination_by structural a => a

/-- Whether two orders are equal. -/
def OrderKey.sameAll : List OrderKey → List OrderKey → Bool
  | [], [] => true
  | ⟨column, direction⟩ :: as, ⟨column', direction'⟩ :: bs =>
    column.same column' && direction == direction' && OrderKey.sameAll as bs
  | _, _ => false
termination_by structural a => a

/-- Whether two lists of assignments are equal. -/
def Assignment.sameAll : List Assignment → List Assignment → Bool
  | [], [] => true
  | ⟨column, value⟩ :: as, ⟨column', value'⟩ :: bs =>
    column.same column' && value.same value' && Assignment.sameAll as bs
  | _, _ => false
termination_by structural a => a

/-- Whether the same is inserted. -/
def Input.same : Input → Input → Bool
  | .rows as, .rows bs => Value.sameRows as bs
  | .query a, .query b => a.same b
  | _, _ => false
termination_by structural a => a

/-- Whether two queries are equal. -/
def Query.same : Query → Query → Bool
  | ⟨kind, columns, distinct, indexes, searches, groupBy, having, options, facets, offset, target,
      fields, input, assignments, raw, filters, orderBy, limit, lastOpened⟩, q =>
    kind == q.kind && Column.sameAll columns q.columns && distinct == q.distinct &&
    Column.sameAll indexes q.indexes && Search.sameAll searches q.searches &&
    Column.sameAll groupBy q.groupBy && Condition.sameGroup having q.having &&
    options == q.options && Facet.sameAll facets q.facets && offset == q.offset &&
    Column.sameOption target q.target && Column.sameAll fields q.fields &&
    input.same q.input && Assignment.sameAll assignments q.assignments &&
    Template.sameOption raw q.raw && Condition.sameGroup filters q.filters &&
    OrderKey.sameAll orderBy q.orderBy && limit == q.limit && lastOpened == q.lastOpened
termination_by structural a => a

end

end SearchQL
