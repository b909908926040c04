import SearchQL.Binary64.Basic
import SearchQL.Group
import SearchQL.Query.Statement
import SearchQL.Text.CharClass
import SearchQL.Text.Identifier
import SearchQL.Text.Placeholder

/-!
# Rendering

The text of a query and of everything it is made of. Each kind of part has a function that renders
one of them and a function that renders a list of them, and a list fails with the error of its
first member that fails.

* `Value.render`, `Column.render`, `Template.render`, `Condition.render` and `Query.render` are the
  texts of single parts.
* `Query.clauses` gathers the texts of the clauses of a query, and the query is the statement of
  its kind over them.
-/

namespace SearchQL

/-! ## Parts without parts -/

/-- The text of a float, which has to be finite. -/
def Binary64.render (x : Binary64) : Except Error String :=
  if x.isFinite then .ok x.fixed else .error (.invalidQuery (.notFinite x))

/-- The places where a column is written, which differ in how names are quoted. -/
inductive Place where
  /-- Where a column is named: a dotted name is quoted piece by piece. -/
  | column
  /-- Where an index is named: a name is quoted as a whole. -/
  | index
  /-- Before an operator: there is no second name, and no text for an empty name. -/
  | predicate
deriving DecidableEq, Repr

/-- The text of a name at a place. -/
def Place.name : Place → String → String
  | .column, name => Identifier.dotted name
  | .index, name => Identifier.segment name
  | .predicate, name => if name = "" then "" else Identifier.dotted name

/-- The text of a second name at a place. -/
def Place.label : Place → String → String
  | .predicate, _ => ""
  | _, label => Identifier.aliasing label

/-- The text of a direction. -/
def Direction.word : Direction → String
  | .ascending => "ASC"
  | .descending => "DESC"

/-- A rendered list of values between brackets. -/
def bracketed (sep : String) (texts : List String) : String := "(" ++ joinWith sep texts ++ ")"

/-- A rendered list of values behind an operator. A range has exactly two bounds, joined by AND;
for membership the list is written without blanks. -/
def Operator.operand (op : Operator) (count : Nat) (texts : Except Error (List String)) :
    Except Error String :=
  if op = .between then
    if count = 2 then texts.map (joinWith " AND ") else .error (.invalidQuery (.bounds count))
  else if op = .inList ∨ op = .notInList then texts.map (bracketed ",")
  else texts.map (bracketed ", ")

/-- The operator before a value: NULL has operators of its own. -/
def Operator.before (op : Operator) (value : Value) : Operator :=
  if value.isNull then op.againstNull else op

theorem Operator.before_named {op : Operator} (hop : op ∈ Operator.named) (value : Value) :
    op.before value ∈ Operator.named := by
  have hnull : ∀ op ∈ Operator.named, op.againstNull ∈ Operator.named := by decide
  unfold Operator.before
  split
  · exact hnull op hop
  · exact hop

/-- An operator between its two sides, without white space at the ends. -/
def Operator.compose (op : Operator) (left right : Except Error String) : Except Error String := do
  let left ← left
  let right ← right
  return trim (left ++ " " ++ op.symbol ++ " " ++ right)

/-- A sub-query where a value or a column stands. -/
def parenthesised (text : String) : String := "(" ++ text ++ ")"

/-! ## Parts with parts -/

mutual

/-- The text of a value as a literal. -/
def Value.render : Value → Except Error String
  | .null => .ok "NULL"
  | .bool b => .ok (if b then "'1'" else "'0'")
  | .int n => .ok (toString n)
  | .float x => x.render
  | .text s => .ok (Literal.encode s)
  | .list items => (Value.renderAll items).map (bracketed ", ")
  | .query q => (q.clauses.statement q.kind).map parenthesised
  | .template t => t.render

/-- The texts of values. -/
def Value.renderAll : List Value → Except Error (List String)
  | [] => .ok []
  | value :: rest => do return (← value.render) :: (← Value.renderAll rest)

/-- The texts of rows of values, each between brackets. -/
def Value.renderRows : List (List Value) → Except Error (List String)
  | [] => .ok []
  | row :: rest => do return bracketed ", " (← Value.renderAll row) :: (← Value.renderRows rest)

/-- The text of a template with its placeholders replaced. A template without values is its text. -/
def Template.render : Template → Except Error String
  | ⟨text, bindings⟩ =>
    if bindings.isEmpty then .ok text
    else (Template.renderBindings bindings).map fun replacements =>
      Placeholder.replace replacements text

/-- The texts of the values of placeholders. An empty placeholder stands nowhere, and its value is
not looked at. -/
def Template.renderBindings : List (String × Value) → Except Error (List (String × String))
  | [] => .ok []
  | (key, value) :: rest =>
    if key = "" then Template.renderBindings rest
    else do return (key, ← value.render) :: (← Template.renderBindings rest)

/-- The text of a column at a place. -/
def Column.render (place : Place) : Column → Except Error String
  | .name name => .ok (place.name name)
  | .template t => t.render
  | .query q => (q.clauses.statement q.kind).map parenthesised
  | .aliased column label => (Column.render place column).map (· ++ place.label label)

/-- The texts of columns at a place. -/
def Column.renderAll (place : Place) : List Column → Except Error (List String)
  | [] => .ok []
  | column :: rest => do return (← column.render place) :: (← Column.renderAll place rest)

/-- The text of a condition. -/
def Condition.render : Condition → Except Error String
  | ⟨column, op, .list items⟩ =>
    op.compose (column.render .predicate) (op.operand items.length (Value.renderAll items))
  | ⟨column, op, value⟩ => (op.before value).compose (column.render .predicate) value.render

/-- The entries of a group with the texts of their conditions. -/
def Condition.renderEntries : List (Entry Condition) → Except Error (List (Entry String))
  | [] => .ok []
  | .opened logic :: rest => (Condition.renderEntries rest).map (.opened logic :: ·)
  | .closed :: rest => (Condition.renderEntries rest).map (.closed :: ·)
  | .clause logic condition :: rest => do
    return .clause logic (← condition.render) :: (← Condition.renderEntries rest)

/-- The text of a clause of conditions, if there are any. -/
def Condition.renderClause (scope : Scope) : Group Condition → Option (Except Error String)
  | ⟨entries, depth⟩ =>
    if entries.isEmpty then none
    else some (Group.balancedText scope.keyword depth (Condition.renderEntries entries))

/-- The text of a facet. -/
def Facet.render : Facet → Except Error String
  | .body s => .ok s
  | .template t => t.render
  | .query q => q.clauses.statement q.kind

/-- The texts of facets. -/
def Facet.renderAll : List Facet → Except Error (List String)
  | [] => .ok []
  | facet :: rest => do return (← facet.render) :: (← Facet.renderAll rest)

/-- The texts of the columns of an order, each with its direction. -/
def OrderKey.renderAll : List OrderKey → Except Error (List String)
  | [] => .ok []
  | ⟨column, direction⟩ :: rest => do
    return ((← column.render .column) ++ " " ++ direction.word) :: (← OrderKey.renderAll rest)

/-- The texts of assignments. -/
def Assignment.renderAll : List Assignment → Except Error (List String)
  | [] => .ok []
  | ⟨column, value⟩ :: rest => do
    return ((← column.render .column) ++ " = " ++ (← value.render)) ::
      (← Assignment.renderAll rest)

/-- The text of what is inserted. -/
def Input.render : Input → Except Error String
  | .rows rows => (Value.renderRows rows).map fun texts => "VALUES " ++ joinWith ", " texts
  | .query q => q.clauses.statement q.kind

/-- The text of the index that a statement changes. -/
def Column.renderTarget : Option Column → Option (Except Error String)
  | none => none
  | some column => some (column.render .index)

/-- The text of a raw statement. -/
def Template.renderRaw : Option Template → Option (Except Error String)
  | none => none
  | some t => some t.render

/-- The texts of the clauses of a query. -/
def Query.clauses : Query → Clauses
  | ⟨_, columns, distinct, indexes, searches, groupBy, having, options, facets, offset, target,
      fields, input, assignments, raw, filters, orderBy, limit, _⟩ =>
    { columns := Column.renderAll .column columns
      distinct
      indexes := Column.renderAll .index indexes
      search := if searches.isEmpty then none else some (Search.argument searches)
      filters := Condition.renderClause .filters filters
      groupBy := Column.renderAll .column groupBy
      having := Condition.renderClause .having having
      orderBy := OrderKey.renderAll orderBy
      limit
      offset
      options
      facets := Facet.renderAll facets
      target := Column.renderTarget target
      fields := Column.renderAll .column fields
      input := input.render
      assignments := Assignment.renderAll assignments
      raw := Template.renderRaw raw }

end

/-! ## Queries -/

/-- The text of a group of conditions by itself, which errors name by the label. -/
def Condition.renderGroup (label : String) (g : Group Condition) : Except Error String :=
  Group.balancedText label g.depth (Condition.renderEntries g.entries)

/-- The text of a query: the statement of its kind over its clauses. -/
def Query.render (q : Query) : Except Error String := q.clauses.statement q.kind

namespace Query

@[simp] theorem columns_clauses (q : Query) :
    q.clauses.columns = Column.renderAll .column q.columns := by
  cases q
  rfl

@[simp] theorem distinct_clauses (q : Query) : q.clauses.distinct = q.distinct := by
  cases q
  rfl

@[simp] theorem indexes_clauses (q : Query) :
    q.clauses.indexes = Column.renderAll .index q.indexes := by
  cases q
  rfl

@[simp] theorem search_clauses (q : Query) :
    q.clauses.search = if q.searches.isEmpty then none else some (Search.argument q.searches) := by
  cases q
  rfl

@[simp] theorem filters_clauses (q : Query) :
    q.clauses.filters = Condition.renderClause .filters q.filters := by
  cases q
  rfl

@[simp] theorem groupBy_clauses (q : Query) :
    q.clauses.groupBy = Column.renderAll .column q.groupBy := by
  cases q
  rfl

@[simp] theorem having_clauses (q : Query) :
    q.clauses.having = Condition.renderClause .having q.having := by
  cases q
  rfl

@[simp] theorem orderBy_clauses (q : Query) :
    q.clauses.orderBy = OrderKey.renderAll q.orderBy := by
  cases q
  rfl

@[simp] theorem limit_clauses (q : Query) : q.clauses.limit = q.limit := by
  cases q
  rfl

@[simp] theorem offset_clauses (q : Query) : q.clauses.offset = q.offset := by
  cases q
  rfl

@[simp] theorem options_clauses (q : Query) : q.clauses.options = q.options := by
  cases q
  rfl

@[simp] theorem facets_clauses (q : Query) : q.clauses.facets = Facet.renderAll q.facets := by
  cases q
  rfl

@[simp] theorem target_clauses (q : Query) :
    q.clauses.target = q.target.map (Column.render .index) := by
  cases q with
  | mk _ _ _ _ _ _ _ _ _ _ target =>
    cases target with
    | none => rfl
    | some column => rfl

@[simp] theorem fields_clauses (q : Query) :
    q.clauses.fields = Column.renderAll .column q.fields := by
  cases q
  rfl

@[simp] theorem input_clauses (q : Query) : q.clauses.input = q.input.render := by
  cases q
  rfl

@[simp] theorem assignments_clauses (q : Query) :
    q.clauses.assignments = Assignment.renderAll q.assignments := by
  cases q
  rfl

@[simp] theorem raw_clauses (q : Query) : q.clauses.raw = q.raw.map Template.render := by
  cases q with
  | mk _ _ _ _ _ _ _ _ _ _ _ _ _ _ raw =>
    cases raw with
    | none => rfl
    | some t => rfl

end Query

@[simp] theorem Value.render_query (q : Query) :
    (Value.query q).render = q.render.map parenthesised := rfl

@[simp] theorem Column.render_query (place : Place) (q : Query) :
    (Column.query q).render place = q.render.map parenthesised := rfl

@[simp] theorem Facet.render_query (q : Query) : (Facet.query q).render = q.render := rfl

@[simp] theorem Input.render_query (q : Query) : (Input.query q).render = q.render := rfl

end SearchQL
