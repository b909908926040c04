import SearchQL.Query.Basic
import SearchQL.Text.CharClass

/-!
# Building queries

The steps by which a query gets its clauses. Each gives the query with one more clause or one
clause replaced; only closing a bracket and filling an insertion can fail.

* Selection: `Query.select`, `Query.addIndex`, `Query.addSearch`, `Query.addFacet` and others.
* Conditions: `Query.addCondition`, `Query.addFilter`, which leaves out blank values, and
  `Query.openBracket` and `Query.closeBracket`.
* Changes: `Query.insertInto`, `Query.insertRow`, `Query.addRow`, `Query.insertQuery`,
  `Query.update`, `Query.assign`, `Query.delete`.
* Raw statements: `Query.setRaw` and `Query.bindRaw`.
* `Query.selecting`, `Query.inserting` and others start a query of a kind.
-/

namespace SearchQL

/-! ## Blank values -/

/-- Whether a value counts as not given: NULL, white space or an empty list. -/
def Value.isBlank : Value → Bool
  | .null => true
  | .text s => blankText s
  | .list items => items.isEmpty
  | _ => false

/-! ## Rows -/

/-- What is inserted with one more row; a row takes the place of a query. -/
def Input.push (row : List Value) : Input → Input
  | .rows given => .rows (given ++ [row])
  | .query _ => .rows [row]

/-- The assignments of a map from names to values, in ascending order of the names. -/
def Assignment.ofDict (dict : List (String × Value)) : List Assignment :=
  dict.map fun p => ⟨.name p.1, p.2⟩

namespace Query

/-! ## Selection -/

/-- A selection of the given columns; no columns leave the selected ones as they are, and a query
with facets stays one. -/
def select (columns : List Column) (q : Query) : Query :=
  { q with
    columns := if columns.isEmpty then q.columns else columns
    kind := if q.kind = some .multiSelect then q.kind else some .select }

/-- Equal rows are given once, or not. -/
def setDistinct (distinct : Bool) (q : Query) : Query := { q with distinct }

/-- One more index is selected from. -/
def addIndex (index : Column) (q : Query) : Query := { q with indexes := q.indexes ++ [index] }

/-- One more term is searched for. -/
def addSearch (search : Search) (q : Query) : Query := { q with searches := q.searches ++ [search] }

/-- One more result set, which makes the query one with facets. -/
def addFacet (facet : Facet) (q : Query) : Query :=
  { q with facets := q.facets ++ [facet], kind := some .multiSelect }

/-- Rows are grouped by further columns. -/
def groupRows (columns : List Column) (q : Query) : Query :=
  { q with groupBy := q.groupBy ++ columns }

/-- One more option of the search. -/
def addOption (option : String) (q : Query) : Query := { q with options := q.options ++ [option] }

/-- At most `limit` rows are given. -/
def setLimit (limit : Nat) (q : Query) : Query := { q with limit := some limit }

/-- The first `offset` rows are left out. -/
def setOffset (offset : Nat) (q : Query) : Query := { q with offset := some offset }

/-! ## Conditions -/

/-- One of the two groups of conditions. -/
def group (scope : Scope) (q : Query) : Group Condition :=
  match scope with
  | .filters => q.filters
  | .having => q.having

/-- The query with one of its groups of conditions replaced. -/
def withGroup (scope : Scope) (g : Group Condition) (q : Query) : Query :=
  match scope with
  | .filters => { q with filters := g }
  | .having => { q with having := g }

/-- One more condition. -/
def addCondition (scope : Scope) (logic : Logic) (condition : Condition) (q : Query) : Query :=
  q.withGroup scope ((q.group scope).push logic condition)

/-- Further conditions, in order. -/
def addConditions (scope : Scope) (logic : Logic) (conditions : List Condition) (q : Query) :
    Query :=
  conditions.foldl (fun q condition => q.addCondition scope logic condition) q

/-- One more condition on documents, unless its value is blank. -/
def addFilter (logic : Logic) (condition : Condition) (q : Query) : Query :=
  if condition.value.isBlank then q else q.addCondition .filters logic condition

/-- One more open bracket, in the group in which the next one is closed. -/
def openBracket (scope : Scope) (logic : Logic) (q : Query) : Query :=
  { q.withGroup scope ((q.group scope).openBracket logic) with lastOpened := scope }

/-- The bracket opened last is closed, or taken away if it is empty and `dropIfEmpty` is set. -/
def closeBracket (dropIfEmpty : Bool) (q : Query) : Except Error Query :=
  ((q.group q.lastOpened).closeBracket dropIfEmpty q.lastOpened.keyword).map fun g =>
    q.withGroup q.lastOpened g

/-! ## Order -/

/-- The answer is also ordered by one more column. -/
def addOrder (key : OrderKey) (q : Query) : Query := { q with orderBy := q.orderBy ++ [key] }

/-- The answer is ordered by the given columns and no others. -/
def setOrder (keys : List OrderKey) (q : Query) : Query := { q with orderBy := keys }

/-- Everything but the kind of statement is forgotten. -/
def reset (q : Query) : Query := { empty with kind := q.kind }

/-! ## Insertion -/

/-- The index that is changed. -/
def setTarget (target : Column) (q : Query) : Query := { q with target := some target }

/-- An insertion into an index. -/
def insertInto (insertion : Insertion) (target : Column) (q : Query) : Query :=
  { q with kind := some insertion.kind, target := some target }

/-- The columns that are inserted into. -/
def setFields (fields : List Column) (q : Query) : Query := { q with fields }

/-- One more row of values without their columns. An insertion from a query takes no rows. -/
def addRow (row : List Value) (q : Query) : Except Error Query :=
  match q.input with
  | .rows rows => .ok { q with input := .rows (rows ++ [row]) }
  | .query _ => .error (.kindConflict .rowAfterQuery)

/-- Further rows, all or none of them. -/
def addRows (rows : List (List Value)) (q : Query) : Except Error Query :=
  rows.foldlM (fun q row => q.addRow row) q

/-- The answer of a query is inserted. An insertion that has rows takes no query. -/
def insertQuery (q query : Query) : Except Error Query :=
  match q.input with
  | .rows (_ :: _) => .error (.kindConflict .queryAfterRow)
  | _ => .ok { q with input := .query query }

/-- One more row, given with its columns. They become the columns of the insertion if it has none;
otherwise the values stand in the order in which they are given. Without values nothing changes. -/
def pushRow (row : List Assignment) (q : Query) : Query :=
  if row.isEmpty then q
  else
    { q with
      fields := if q.fields.isEmpty then row.map Assignment.column else q.fields
      input := Input.push (row.map Assignment.value) q.input }

/-- An insertion of a row, given with its columns, into an index. -/
def insertRow (insertion : Insertion) (target : Column) (row : List Assignment) (q : Query) :
    Query :=
  (q.insertInto insertion target).pushRow row

/-! ## Other changes -/

/-- A change of values in an index. -/
def update (target : Column) (q : Query) : Query :=
  { q with kind := some .update, target := some target }

/-- Further values that are assigned. -/
def assign (assignments : List Assignment) (q : Query) : Query :=
  { q with assignments := q.assignments ++ assignments }

/-- A deletion from an index. -/
def delete (target : Column) (q : Query) : Query :=
  { q with kind := some .delete, target := some target }

/-! ## Raw statements -/

/-- A raw statement. -/
def setRaw (template : Template) (q : Query) : Query :=
  { q with kind := some .raw, raw := some template }

/-- A value for a placeholder of the raw statement. The kind of statement stays as it is. -/
def bindRaw (placeholder : String) (value : Value) (q : Query) : Query :=
  { q with raw := some ((q.raw.getD (.ofText "")).bind placeholder value) }

/-! ## Starting points -/

/-- A selection of columns. -/
def selecting (columns : List Column) : Query := empty.select columns

/-- A selection of all columns of an index. -/
def selectingFrom (index : Column) : Query := (selecting []).addIndex index

/-- An insertion into an index. -/
def inserting (insertion : Insertion) (target : Column) : Query := empty.insertInto insertion target

/-- A change of values in an index. -/
def updating (target : Column) : Query := empty.update target

/-- A deletion from an index. -/
def deleting (target : Column) : Query := empty.delete target

/-- A raw statement. -/
def ofRaw (template : Template) : Query := empty.setRaw template

end Query

end SearchQL
