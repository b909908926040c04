import SearchQL.Binary64.Basic
import SearchQL.Group
import SearchQL.Query.Operator
import SearchQL.Dict

/-!
# Queries

A query under construction, and the values, columns and conditions that it is made of. They refer
to each other: a query may stand wherever a value, a column or a facet may.

* `Value` is what is compared, inserted and assigned, `Column` what is selected or named.
* `Template` is trusted text with placeholders.
* `Query` holds the clauses of every kind of statement at once; its kind decides which of them are
  written.
* `Column.labelled` and `Column.base` set and remove the second name of a column.
-/

namespace SearchQL

/-! ## Kinds and choices -/

/-- The kinds of statement. -/
inductive Kind where
  | raw
  | select
  | insert
  | replace
  | update
  | delete
  /-- A selection with facets, which has several result sets. -/
  | multiSelect
deriving DecidableEq, Repr

/-- The direction of an order. -/
inductive Direction where
  | ascending
  | descending
deriving DecidableEq, Repr

/-- The two groups of conditions of a query. -/
inductive Scope where
  /-- The conditions on documents. -/
  | filters
  /-- The conditions on groups of documents. -/
  | having
deriving DecidableEq, Repr

/-- The keyword of a group of conditions, which also names it in errors. -/
def Scope.keyword : Scope → String
  | .filters => "WHERE"
  | .having => "HAVING"

/-- Whether documents are inserted beside those with their number or in place of them. -/
inductive Insertion where
  | insert
  | replace
deriving DecidableEq, Repr

/-- The kind of an insertion. -/
def Insertion.kind : Insertion → Kind
  | .insert => .insert
  | .replace => .replace

/-! ## The parts of a query -/

mutual

/-- A value. -/
inductive Value where
  | null
  | bool (b : Bool)
  | int (n : Int)
  | float (x : Binary64)
  | text (s : String)
  | list (items : List Value)
  | query (q : Query)
  | template (t : Template)

/-- Trusted text in which placeholders are replaced by values. The placeholders ascend. -/
structure Template where
  text : String
  bindings : List (String × Value)

/-- A column or an index. -/
inductive Column where
  | name (name : String)
  | template (t : Template)
  | query (q : Query)
  /-- A column under a second name. -/
  | aliased (column : Column) (label : String)

/-- A condition on a column. -/
structure Condition where
  column : Column
  operator : Operator
  value : Value

/-- A term of a full-text search. -/
inductive Term where
  /-- Plain text, which matches literally. -/
  | text (s : String)
  /-- Trusted text in the language of full-text queries. -/
  | template (t : Template)

/-- A term that is searched for, in some fields or in all. -/
structure Search where
  fields : Option (List Term)
  term : Term

/-- A further result set of a selection. -/
inductive Facet where
  /-- The text of the facet. -/
  | body (s : String)
  | template (t : Template)
  | query (q : Query)

/-- A column that the answer is ordered by. -/
structure OrderKey where
  column : Column
  direction : Direction

/-- A column and the value that it is given. -/
structure Assignment where
  column : Column
  value : Value

/-- What is inserted. -/
inductive Input where
  /-- Rows of values. -/
  | rows (rows : List (List Value))
  /-- The answer of a query. -/
  | query (q : Query)

/-- A query under construction: the kind of statement, once it is chosen, and the clauses of all
kinds. The target is the index that a statement changes, and the fields are the columns that it
inserts into. -/
structure Query where
  kind : Option Kind
  columns : List Column
  distinct : Bool
  indexes : List Column
  searches : List Search
  groupBy : List Column
  having : Group Condition
  options : List String
  facets : List Facet
  offset : Option Nat
  target : Option Column
  fields : List Column
  input : Input
  assignments : List Assignment
  raw : Option Template
  /-- The conditions on documents. -/
  filters : Group Condition
  orderBy : List OrderKey
  limit : Option Nat
  /-- The group in which a bracket was opened last, and in which the next one is closed. -/
  lastOpened : Scope

end

/-! ## Values -/

/-- Whether a value is NULL. -/
def Value.isNull : Value → Bool
  | .null => true
  | _ => false

/-- The members of a list of values. -/
def Value.items? : Value → Option (List Value)
  | .list items => some items
  | _ => none

/-- The value behind an optional one: nothing is NULL. -/
def Value.ofOption : Option Value → Value
  | some value => value
  | none => .null

/-- The value of a moment, given in seconds and nanoseconds since 1970: the whole seconds. -/
def Value.ofMoment (seconds : Int) (_nanoseconds : Nat) : Value := .int seconds

/-! ## Templates -/

namespace Template

/-- A template without values for its placeholders. -/
def ofText (text : String) : Template := ⟨text, []⟩

/-- The template with a value for a placeholder; an earlier value is replaced. -/
def bind (placeholder : String) (value : Value) (t : Template) : Template :=
  { t with bindings := Dict.insert placeholder value t.bindings }

/-- The template with several values; later ones replace earlier ones. -/
def bindAll (pairs : List (String × Value)) (t : Template) : Template :=
  { t with bindings := Dict.insertAll t.bindings pairs }

end Template

/-! ## Columns -/

namespace Column

/-- The column under a second name, which replaces the one it had. -/
def labelled (label : String) : Column → Column
  | .aliased column _ => .aliased column label
  | column => .aliased column label

/-- The column without its second names. -/
def base : Column → Column
  | .aliased column _ => base column
  | column => column

end Column

/-! ## Conditions -/

/-- The condition that a column is equal to a value. -/
def Condition.equal (column : Column) (value : Value) : Condition := ⟨column, .eq, value⟩

/-! ## The empty query -/

namespace Query

/-- The query without any clause. -/
def empty : Query where
  kind := none
  columns := []
  distinct := false
  indexes := []
  searches := []
  groupBy := []
  having := {}
  options := []
  facets := []
  offset := none
  target := none
  fields := []
  input := .rows []
  assignments := []
  raw := none
  filters := {}
  orderBy := []
  limit := none
  lastOpened := .filters

/-- The query of a kind without any clause. -/
def ofKind (kind : Kind) : Query := { empty with kind := some kind }

end Query

instance : Inhabited Query := ⟨.empty⟩

instance : Inhabited Value := ⟨.null⟩

end SearchQL
