import SearchQL.Error.Basic
import SearchQL.Query.Basic
import SearchQL.Text.Literal
import SearchQL.Text.Join

/-!
# Statements

The text of each kind of statement from the texts of its clauses. A clause whose text could not be
made carries its error, and the statement fails with the first such error among the clauses that
its kind writes, in the order in which it looks at them.

* `Clauses` holds the texts of the clauses.
* `Clauses.selection`, `Clauses.insertion`, `Clauses.update`, `Clauses.deletion` and
  `Clauses.rawText` write one kind each, and `Clauses.statement` goes by the kind.
* `Search.argument` is the argument of MATCH.
-/

namespace SearchQL

/-! ## Full-text search -/

/-- The text of a term: plain text matches literally, trusted text stays as it is. -/
def Term.encode : Term → String
  | .text s => FullText.encode s
  | .template t => t.text

/-- A term with the fields that it is searched in. -/
def Search.encode (s : Search) : String :=
  match s.fields with
  | none => s.term.encode
  | some fields => "@(" ++ joinWith "," (fields.map Term.encode) ++ ") " ++ s.term.encode

/-- The argument of MATCH: all terms in one literal. -/
def Search.argument (searches : List Search) : String :=
  Literal.encode (joinWith " " (searches.map Search.encode))

/-! ## Clauses -/

/-- The texts of the clauses of a query. A clause that is optional is missing where there is
nothing to write, and the search is the argument of MATCH. -/
structure Clauses where
  columns : Except Error (List String)
  distinct : Bool
  indexes : Except Error (List String)
  search : Option String
  filters : Option (Except Error String)
  groupBy : Except Error (List String)
  having : Option (Except Error String)
  /-- The columns that the answer is ordered by, with their directions. -/
  orderBy : Except Error (List String)
  limit : Option Nat
  offset : Option Nat
  options : List String
  facets : Except Error (List String)
  target : Option (Except Error String)
  fields : Except Error (List String)
  input : Except Error String
  assignments : Except Error (List String)
  raw : Option (Except Error String)

namespace Clauses

/-- A keyword and a list, or nothing for an empty list. -/
def listed (keyword : String) (parts : List String) : String :=
  if parts = [] then "" else keyword ++ joinWith ", " parts

/-- The greatest number of rows, or nothing. -/
def limitText : Option Nat → String
  | some limit => " LIMIT " ++ toString limit
  | none => ""

/-- The clause of conditions behind a keyword, or nothing. -/
def conditions (keyword : String) (group : Option (Except Error String)) : Except Error String :=
  match group with
  | none => .ok ""
  | some text => text.map (keyword ++ ·)

/-! ## Selection -/

/-- The selected columns, each text once where it stands first, or all columns. -/
def selected (texts : List String) : String :=
  if texts = [] then "*" else joinWith ", " texts.eraseDups

/-- The conditions of a selection: the full-text search, the conditions, or both. -/
def selectionFilter (c : Clauses) : Except Error String :=
  match c.search with
  | none => conditions " WHERE " c.filters
  | some argument =>
    (conditions " AND " c.filters).map (" WHERE MATCH(" ++ argument ++ ")" ++ ·)

/-- The range of rows. Rows are left out only where there is a limit. -/
def window (limit offset : Option Nat) : String :=
  match limit, offset with
  | some limit, some offset => " LIMIT " ++ toString offset ++ ", " ++ toString limit
  | limit, _ => limitText limit

/-- The text of the facets, each behind its keyword. -/
def facetText (facets : List String) : String := joinWith "" (facets.map (" FACET " ++ ·))

/-- A selection. -/
def selection (c : Clauses) : Except Error String := do
  let columns ← c.columns
  let indexes ← c.indexes
  let filter ← c.selectionFilter
  let groupBy ← c.groupBy
  let having ← conditions " HAVING " c.having
  let orderBy ← c.orderBy
  let facets ← c.facets
  return "SELECT " ++ (if c.distinct then "DISTINCT " else "") ++ selected columns
    ++ listed " FROM " indexes ++ filter ++ listed " GROUP BY " groupBy ++ having
    ++ listed " ORDER BY " orderBy ++ window c.limit c.offset ++ listed " OPTION " c.options
    ++ facetText facets

/-! ## Changes -/

/-- An insertion or a replacement, whose keyword is `keyword`. -/
def insertion (keyword : String) (c : Clauses) : Except Error String :=
  match c.target with
  | none => .error (.invalidQuery (.noTarget keyword))
  | some target => do
    let fields ← c.fields
    let target ← target
    let input ← c.input
    return keyword ++ " " ++ target ++ " (" ++ joinWith ", " fields ++ ") " ++ input

/-- The conditions, the order and the limit of a change. -/
def changeTail (c : Clauses) : Except Error String := do
  let filter ← conditions " WHERE " c.filters
  let orderBy ← c.orderBy
  return filter ++ listed " ORDER BY " orderBy ++ limitText c.limit

/-- A change of values in place. -/
def update (c : Clauses) : Except Error String :=
  match c.target, c.assignments with
  | none, _ => .error (.invalidQuery (.noTarget "UPDATE"))
  | some _, .ok [] => .error (.invalidQuery .noAssignments)
  | some target, assignments => do
    let target ← target
    let assignments ← assignments
    let tail ← c.changeTail
    return "UPDATE " ++ target ++ " SET " ++ joinWith ", " assignments ++ tail

/-- A deletion. -/
def deletion (c : Clauses) : Except Error String :=
  match c.target with
  | none => .error (.invalidQuery (.noTarget "DELETE"))
  | some target => do
    let target ← target
    let tail ← c.changeTail
    return "DELETE FROM " ++ target ++ tail

/-! ## All kinds -/

/-- A raw statement. -/
def rawText (c : Clauses) : Except Error String :=
  match c.raw with
  | none => .error (.invalidQuery .noText)
  | some text => text

/-- The statement of a kind; without a kind there is none. -/
def statement (c : Clauses) : Option Kind → Except Error String
  | none => .error .unsupportedKind
  | some .select | some .multiSelect => c.selection
  | some .insert => c.insertion "INSERT INTO"
  | some .replace => c.insertion "REPLACE INTO"
  | some .update => c.update
  | some .delete => c.deletion
  | some .raw => c.rawText

end Clauses

end SearchQL
