/-!
# Operators of conditions

An operator is its text. Twelve of them are named; a caller may use others, which are written as
they are.

* `Operator.ofSymbol` reads the usual spellings of the named ones.
* `Operator.againstNull` is the operator that compares with NULL.
-/

namespace SearchQL

/-- An operator between a column and a value, given by its text. -/
structure Operator where
  symbol : String
deriving DecidableEq, Repr

namespace Operator

/-! ## The named operators -/

/-- Equal. -/
def eq : Operator := ⟨"="⟩

/-- Different. -/
def ne : Operator := ⟨"!="⟩

/-- Less. -/
def lt : Operator := ⟨"<"⟩

/-- Less or equal. -/
def le : Operator := ⟨"<="⟩

/-- Greater. -/
def gt : Operator := ⟨">"⟩

/-- Greater or equal. -/
def ge : Operator := ⟨">="⟩

/-- Member of a list. -/
def inList : Operator := ⟨"IN"⟩

/-- Not a member of a list. -/
def notInList : Operator := ⟨"NOT IN"⟩

/-- In a range, given by its two bounds. -/
def between : Operator := ⟨"BETWEEN"⟩

/-- Like a pattern. -/
def like : Operator := ⟨"LIKE"⟩

/-- Is, for NULL. -/
def is : Operator := ⟨"IS"⟩

/-- Is not, for NULL. -/
def isNot : Operator := ⟨"IS NOT"⟩

/-- The named operators. -/
def named : List Operator :=
  [eq, ne, lt, le, gt, ge, inList, notInList, between, like, is, isNot]

/-! ## Spellings -/

/-- The operator for a spelling. The words may be in lower case, and `<>` is a second spelling of
`!=`; every other text is an operator of its own. -/
def ofSymbol (text : String) : Operator :=
  match text with
  | "<>" => ne
  | "in" => inList
  | "not in" => notInList
  | "between" => between
  | "like" => like
  | "is" => is
  | "is not" => isNot
  | _ => ⟨text⟩

/-- The operator that stands before NULL: equality becomes IS and difference IS NOT. -/
def againstNull (op : Operator) : Operator :=
  if op = eq then is else if op = ne then isNot else op

end Operator

end SearchQL
