import SearchQL.Text.Join

/-!
# Identifiers

Names of columns and indexes stand between back-ticks, with a back-tick inside a name written
twice.

* `Identifier.segment` quotes a whole name, dots included.
* `Identifier.dotted` cuts a name at its dots and quotes each piece, but leaves a piece that is a
  lone star as it is.
* `Identifier.aliasing` is the text that gives a column another name.
-/

namespace SearchQL.Identifier

/-- The mark around a quoted name. -/
def tick : Char := '\x60'

/-- A back-tick is written twice and every other character once. -/
def escapeChar (c : Char) : List Char := if c = tick then [tick, tick] else [c]

/-- The characters between the back-ticks. -/
def escape (cs : List Char) : List Char := cs.flatMap escapeChar

/-- One name between back-ticks. -/
def segmentChars (cs : List Char) : List Char := tick :: (escape cs ++ [tick])

/-- The name `name`, quoted as a whole. -/
def segment (name : String) : String := String.ofList (segmentChars name.toList)

/-- A piece of a dotted name: a lone star means every column and stays bare. -/
def pieceChars (cs : List Char) : List Char := if cs = ['*'] then cs else segmentChars cs

/-- The name `name` as a path of pieces between dots, each quoted by itself. -/
def dotted (name : String) : String :=
  joinWith "." ((pieces '.' name.toList).map fun piece => String.ofList (pieceChars piece))

/-- The text that names a rendered column `label`. -/
def aliasing (label : String) : String := " AS " ++ segment label

/-- A dotted name with an optional second name. -/
def encode (name : String) (label : Option String) : String :=
  match label with
  | none => dotted name
  | some label => dotted name ++ aliasing label

end SearchQL.Identifier
