import SearchQL.Binary64.Basic
import SearchQL.Binary64.Read
import SearchQL.Query.Basic

/-!
# Data behind literals

What a reader of a statement takes from the literals in it. The reader knows NULL, whole numbers,
decimals, quoted texts and lists between brackets, and leaves what stands behind the literal.

* `Datum` is what is read, and `Datum.read` the reader: it goes down into lists and gets the length
  of the text as a bound on its steps.
* `Value.isLiteral` says which values are written as literals all the way down, and `Value.datum`
  what remains of them: a truth value is written as a text and a float with six decimals.
-/

namespace SearchQL

/-- A datum. -/
inductive Datum where
  | null
  | int (n : Int)
  /-- A number with a point. -/
  | decimal (d : Scientific)
  | text (s : String)
  | list (items : List Datum)
deriving Repr

namespace Datum

/-! ## Numbers and texts -/

/-- The sign of a number: minus, plus or none. -/
def readSign : List Char → Bool × List Char
  | [] => (false, [])
  | c :: cs => if c = '-' then (true, cs) else if c = '+' then (false, cs) else (false, c :: cs)

/-- A number without its sign: digits, and more digits if there is a point. -/
def readUnsigned (negative : Bool) (cs : List Char) : Option (Datum × List Char) :=
  let whole := cs.takeWhile Char.isDigit
  if whole = [] then none
  else
    match cs.dropWhile Char.isDigit with
    | '.' :: rest =>
      let places := rest.takeWhile Char.isDigit
      if places = [] then none
      else
        some (.decimal ⟨negative, Nat.ofDigitChars 10 (whole ++ places) 0, -(places.length : Int)⟩,
          rest.dropWhile Char.isDigit)
    | rest =>
      let n := Nat.ofDigitChars 10 whole 0
      some (.int (if negative then -(n : Int) else n), rest)

/-- A number. -/
def readNumber (cs : List Char) : Option (Datum × List Char) :=
  readUnsigned (readSign cs).1 (readSign cs).2

/-- The character that a backslash and `c` stand for. -/
def unescapeChar (c : Char) : Option Char :=
  if c = '\\' ∨ c = '\'' ∨ c = '"' then some c
  else if c = '0' then some '\x00'
  else if c = 'n' then some '\n'
  else if c = 'r' then some '\r'
  else if c = 'Z' then some '\x1a'
  else none

/-- The content of a quoted text behind its opening quote. -/
def readQuoted : List Char → Option (List Char × List Char)
  | [] => none
  | c :: cs =>
    if c = '\'' then some ([], cs)
    else if c = '\\' then
      match cs with
      | [] => none
      | d :: cs => do
        let c ← unescapeChar d
        let (content, rest) ← readQuoted cs
        some (c :: content, rest)
    else do
      let (content, rest) ← readQuoted cs
      some (c :: content, rest)

/-- NULL behind its first letter. -/
def readNull : List Char → Option (Datum × List Char)
  | 'U' :: 'L' :: 'L' :: rest => some (.null, rest)
  | _ => none

/-! ## All data -/

mutual

/-- A datum, told by its first character. -/
def readWithin : Nat → List Char → Option (Datum × List Char)
  | bound + 1, c :: cs =>
    if c = '\'' then do
      let (content, rest) ← readQuoted cs
      some (.text (String.ofList content), rest)
    else if c = 'N' then readNull cs
    else if c = '(' then do
      let (items, rest) ← readItemsWithin bound cs
      some (.list items, rest)
    else readNumber (c :: cs)
  | _, _ => none

/-- The items of a list behind its opening bracket, up to the closing one. -/
def readItemsWithin : Nat → List Char → Option (List Datum × List Char)
  | bound + 1, c :: cs =>
    if c = ')' then some ([], cs)
    else do
      let (item, rest) ← readWithin bound (c :: cs)
      let (items, rest) ← readMoreWithin bound rest
      some (item :: items, rest)
  | _, _ => none

/-- The further items of a list, up to its closing bracket. -/
def readMoreWithin : Nat → List Char → Option (List Datum × List Char)
  | bound + 1, c :: cs =>
    if c = ')' then some ([], cs)
    else if c = ',' then do
      let (item, rest) ← readWithin bound (cs.dropWhile (· = ' '))
      let (items, rest) ← readMoreWithin bound rest
      some (item :: items, rest)
    else none
  | _, _ => none

end

/-- The datum at the start of a text, and what stands behind it. -/
def read (cs : List Char) : Option (Datum × List Char) := readWithin cs.length cs

end Datum

/-! ## Values as data -/

/-- The decimal with six places that a float is written as. -/
def Binary64.decimal (x : Binary64) : Scientific := ⟨x.isNegative, x.millionths, -6⟩

mutual

/-- Whether a value is made of NULL, truth values, numbers, texts and lists of such values. -/
def Value.isLiteral : Value → Bool
  | .float x => x.isFinite
  | .list items => Value.allLiteral items
  | .query _ => false
  | .template _ => false
  | _ => true

/-- Whether all values are literals. -/
def Value.allLiteral : List Value → Bool
  | [] => true
  | value :: rest => value.isLiteral && Value.allLiteral rest

end

mutual

/-- The datum of a literal value. Queries and templates have none; NULL stands in for it. -/
def Value.datum : Value → Datum
  | .bool b => .text (if b then "1" else "0")
  | .int n => .int n
  | .float x => .decimal x.decimal
  | .text s => .text s
  | .list items => .list (Value.data items)
  | .null => .null
  | .query _ => .null
  | .template _ => .null

/-- The data of values. -/
def Value.data : List Value → List Datum
  | [] => []
  | value :: rest => value.datum :: Value.data rest

end

end SearchQL
