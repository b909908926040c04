import SearchQL.Binary64.Shortest
import SearchQL.Dict
import SearchQL.Error.Basic
import SearchQL.Text.Join
import SearchQL.Text.Quoted

/-!
# Data values

The values that a server's answer is made of: the data model of JSON, with whole numbers kept
apart from floating point numbers.

* `Json` is the type, and `Row` a row of an answer: an object, its fields in ascending order.
* `Json.number` makes a number of a float; what is not finite has no number and becomes null.
* `Json.compact` is the text of a value without blanks: fields in their order, numbers in their
  shortest form, and in texts only what the format requires to be escaped.
* `Json.toInt` and `Json.toText` read a value at a type, and `Json.described` is what a value of
  another type is called in the error.
-/

namespace SearchQL

/-- A value of a server's answer. -/
inductive Json where
  | null
  | bool (b : Bool)
  | int (n : Int)
  | float (x : Binary64)
  | text (s : String)
  | list (items : List Json)
  /-- The fields are in ascending order of their names. -/
  | object (fields : List (String × Json))

/-- A row of an answer: the values of its columns by name, in ascending order of the names. -/
abbrev Row := List (String × Json)

namespace Json

/-- A float as a value; infinities and what is not a number become null. -/
def number (x : Binary64) : Json := if x.isFinite then .float x else .null

/-- The text of a value that is a text. -/
def text? : Json → Option String
  | .text s => some s
  | _ => none

/-! ## Quoted texts -/

/-- The number of a control character in four hexadecimal digits. -/
def controlNumber (c : Char) : List Char :=
  '\\' :: 'u' :: '0' :: '0' :: Nat.digitChar (c.toNat / 16) :: [Nat.digitChar (c.toNat % 16)]

/-- The characters that stand for `c` between the quotes. Quotes, backslashes and controls are
escaped, five of the controls by a letter. -/
def escapeChar (c : Char) : List Char :=
  if c = '"' then ['\\', '"']
  else if c = '\\' then ['\\', '\\']
  else if c = '\x08' then ['\\', 'b']
  else if c = '\x0c' then ['\\', 'f']
  else if c = '\n' then ['\\', 'n']
  else if c = '\r' then ['\\', 'r']
  else if c = '\t' then ['\\', 't']
  else if c.toNat < 0x20 then controlNumber c
  else [c]

/-- A text between quotes. -/
def quoted (text : String) : String :=
  String.ofList ('"' :: (text.toList.flatMap escapeChar ++ ['"']))

/-! ## Compact texts -/

mutual

/-- The compact text of a value. -/
def compact : Json → String
  | .null => "null"
  | .bool b => if b then "true" else "false"
  | .int n => toString n
  | .float x => x.shortestText
  | .text s => quoted s
  | .list items => "[" ++ joinWith "," (compactItems items) ++ "]"
  | .object fields => "\x7b" ++ joinWith "," (compactFields fields) ++ "\x7d"

/-- The compact texts of the members of a list. -/
def compactItems : List Json → List String
  | [] => []
  | item :: items => compact item :: compactItems items

/-- The compact texts of the fields of an object, each with its name. -/
def compactFields : List (String × Json) → List String
  | [] => []
  | (name, value) :: fields => (quoted name ++ ":" ++ compact value) :: compactFields fields

end

end Json

/-! ## Reading at a type -/

/-- A type of whole numbers: of a number of bits, with or without a sign. -/
structure IntType where
  signed : Bool
  bits : Nat
deriving DecidableEq, Repr

namespace IntType

def name (t : IntType) : String := (if t.signed then "i" else "u") ++ toString t.bits

/-- The least number of the type. -/
def low (t : IntType) : Int := if t.signed then -(Nat.pow 2 (t.bits - 1) : Nat) else 0

/-- The first number that is too large for the type. -/
def high (t : IntType) : Nat := Nat.pow 2 (if t.signed then t.bits - 1 else t.bits)

end IntType

namespace Json

/-- What a value is called where one of another type is expected. -/
def described : Json → String
  | .null => "null"
  | .bool b => "boolean `" ++ toString b ++ "`"
  | .int n => "integer `" ++ toString n ++ "`"
  | .float x => "floating point `" ++ x.shortestText ++ "`"
  | .text s => "string " ++ Quoted.encode s
  | .list _ => "sequence"
  | .object _ => "map"

/-- The whole number of a type that a value is. -/
def toInt (t : IntType) : Json → Except Error Int
  | .int n =>
    if t.low ≤ n ∧ n < t.high then .ok n else .error (.serialization (.outOfRange n t.name))
  | value => .error (.serialization (.otherType value.described t.name))

/-- The text that a value is. -/
def toText : Json → Except Error String
  | .text s => .ok s
  | value => .error (.serialization (.otherType value.described "a string"))

end Json

end SearchQL
