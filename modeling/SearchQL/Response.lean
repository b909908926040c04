import SearchQL.Error.Basic
import SearchQL.Json

/-!
# Answers

What the server answers to a statement, and what can be read from a row of an answer.

* `Response.toRows` and `Response.toSets` give the rows and the result sets of an answer, and fail
  on an answer that has none.
* `Row.int`, `Row.text` and `Row.text?` read a field of a row at a type.
-/

namespace SearchQL

/-! ## Answers -/

/-- The answer to a statement. -/
inductive Response where
  | rows (rows : List Row)
  /-- A number instead of rows. -/
  | report (report : Report)
  | sets (sets : List (List Row))

namespace Response

/-- The rows of an answer; of several result sets the first is taken. -/
def toRows : Response → Except Error (List Row)
  | .rows given => .ok given
  | .sets given => .ok (given.head?.getD [])
  | .report given => .error (.invalidQuery (.noRows given))

/-- The result sets of an answer; rows are one result set. -/
def toSets : Response → Except Error (List (List Row))
  | .sets given => .ok given
  | .rows given => .ok [given]
  | .report given => .error (.invalidQuery (.noResultSets given))

/-- The number that the inserted document was given. -/
def insertId? : Response → Option Nat
  | .report (.insertId id) => some id
  | _ => none

/-- The number of rows that were changed. -/
def affected? : Response → Option Nat
  | .report (.affected count) => some count
  | _ => none

end Response

/-! ## Fields of rows -/

namespace Row

/-- The value of the field `name`. -/
def field (name : String) (row : Row) : Except Error Json :=
  match Dict.get? name row with
  | none => .error (.serialization (.missing name))
  | some value => .ok value

/-- The field `name` as a whole number of a type. -/
def int (t : IntType) (name : String) (row : Row) : Except Error Int := do
  let value ← row.field name
  value.toInt t

/-- The field `name` as a text. -/
def text (name : String) (row : Row) : Except Error String := do
  let value ← row.field name
  value.toText

/-- The field `name` as a text that may be missing or null. -/
def text? (name : String) (row : Row) : Except Error (Option String) :=
  match Dict.get? name row with
  | none | some .null => .ok none
  | some value => value.toText.map some

end Row

end SearchQL
