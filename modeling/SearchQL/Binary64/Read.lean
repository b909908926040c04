import SearchQL.Binary64.Basic
import SearchQL.Decimal

/-!
# Numbers from decimals

The number of a binary format that is nearest to a decimal, a tie going to the even significand.
The quotient that is rounded is exact, so there is a single rounding.

* `BinaryFormat` is what two formats differ in.
* `BinaryFormat.field` rounds a quotient to the magnitude field of the format.
* `Scientific.ofText?` reads the decimal, and `Binary64.ofText?` and `Binary64.ofSingleText?` give
  the nearest number in double and in single precision, the latter without change of value.
-/

namespace SearchQL

/-! ## Formats -/

/-- A binary format of numbers. -/
structure BinaryFormat where
  /-- The bits of the fraction field. -/
  fraction : Nat
  /-- The number of the unit: the least positive number is 2 ^ -unit. -/
  unit : Nat
  /-- The exponent field of the infinities. -/
  top : Nat

namespace BinaryFormat

/-- Double precision. -/
def double : BinaryFormat := ⟨52, 1074, 2047⟩

/-- Single precision. -/
def single : BinaryFormat := ⟨23, 149, 255⟩

/-- The number of magnitude fields that share an exponent field. -/
def binade (format : BinaryFormat) : Nat := Nat.pow 2 format.fraction

/-- The magnitude field of the number nearest to `num / den` units; from the first value beyond
the finite ones on it is that of infinity. The carry of a significand that rounds up to the next
power of two moves into the exponent field by itself. -/
def field (format : BinaryFormat) (num den : Nat) : Nat :=
  let shift := (num / den).log2 - format.fraction
  min (shift * format.binade + Decimal.roundDiv num (den * Nat.pow 2 shift))
    (format.top * format.binade)

/-- The magnitude in units that a magnitude field stands for. -/
def fieldUnits (format : BinaryFormat) (field : Nat) : Nat :=
  let exponent := field / format.binade
  let fraction := field % format.binade
  if exponent = 0 then fraction else (format.binade + fraction) * Nat.pow 2 (exponent - 1)

end BinaryFormat

/-! ## Decimals -/

/-- A decimal with an exponent: `digits` times ten to `exponent`, with a sign. -/
structure Scientific where
  negative : Bool
  digits : Nat
  exponent : Int
deriving DecidableEq, Repr

namespace Scientific

/-- A whole number with an optional sign. -/
def integer? : List Char → Option Int
  | '-' :: cs => (Decimal.natural? cs).map fun n => -(n : Int)
  | cs => (Decimal.natural? (Decimal.withoutPlus cs)).map fun n => (n : Int)

/-- The digits before and behind an optional point; there is at least one digit. -/
def mantissa? (cs : List Char) : Option (Nat × Nat) :=
  let whole := cs.takeWhile Char.isDigit
  let rest := cs.drop whole.length
  let fraction :=
    match rest with
    | '.' :: ds => ds
    | ds => ds
  (Decimal.natural? (whole ++ fraction)).map fun n => (n, fraction.length)

/-- The decimal without its sign. -/
def unsigned? (cs : List Char) : Option (Nat × Int) := do
  let isMark := fun c => c = 'e' ∨ c = 'E'
  let mantissa := cs.takeWhile (fun c => !isMark c)
  let (digits, places) ← mantissa? mantissa
  match cs.drop mantissa.length with
  | [] => some (digits, -(places : Int))
  | _ :: exponent => do
    let e ← integer? exponent
    some (digits, e - places)

/-- The decimal that `text` denotes. -/
def ofText? (text : String) : Option Scientific :=
  match text.toList with
  | '-' :: cs => (unsigned? cs).map fun (n, e) => ⟨true, n, e⟩
  | cs => (unsigned? (Decimal.withoutPlus cs)).map fun (n, e) => ⟨false, n, e⟩

/-- The magnitude field of the number nearest to the decimal. Decimals below ten to the power of
-400 or from ten to the power of 400 on lie beyond every number of the formats in use, and are
settled without writing out their powers of ten. -/
def field (format : BinaryFormat) (d : Scientific) : Nat :=
  let size := d.exponent + (Nat.toDigits 10 d.digits).length
  if d.digits = 0 ∨ size < -400 then 0
  else if 400 < size then format.top * format.binade
  else
    format.field (d.digits * Nat.pow 10 d.exponent.toNat * Nat.pow 2 format.unit)
      (Nat.pow 10 (-d.exponent).toNat)

end Scientific

/-! ## Numbers -/

namespace Binary64

/-- A special number by its name. -/
def special? (text : String) : Option Binary64 :=
  match text with
  | "NaN" => some nan
  | "inf" => some (infinity false)
  | "-inf" => some (infinity true)
  | _ => none

/-- The number nearest to a decimal, in double precision. -/
def ofScientific (d : Scientific) : Binary64 := ofMagnitudeField d.negative (d.field .double)

/-- The number nearest to a decimal in single precision, with its value kept. -/
def ofSingleScientific (d : Scientific) : Binary64 :=
  let field := d.field .single
  if field = BinaryFormat.single.top * BinaryFormat.single.binade then infinity d.negative
  else
    ofMagnitudeField d.negative
      (BinaryFormat.double.field (BinaryFormat.single.fieldUnits field * Nat.pow 2 (1074 - 149)) 1)

/-- The number that `text` denotes, in double precision. -/
def ofText? (text : String) : Option Binary64 :=
  special? text <|> (Scientific.ofText? text).map ofScientific

/-- The number that `text` denotes in single precision, with its value kept. -/
def ofSingleText? (text : String) : Option Binary64 :=
  special? text <|> (Scientific.ofText? text).map ofSingleScientific

end Binary64

end SearchQL
