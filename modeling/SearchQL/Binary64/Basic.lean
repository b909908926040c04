import SearchQL.Decimal

/-!
# Double precision numbers

A number of the 64-bit binary format, kept as its word and read in exact arithmetic: the finite
numbers are the multiples of 2 ^ -1074 with a significand below 2 ^ 53.

* `Binary64.units` is the magnitude of a finite number, counted in 2 ^ -1074.
* `Binary64.same` is the comparison of the format: zeros of either sign are equal, and what is not
  a number differs from itself.
* `Binary64.fixed` writes a finite number with six digits behind the point, never with an exponent.
  `Binary64.millionths` is its magnitude, rounded to the nearest millionth, a tie to the even one;
  the sign of the number is kept even if the digits are all zero.
-/

namespace SearchQL

/-- A double precision number, given by its 64-bit word. -/
structure Binary64 where
  /-- The word: sign, eleven bits of exponent, fifty-two bits of fraction. -/
  bits : UInt64
deriving DecidableEq, Repr

namespace Binary64

/-! ## Fields -/

/-- Whether the sign bit is set. -/
def isNegative (x : Binary64) : Bool := Nat.pow 2 63 ≤ x.bits.toNat

/-- The eleven bits of the exponent. -/
def exponentField (x : Binary64) : Nat := x.bits.toNat / Nat.pow 2 52 % Nat.pow 2 11

/-- The fifty-two bits of the fraction. -/
def fractionField (x : Binary64) : Nat := x.bits.toNat % Nat.pow 2 52

/-- Whether `x` is a number and not an infinity. -/
def isFinite (x : Binary64) : Bool := x.exponentField != 2047

/-- Whether `x` is not a number. -/
def isNaN (x : Binary64) : Bool := x.exponentField == 2047 && x.fractionField != 0

/-! ## Values -/

/-- The significand of a finite number: below 2 ^ 52 only for the smallest exponent. -/
def significand (x : Binary64) : Nat :=
  if x.exponentField = 0 then x.fractionField else Nat.pow 2 52 + x.fractionField

/-- The power of two that the significand is multiplied by, above 2 ^ -1074. -/
def shift (x : Binary64) : Nat := x.exponentField - 1

/-- The magnitude of a finite number, counted in 2 ^ -1074. -/
def units (x : Binary64) : Nat := x.significand * Nat.pow 2 x.shift

/-- The word of a magnitude field, with or without the sign. -/
def ofMagnitudeField (negative : Bool) (field : Nat) : Binary64 :=
  ⟨UInt64.ofNat ((if negative then Nat.pow 2 63 else 0) + field)⟩

/-- The magnitude field of the infinities. -/
def infinityField : Nat := 2047 * Nat.pow 2 52

/-- The infinity of either sign. -/
def infinity (negative : Bool) : Binary64 := ofMagnitudeField negative infinityField

/-- A word that is not a number. -/
def nan : Binary64 := ofMagnitudeField false (infinityField + Nat.pow 2 51)

/-! ## Comparison -/

/-- Whether two numbers compare as equal. -/
def same (x y : Binary64) : Bool :=
  !x.isNaN && !y.isNaN && (x.bits == y.bits || (x.units == 0 && y.units == 0))

/-! ## Special numbers in words -/

/-- The name of a number that is not finite. -/
def specialName (x : Binary64) : String :=
  if x.isNaN then "NaN" else if x.isNegative then "-inf" else "inf"

/-! ## Fixed notation -/

/-- The magnitude of a finite number in millionths, rounded to nearest. -/
def millionths (x : Binary64) : Nat := Decimal.roundDiv (x.units * 1000000) (Nat.pow 2 1074)

/-- The last six digits of `n`, with zeros in front. -/
def sixDigits (n : Nat) : List Char :=
  [100000, 10000, 1000, 100, 10, 1].map fun place => Nat.digitChar (n / place % 10)

/-- The digits of `n` millionths, with a point before the last six. -/
def pointed (n : Nat) : List Char := Nat.toDigits 10 (n / 1000000) ++ '.' :: sixDigits n

/-- The text of a finite number. -/
def fixed (x : Binary64) : String :=
  String.ofList ((if x.isNegative then ['-'] else []) ++ pointed x.millionths)

end Binary64

end SearchQL
