import SearchQL.Binary64.Basic
import SearchQL.Decimal

/-!
# Shortest notation

The decimal with the fewest digits that reads back as the number, and of those the nearest to it.
All comparisons are between natural numbers, in quarters of the unit of the format.

* `Binary64.reads x n e` says that `n` times ten to `e` rounds to `x`.
* `Binary64.shortest` tries one digit, two digits and so on, and takes the first decimal that
  reads back.
* `Binary64.shortestText` writes it out, positionally for moderate exponents.
-/

namespace SearchQL.Binary64

/-! ## Decimals that read back -/

/-- A decimal, `digits` times ten to `exponent`. -/
structure Candidate where
  digits : Nat
  exponent : Int
deriving DecidableEq, Repr

/-- The decimal as a quotient, in quarters of 2 ^ -1074. -/
def Candidate.num (d : Candidate) : Nat := d.digits * Nat.pow 10 d.exponent.toNat * Nat.pow 2 1076

/-- The denominator of the decimal. -/
def Candidate.den (d : Candidate) : Nat := Nat.pow 10 (-d.exponent).toNat

/-- The lower end of the decimals that round to `x`, in quarters of a unit. Below a power of two
the neighbour is only half as far away. -/
def lowerEnd (x : Binary64) : Nat :=
  4 * x.units - (if x.significand = Nat.pow 2 52 ∧ 0 < x.shift then 1 else 2) * Nat.pow 2 x.shift

/-- The upper end of the decimals that round to `x`, in quarters of a unit. -/
def upperEnd (x : Binary64) : Nat := 4 * x.units + 2 * Nat.pow 2 x.shift

/-- Whether the decimal rounds to the magnitude of `x`; the ends round to it if its significand is
even. -/
def reads (x : Binary64) (d : Candidate) : Bool :=
  if x.significand % 2 = 0 then x.lowerEnd * d.den ≤ d.num && d.num ≤ x.upperEnd * d.den
  else x.lowerEnd * d.den < d.num && d.num < x.upperEnd * d.den

/-! ## The shortest of them -/

/-- The exponent of the first decimal digit of `x`, which is not zero. -/
def leading (x : Binary64) : Int :=
  ((Nat.toDigits 10 (x.units * Nat.pow 10 400 / Nat.pow 2 1074)).length : Int) - 401

/-- The neighbours of `x` among the multiples of ten to `exponent`, nearest first; of two equally
near the even one comes first. -/
def neighbours (x : Binary64) (exponent : Int) : List Candidate :=
  let num := x.units * Nat.pow 10 (-exponent).toNat
  let den := Nat.pow 2 1074 * Nat.pow 10 exponent.toNat
  let below := num / den
  let near := Decimal.roundDiv num den
  let far := if near = below then below + 1 else below
  [⟨near, exponent⟩, ⟨far, exponent⟩]

/-- The first decimal with the fewest digits that reads back; seventeen digits always do. -/
def shortest (x : Binary64) : Candidate :=
  ((List.range 17).findSome? fun (k : Nat) =>
    (x.neighbours (x.leading - k)).find? x.reads).getD ⟨x.units, 0⟩

/-! ## Notation -/

/-- The digits of `n` without the zeros at their end, and the number of those zeros. -/
def stripZeros (n : Nat) : List Char × Nat :=
  let digits := Nat.toDigits 10 n
  let zeros := (digits.reverse.takeWhile (· = '0')).length
  (digits.take (digits.length - zeros), zeros)

/-- The exponents of the first digit that are written positionally. -/
def positional (x : Int) : Bool := -5 ≤ x && x ≤ 15

/-- The digits of a positive number with `x` the exponent of the first one: with a point and at
least one digit on both sides of it, or else with an exponent that always has its sign. -/
def layOut (digits : List Char) (x : Int) : List Char :=
  if positional x then
    if x < 0 then '0' :: '.' :: (List.replicate (-x - 1).toNat '0' ++ digits)
    else
      let whole := digits.take (x.toNat + 1)
      let padded := whole ++ List.replicate (x.toNat + 1 - whole.length) '0'
      let fraction := digits.drop (x.toNat + 1)
      padded ++ '.' :: (if fraction = [] then ['0'] else fraction)
  else
    let sign := if x < 0 then '-' else '+'
    let exponent := 'e' :: sign :: Nat.toDigits 10 x.natAbs
    match digits with
    | first :: next :: rest => first :: '.' :: next :: rest ++ exponent
    | _ => digits ++ exponent

/-- The text of a finite number. -/
def shortestText (x : Binary64) : String :=
  let sign := if x.isNegative then ['-'] else []
  if x.units = 0 then String.ofList (sign ++ ['0', '.', '0'])
  else
    let d := x.shortest
    let (digits, zeros) := stripZeros d.digits
    String.ofList (sign ++ layOut digits (d.exponent + zeros + digits.length - 1))

end SearchQL.Binary64
