/-!
# Decimal numbers

Reading of unsigned numbers as they stand in settings and in the counts that the server reports,
and the rounding of quotients to the nearest natural number, a tie going to the even one.

* `Decimal.natural?` reads one or more digits, with leading zeros allowed.
* `Decimal.unsigned? bound` also takes a plus sign in front, and refuses numbers from `bound` on.
* `Decimal.roundDiv` is the rounded quotient; `Decimal.roundDiv_cases` names the two candidates and
  says when each is taken.
-/

namespace SearchQL.Decimal

/-! ## Natural numbers -/

/-- The number that the digits `cs` denote; no digit or another character is refused. -/
def natural? (cs : List Char) : Option Nat :=
  if cs ≠ [] ∧ cs.all Char.isDigit then some (Nat.ofDigitChars 10 cs 0) else none

/-- The digits behind an optional plus sign. -/
def withoutPlus : List Char → List Char
  | '+' :: cs => cs
  | cs => cs

/-- The number below `bound` that `cs` denotes, with or without a plus sign. -/
def unsigned? (bound : Nat) (cs : List Char) : Option Nat :=
  (natural? (withoutPlus cs)).filter (· < bound)

/-- The digits of a number read back as the number. -/
theorem natural?_toDigits (n : Nat) : natural? (Nat.toDigits 10 n) = some n := by
  have hall : (Nat.toDigits 10 n).all Char.isDigit = true := by
    rw [List.all_eq_true]
    intro c hc
    exact Nat.isDigit_of_mem_toDigits (by decide) (by decide) hc
  simp [natural?, Nat.toDigits_ne_nil, hall, Nat.ofDigitChars_ten_toDigits]

/-! ## Rounded quotients -/

/-- The natural number nearest to `num / den`, the even one of two equally near. -/
def roundDiv (num den : Nat) : Nat :=
  if 2 * (num % den) < den then num / den
  else if den < 2 * (num % den) then num / den + 1
  else num / den + num / den % 2

/-- The quotient is kept if the remainder is at most half, and raised if it is at least half. -/
theorem roundDiv_cases (num den : Nat) :
    (roundDiv num den = num / den ∧ 2 * (num % den) ≤ den) ∨
      (roundDiv num den = num / den + 1 ∧ den ≤ 2 * (num % den)) := by
  unfold roundDiv
  split
  · exact .inl ⟨rfl, by omega⟩
  · split
    · exact .inr ⟨rfl, by omega⟩
    · rcases Nat.mod_two_eq_zero_or_one (num / den) with h | h
      · exact .inl ⟨by omega, by omega⟩
      · exact .inr ⟨by omega, by omega⟩

end SearchQL.Decimal
