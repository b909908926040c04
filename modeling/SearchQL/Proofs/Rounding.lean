import Mathlib.Algebra.Order.Field.Power
import Mathlib.Tactic.Linarith
import Mathlib.Tactic.Positivity
import SearchQL.Proofs.Reading
import SearchQL.Proofs.Renders

/-!
# Floats in fixed notation

A finite float is written with six digits behind the point, and these digits are the nearest to its
exact value, a tie going to the even last digit. The exact value is a rational number, the
significand times a power of two; the sign is that of the float, also where all digits are zero.

* `Decimal.NearestEven` is the nearest natural number, and `Decimal.nearestEven_roundDiv` says that
  a rounded quotient is the one of the quotient.
* `Binary64.toRat` is the exact value, and `Binary64.magnitude_eq` counts it in the least unit.
* `InFixed` is the notation.
* `Value.floats_nearest` is the result.
-/

namespace SearchQL

/-! ## The nearest number -/

namespace Decimal

/-- The natural number nearest to `r`, the even one of two equally near. -/
structure NearestEven (r : ℚ) (n : ℕ) : Prop where
  nearest : ∀ m : ℤ, |r - n| ≤ |r - m|
  even : ∀ m : ℤ, m ≠ n → |r - m| = |r - n| → Even n

/-- A number at most one half away is nearest, if it is even where it is exactly one half away. -/
theorem nearestEven_of_half {r : ℚ} {n : ℕ} (hhalf : |r - n| ≤ 1 / 2)
    (heven : |r - n| = 1 / 2 → Even n) : NearestEven r n := by
  -- two whole numbers are at least one apart
  have hapart {m : ℤ} (hne : m ≠ n) : 1 ≤ |r - m| + |r - n| := by
    have hone : (1 : ℚ) ≤ |(m : ℚ) - n| := by
      exact_mod_cast Int.one_le_abs (sub_ne_zero.2 hne)
    calc (1 : ℚ) ≤ |(m : ℚ) - n| := hone
      _ ≤ |(m : ℚ) - r| + |r - n| := abs_sub_le _ _ _
      _ = |r - m| + |r - n| := by rw [abs_sub_comm (m : ℚ) r]
  refine ⟨fun m => ?_, fun m hne heq => heven ?_⟩
  · by_cases hm : m = n
    · rw [hm, Int.cast_natCast]
    · linarith [hapart hm]
  · linarith [hapart hne]

/-- A number with a fraction is nearest to the number below it, if the fraction is one half at most,
and to the number above it, if the fraction is one half at least. -/
theorem nearestEven_of_fraction {r fraction : ℚ} {k n : ℕ} (hr : r = k + fraction)
    (hnonneg : 0 ≤ fraction) (hlt : fraction < 1)
    (hn : n = k ∧ fraction ≤ 1 / 2 ∨ n = k + 1 ∧ 1 / 2 ≤ fraction)
    (htie : fraction = 1 / 2 → Even n) : NearestEven r n := by
  rcases hn with ⟨rfl, hhalf⟩ | ⟨rfl, hhalf⟩
  · have hgap : |r - n| = fraction := by
      rw [hr, add_sub_cancel_left, abs_of_nonneg hnonneg]
    rw [← hgap] at hhalf htie
    exact nearestEven_of_half hhalf htie
  · have hgap : |r - (k + 1 : ℕ)| = 1 - fraction := by
      rw [hr, Nat.cast_add_one, add_sub_add_left_eq_sub, abs_sub_comm,
        abs_of_nonneg (sub_nonneg.2 hlt.le)]
    refine nearestEven_of_half ?_ fun h => htie ?_
    · linarith
    · linarith

theorem even_roundDiv {num den : ℕ} (h : 2 * (num % den) = den) : Even (roundDiv num den) := by
  rw [roundDiv, if_neg (by omega), if_neg (by omega), Nat.even_iff]
  omega

/-- A rounded quotient is the natural number nearest to the quotient. -/
theorem nearestEven_roundDiv (num : ℕ) {den : ℕ} (hden : 0 < den) :
    NearestEven ((num : ℚ) / den) (roundDiv num den) := by
  have hpos : (0 : ℚ) < den := Nat.cast_pos.2 hden
  have hquotient : (num : ℚ) / den = (num / den : ℕ) + ((num % den : ℕ) : ℚ) / den := by
    have hnum : (num : ℚ) = (num / den : ℕ) * den + (num % den : ℕ) := by
      exact_mod_cast (Nat.div_add_mod' num den).symm
    rw [hnum, add_div, mul_div_cancel_right₀ _ hpos.ne']
  have hlt : ((num % den : ℕ) : ℚ) / den < 1 :=
    (div_lt_one hpos).2 (Nat.cast_lt.2 (Nat.mod_lt num hden))
  refine nearestEven_of_fraction hquotient (by positivity) hlt ?_ fun h => even_roundDiv ?_
  · -- twice the remainder is compared with the denominator
    rw [div_le_div_iff₀ hpos two_pos, div_le_div_iff₀ two_pos hpos, one_mul, mul_comm]
    exact_mod_cast roundDiv_cases num den
  · rw [div_eq_div_iff hpos.ne' two_ne_zero, one_mul, mul_comm] at h
    exact_mod_cast h

end Decimal

/-! ## The exact value -/

namespace Binary64

/-- The magnitude of a finite number. The fraction stands behind a one, but for the numbers of the
smallest exponent, which have a zero in its place. -/
def magnitude (x : Binary64) : ℚ :=
  if x.exponentField = 0 then x.fractionField / 2 ^ 52 * 2 ^ (-1022 : ℤ)
  else (1 + x.fractionField / 2 ^ 52) * 2 ^ ((x.exponentField : ℤ) - 1023)

/-- The exact value of a finite number. -/
def toRat (x : Binary64) : ℚ := if x.isNegative then -x.magnitude else x.magnitude

theorem magnitude_nonneg (x : Binary64) : 0 ≤ x.magnitude := by
  unfold magnitude
  split <;> positivity

theorem abs_toRat (x : Binary64) : |x.toRat| = x.magnitude := by
  unfold toRat
  split
  · rw [abs_neg, abs_of_nonneg x.magnitude_nonneg]
  · rw [abs_of_nonneg x.magnitude_nonneg]

/-- The magnitude in units of the least positive number. -/
theorem magnitude_eq (x : Binary64) : x.magnitude = x.units / 2 ^ 1074 := by
  have hunit : (2 : ℚ) ^ 1074 = 2 ^ 52 * 2 ^ 1022 := by rw [← pow_add]
  by_cases hzero : x.exponentField = 0
  · have hunits : x.units = x.fractionField := by
      rw [units, significand, if_pos hzero, shift, hzero]
      exact mul_one _
    rw [magnitude, if_pos hzero, hunits, hunit, zpow_neg, zpow_ofNat, ← div_eq_mul_inv, div_div]
  · obtain ⟨k, hk⟩ := Nat.exists_eq_succ_of_ne_zero hzero
    have hexponent : ((k + 1 : ℕ) : ℤ) - 1023 = k - 1022 := by omega
    have hunits : (x.units : ℚ) = 2 ^ 52 * ((1 + x.fractionField / 2 ^ 52) * 2 ^ k) := by
      have hnat : x.units = (2 ^ 52 + x.fractionField) * 2 ^ k := by
        rw [units, significand, if_neg hzero, shift, hk]
        rfl
      rw [hnat, Nat.cast_mul, Nat.cast_add, Nat.cast_pow, Nat.cast_pow, Nat.cast_ofNat, ← mul_assoc,
        mul_add, mul_one, mul_div_cancel₀ _ (by positivity)]
    calc x.magnitude
        = (1 + x.fractionField / 2 ^ 52) * (2 ^ k / 2 ^ 1022) := by
          rw [magnitude, if_neg hzero, hk, hexponent, zpow_sub₀ two_ne_zero, zpow_natCast,
            zpow_ofNat]
      _ = 2 ^ 52 * ((1 + x.fractionField / 2 ^ 52) * 2 ^ k) / (2 ^ 52 * 2 ^ 1022) := by
          rw [mul_div_mul_left _ _ (by positivity), mul_div_assoc]
      _ = x.units / 2 ^ 1074 := by rw [hunits, hunit]

/-- The nearest millionths of a number of units. -/
theorem nearestEven_units (units k : ℕ) :
    Decimal.NearestEven ((units : ℚ) / 2 ^ k * 10 ^ 6)
      (Decimal.roundDiv (units * 1000000) (Nat.pow 2 k)) := by
  have hunits : (units : ℚ) * 10 ^ 6 = (units * 1000000 : ℕ) := by
    rw [Nat.cast_mul]
    norm_num
  have hpow : (2 : ℚ) ^ k = (Nat.pow 2 k : ℕ) := by rw [Nat.pow_eq, Nat.cast_pow, Nat.cast_ofNat]
  rw [div_mul_eq_mul_div, hunits, hpow]
  exact Decimal.nearestEven_roundDiv _ (Nat.two_pow_pos k)

/-- The millionths of a number are those nearest to its exact value. -/
theorem nearestEven_millionths (x : Binary64) :
    Decimal.NearestEven (|x.toRat| * 10 ^ 6) x.millionths := by
  -- the number of the unit is held apart, so that its power of two is not computed
  obtain ⟨unit, hunit⟩ : ∃ unit, unit = 1074 := ⟨_, rfl⟩
  rw [abs_toRat, magnitude_eq, millionths, ← hunit]
  exact nearestEven_units x.units unit

end Binary64

/-! ## The notation -/

/-- A text in fixed notation: a minus sign or none, the digits before the point, which begin with a
zero only if there is no other, the point, and six digits. -/
structure InFixed (text : String) (negative : Bool) (whole places : List Char) : Prop where
  layout : text.toList = (if negative then ['-'] else []) ++ whole ++ '.' :: places
  wholeDigits : ∀ c ∈ whole, c.isDigit = true
  whole_ne_nil : whole ≠ []
  noZeros : whole.head? = some '0' → whole = ['0']
  placesDigits : ∀ c ∈ places, c.isDigit = true
  length_places : places.length = 6

/-- Only zero has digits that begin with a zero. -/
theorem eq_zero_of_head_toDigits {n : Nat} (h : (Nat.toDigits 10 n).head? = some '0') : n = 0 := by
  induction n using Nat.strongRecOn with
  | ind n ih =>
    by_cases hn : n < 10
    · have hdigits : ∀ n < 10, (Nat.toDigits 10 n).head? = some '0' → n = 0 := by decide
      exact hdigits n hn h
    · have hsplit := Nat.toDigits_of_base_le (b := 10) (by decide) (Nat.not_lt.1 hn)
      have hne : Nat.toDigits 10 (n / 10) ≠ [] := Nat.toDigits_ne_nil
      rw [hsplit, List.head?_append_of_ne_nil _ hne] at h
      have hzero : n / 10 = 0 := ih (n / 10) (by omega) h
      omega

theorem inFixed_fixed (x : Binary64) : InFixed x.fixed x.isNegative
    (Nat.toDigits 10 (x.millionths / 1000000)) (Binary64.sixDigits x.millionths) where
  layout := by rw [toList_fixed, Binary64.pointed, List.append_assoc]
  wholeDigits _ := isDigit_of_mem_toDigits
  whole_ne_nil := Nat.toDigits_ne_nil
  noZeros h := by rw [eq_zero_of_head_toDigits h]; rfl
  placesDigits _ := isDigit_of_mem_sixDigits
  length_places := rfl

/-- The digits before the point and the six behind it denote the millionths. -/
theorem value_sixDigits (n : Nat) :
    (Nat.ofDigitChars 10 (Nat.toDigits 10 (n / 1000000)) 0 : ℚ) +
      Nat.ofDigitChars 10 (Binary64.sixDigits n) 0 / 10 ^ 6 = n / 10 ^ 6 := by
  have hmillion : ((1000000 : ℕ) : ℚ) = 10 ^ 6 := by norm_num
  have hsplit : (n : ℚ) = (n / 1000000 : ℕ) * 10 ^ 6 + (n % 1000000 : ℕ) := by
    rw [← hmillion]
    exact_mod_cast (Nat.div_add_mod' n 1000000).symm
  rw [Nat.ofDigitChars_ten_toDigits, Datum.ofDigitChars_sixDigits, Nat.zero_mul, Nat.zero_add,
    hsplit, add_div, mul_div_cancel_right₀ _ (by positivity)]

/-! ## The result -/

namespace Value

/-- **Floats are written in fixed notation, rounded to the nearest.** The text of a finite float
has a minus sign exactly if the sign bit is set, digits without needless zeros in front, a point and
six digits, and nothing else. The digits denote the millionths nearest to the magnitude of the exact
value, a tie going to the even ones. A float that is not finite has no text, nor has a list with one
at any depth. -/
theorem floats_nearest :
    (∀ x : Binary64, x.isFinite = true → ∃ text whole places, ∃ n : ℕ,
      (Value.float x).render = .ok text ∧ InFixed text x.isNegative whole places ∧
      (Nat.ofDigitChars 10 whole 0 : ℚ) + Nat.ofDigitChars 10 places 0 / 10 ^ 6 = n / 10 ^ 6 ∧
      Decimal.NearestEven (|x.toRat| * 10 ^ 6) n) ∧
    ∀ (value : Value) text, value.render = .ok text →
      ∀ x, Value.At (.float x) value → x.isFinite = true := by
  refine ⟨fun x hx => ⟨x.fixed, _, _, x.millionths, ?_, inFixed_fixed x,
    value_sixDigits x.millionths, x.nearestEven_millionths⟩, fun value text h x hat => ?_⟩
  · rw [render, Binary64.render, if_pos hx]
  · by_contra hx
    have hfails : Fails value.render :=
      value.fails_iff.2 ⟨.float x, hat, .float (Bool.eq_false_iff.2 hx)⟩
    rw [fails_iff_not_succeeds] at hfails
    exact hfails ⟨text, h⟩

/-- The negative of one 128th has seven places, the last a five, and so has three 128ths. -/
theorem floats_nearest_ties :
    let x : Binary64 := ⟨0xBF80000000000000⟩
    let y : Binary64 := ⟨0x3F98000000000000⟩
    x.isFinite = true ∧ x.toRat = -(1 / 128) ∧ (Value.float x).render = .ok "-0.007812" ∧
    Decimal.NearestEven (1 / 128 * 10 ^ 6) 7812 ∧
    (Value.list [.float x, .list [.float y]]).render = .ok "(-0.007812, (0.023438))" ∧
    y.isFinite = true := by
  intro x y
  obtain ⟨hfinite, hlist⟩ := floats_nearest
  have hx : x.isFinite = true := by decide
  have hrat : x.toRat = -(1 / 128) := by
    have hnegative : x.isNegative = true := by decide
    have hexponent : x.exponentField = 1016 := by decide
    have hfraction : x.fractionField = 0 := by decide
    rw [Binary64.toRat, if_pos hnegative, Binary64.magnitude, hexponent, hfraction]
    norm_num
  have htext : (Value.float x).render = .ok "-0.007812" := by decide +kernel
  have hnested : (Value.list [.float x, .list [.float y]]).render =
      .ok "(-0.007812, (0.023438))" := by decide +kernel
  refine ⟨hx, hrat, htext, ?_, hnested, ?_⟩
  · obtain ⟨text, whole, places, n, hrender, hnotation, hvalue, hnearest⟩ := hfinite x hx
    cases htext.symm.trans hrender
    have hlayout : ['-', '0'] ++ '.' :: ['0', '0', '7', '8', '1', '2'] =
        (['-'] ++ whole) ++ '.' :: places := hnotation.layout
    have hlength : 6 = places.length := hnotation.length_places.symm
    obtain ⟨hwhole, hplaces⟩ := List.append_inj' hlayout (congrArg Nat.succ hlength)
    cases hwhole
    cases hplaces
    have hn : n = 7812 := by
      have hzero : Nat.ofDigitChars 10 ['0'] 0 = 0 := by decide
      have hsix : Nat.ofDigitChars 10 ['0', '0', '7', '8', '1', '2'] 0 = 7812 := by decide
      rw [hzero, hsix, Nat.cast_zero, zero_add, div_left_inj' (by norm_num)] at hvalue
      exact_mod_cast hvalue.symm
    rwa [hrat, abs_neg, abs_of_pos (by norm_num), hn] at hnearest
  · exact hlist _ _ hnested y (.item (List.mem_cons_of_mem _ List.mem_cons_self)
      (.item List.mem_cons_self .self))

end Value

end SearchQL
