import Mathlib.Data.List.TakeWhile
import SearchQL.Decimal
import SearchQL.Proofs.Edge

/-!
# Numerals

Counts and settings are numbers as people write them: digits, behind a plus sign or not, with white
space around them.

* `exists_trimChars` and `trimChars_append` say what trimming takes off a text.
* `Decimal.natural?_withoutPlus` says that one plus sign is passed over.
* `Decimal.Denotes` is the number that a text denotes, white space and all, and
  `Decimal.unsigned?_trimChars` says that it is what is read.
-/

namespace SearchQL

/-! ## Trimming -/

/-- Nothing but white space is taken off the end of a text. -/
theorem exists_trimEnd (cs : List Char) :
    ∃ after, cs = trimEnd cs ++ after ∧ ∀ c ∈ after, isBlank c = true := by
  induction cs with
  | nil => exact ⟨[], rfl, List.forall_mem_nil _⟩
  | cons c cs ih =>
    obtain ⟨after, hcs, hafter⟩ := ih
    rw [trimEnd]
    split
    case h_1 hnil =>
      rw [hnil, List.nil_append] at hcs
      split
      case isTrue hc =>
        refine ⟨c :: cs, rfl, List.forall_mem_cons.2 ⟨hc, ?_⟩⟩
        rw [hcs]
        exact hafter
      case isFalse => exact ⟨after, by rw [hcs, List.singleton_append], hafter⟩
    case h_2 => exact ⟨after, by rw [List.cons_append, ← hcs], hafter⟩

/-- White space at the end of a text makes no difference to what is left of it. -/
theorem trimEnd_append {after : List Char} (h : ∀ c ∈ after, isBlank c = true) (cs : List Char) :
    trimEnd (cs ++ after) = trimEnd cs := by
  induction cs with
  | nil => exact trimEnd_eq_nil_iff.2 (List.all_eq_true.2 h)
  | cons c cs ih => rw [List.cons_append, trimEnd, ih, trimEnd]

/-- Nothing but white space is taken off a text. -/
theorem exists_trimChars (cs : List Char) :
    ∃ before after, cs = before ++ trimChars cs ++ after ∧
      ∀ c ∈ before ++ after, isBlank c = true := by
  obtain ⟨after, hcs, hafter⟩ := exists_trimEnd (cs.dropWhile isBlank)
  refine ⟨cs.takeWhile isBlank, after, ?_, List.forall_mem_append.2 ⟨fun c hc => ?_, hafter⟩⟩
  · rw [trimChars, List.append_assoc, ← hcs, List.takeWhile_append_dropWhile]
  · exact List.mem_takeWhile_imp hc

/-- White space around a text that has none in it is taken off. -/
theorem trimChars_append {before core after : List Char}
    (h : ∀ c ∈ before ++ after, isBlank c = true) (hne : core ≠ [])
    (hcore : ∀ c ∈ core, isBlank c = false) : trimChars (before ++ core ++ after) = core := by
  rw [List.forall_mem_append] at h
  obtain ⟨c, cs, rfl⟩ := List.exists_cons_of_ne_nil hne
  have hstart : (before ++ (c :: cs ++ after)).dropWhile isBlank = c :: cs ++ after := by
    rw [List.dropWhile_append_of_pos h.1, List.cons_append, List.dropWhile_cons_of_neg]
    simp [hcore c List.mem_cons_self]
  have hlast : ∃ d ∈ (c :: cs).getLast?, isBlank d = false :=
    ⟨_, List.getLast?_eq_some_getLast hne, hcore _ (List.getLast_mem hne)⟩
  rw [trimChars, List.append_assoc, hstart, trimEnd_append h.2, trimEnd_of_last hlast]

namespace Decimal

/-! ## Numbers -/

theorem natural?_eq_some_iff {cs : List Char} {n : Nat} : natural? cs = some n ↔
    cs ≠ [] ∧ (∀ c ∈ cs, c.isDigit = true) ∧ Nat.ofDigitChars 10 cs 0 = n := by
  simp [natural?, and_assoc]

/-- At most one plus sign stands in front of the digits. -/
theorem natural?_withoutPlus {cs : List Char} {n : Nat} : natural? (withoutPlus cs) = some n ↔
    ∃ sign digits, cs = sign ++ digits ∧ (sign = [] ∨ sign = ['+']) ∧ natural? digits = some n := by
  constructor
  · intro h
    unfold withoutPlus at h
    split at h
    case h_1 digits => exact ⟨['+'], digits, rfl, .inr rfl, h⟩
    case h_2 => exact ⟨[], cs, rfl, .inl rfl, h⟩
  · rintro ⟨sign, digits, rfl, rfl | rfl, h⟩
    · have hdigits := (natural?_eq_some_iff.1 h).2.1
      rw [List.nil_append, withoutPlus]
      · exact h
      · rintro cs rfl
        exact absurd (hdigits '+' List.mem_cons_self) (by decide)
    · exact h

/-- The number that a text denotes: digits, behind a plus sign or not, between white space. -/
def Denotes (text : String) (n : Nat) : Prop :=
  ∃ before sign digits after : List Char, text.toList = before ++ (sign ++ digits) ++ after ∧
    (∀ c ∈ before ++ after, isBlank c = true) ∧ (sign = [] ∨ sign = ['+']) ∧ digits ≠ [] ∧
    (∀ c ∈ digits, c.isDigit = true) ∧ Nat.ofDigitChars 10 digits 0 = n

/-- What is read of a trimmed text is the number that it denotes, if it is not too large. -/
theorem unsigned?_trimChars {bound : Nat} {text : String} {n : Nat} :
    unsigned? bound (trimChars text.toList) = some n ↔ Denotes text n ∧ n < bound := by
  rw [unsigned?, Option.filter_eq_some_iff, decide_eq_true_eq, natural?_withoutPlus]
  refine and_congr_left fun _ => ?_
  constructor
  · rintro ⟨sign, digits, htrim, hsign, hdigits⟩
    obtain ⟨before, after, htext, hblank⟩ := exists_trimChars text.toList
    rw [htrim] at htext
    exact ⟨before, sign, digits, after, htext, hblank, hsign, natural?_eq_some_iff.1 hdigits⟩
  · rintro ⟨before, sign, digits, after, htext, hblank, hsign, hne, hdigits, hn⟩
    refine ⟨sign, digits, ?_, hsign, natural?_eq_some_iff.2 ⟨hne, hdigits, hn⟩⟩
    have hcore : ∀ c ∈ sign ++ digits, isBlank c = false := by
      refine List.forall_mem_append.2 ⟨?_, fun c hc => isBlank_of_isDigit (hdigits c hc)⟩
      rcases hsign with rfl | rfl
      · exact List.forall_mem_nil _
      · simpa using (by decide : isBlank '+' = false)
    rw [htext, trimChars_append hblank (List.append_ne_nil_of_right_ne_nil _ hne) hcore]

end Decimal

end SearchQL
