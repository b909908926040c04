import SearchQL.Binary64.Basic
import SearchQL.Text.CharClass
import SearchQL.Text.Identifier
import SearchQL.Text.Literal

/-!
# The ends of texts

A condition is trimmed after it is put together. Its parts have no white space at their ends, so
that trimming takes away nothing but the blank that an empty column name leaves behind.

* `Edged` says that a text has ends and that neither is white space; it holds of numbers
  (`Edged.ofInt`, `Edged.fixed`), of literals, of names and of everything between brackets.
* `Edged.trim_eq` and `Edged.trim_blank_append` are what trimming does to such texts.
-/

namespace SearchQL

/-! ## Digits -/

/-- A digit differs from every character that is none. -/
theorem ne_of_isDigit {c d : Char} (hc : c.isDigit = true) (hd : d.isDigit = false) : c ≠ d := by
  rintro rfl
  simp [hc] at hd

theorem isBlank_of_isDigit {c : Char} (hc : c.isDigit = true) : isBlank c = false := by
  have hcode : 48 ≤ c.toNat ∧ c.toNat ≤ 57 := by
    simpa [Char.isDigit, UInt32.le_iff_toNat_le] using hc
  simp only [isBlank, blankRanges, inRanges]
  grind

/-- The digits of a whole number behind its sign. -/
theorem toList_toString (n : Int) :
    (toString n).toList = (if n < 0 then ['-'] else []) ++ Nat.toDigits 10 n.natAbs := by
  rw [Int.toString_eq_repr, Int.repr_eq_if]
  by_cases hn : 0 ≤ n
  · have hnot : ¬ n < 0 := by omega
    have habs : n.toNat = n.natAbs := by omega
    simp [hn, hnot, habs]
  · have hneg : n < 0 := by omega
    have habs : (-n).toNat = n.natAbs := by omega
    simp [hn, hneg, habs]

theorem toList_fixed (x : Binary64) :
    x.fixed.toList = (if x.isNegative then ['-'] else []) ++ Binary64.pointed x.millionths := by
  rw [Binary64.fixed, String.toList_ofList]

theorem isDigit_of_mem_toDigits {n : Nat} {c : Char} (hc : c ∈ Nat.toDigits 10 n) :
    c.isDigit = true :=
  Nat.isDigit_of_mem_toDigits (by decide) (by decide) hc

theorem isDigit_of_mem_sixDigits {n : Nat} {c : Char} (hc : c ∈ Binary64.sixDigits n) :
    c.isDigit = true := by
  obtain ⟨place, -, rfl⟩ := List.mem_map.1 hc
  have hlt : n / place % 10 < 10 := Nat.mod_lt _ (by decide)
  simpa using hlt

/-! ## Ends that are not white space -/

/-- A text with something at both ends that is not white space. -/
structure Edged (s : String) : Prop where
  head : ∃ c ∈ s.toList.head?, isBlank c = false
  last : ∃ c ∈ s.toList.getLast?, isBlank c = false

instance (s : String) : Decidable (Edged s) :=
  have head : Decidable (∃ c ∈ s.toList.head?, isBlank c = false) := Option.decidableExistsMem _
  have last : Decidable (∃ c ∈ s.toList.getLast?, isBlank c = false) := Option.decidableExistsMem _
  @decidable_of_iff _ (_ ∧ _) ⟨fun h => ⟨h.1, h.2⟩, fun h => ⟨h.head, h.last⟩⟩
    (@instDecidableAnd _ _ head last)

namespace Edged

theorem ne_empty {s : String} (h : Edged s) : s ≠ "" := by
  rintro rfl
  obtain ⟨c, hc, -⟩ := h.head
  simp at hc

/-- The ends of a text are those of its first and its last part. -/
theorem append {s t : String} (hs : Edged s) (mid : String) (ht : Edged t) :
    Edged (s ++ mid ++ t) := by
  obtain ⟨c, hc, hcblank⟩ := hs.head
  obtain ⟨d, hd, hdblank⟩ := ht.last
  refine ⟨⟨c, ?_, hcblank⟩, ⟨d, ?_, hdblank⟩⟩
  · simp_all
  · simp_all

/-- A text between edged texts is edged, whatever it is. -/
theorem parenthesised (s : String) : Edged ("(" ++ s ++ ")") := by
  have hopen : Edged "(" := by decide
  exact hopen.append s (by decide)

theorem literal (s : String) : Edged (Literal.encode s) := by
  refine ⟨⟨'\'', ?_, by decide⟩, ⟨'\'', ?_, by decide⟩⟩
  · simp
  · simp [List.getLast?_cons]

/-- A sign and characters that begin and end with a digit. -/
theorem of_sign {s : String} {negative : Prop} [Decidable negative] {cs : List Char}
    (h : s.toList = (if negative then ['-'] else []) ++ cs)
    (hhead : ∃ c ∈ cs.head?, c.isDigit = true) (hlast : ∃ c ∈ cs.getLast?, c.isDigit = true) :
    Edged s := by
  obtain ⟨c, hc, hcdigit⟩ := hhead
  obtain ⟨d, hd, hddigit⟩ := hlast
  have hminus : isBlank '-' = false := by decide
  refine ⟨?_, ⟨d, ?_, isBlank_of_isDigit hddigit⟩⟩
  · by_cases hneg : negative
    · exact ⟨'-', by simp [h, hneg], hminus⟩
    · exact ⟨c, by simpa [h, hneg] using hc, isBlank_of_isDigit hcdigit⟩
  · simp_all

theorem ofInt (n : Int) : Edged (toString n) := by
  have hne : Nat.toDigits 10 n.natAbs ≠ [] := Nat.toDigits_ne_nil
  refine of_sign (toList_toString n) ⟨_, List.head?_eq_some_head hne, ?_⟩
    ⟨_, List.getLast?_eq_some_getLast hne, ?_⟩
  · exact isDigit_of_mem_toDigits (List.head_mem hne)
  · exact isDigit_of_mem_toDigits (List.getLast_mem hne)

theorem fixed (x : Binary64) : Edged x.fixed := by
  have hne : Nat.toDigits 10 (x.millionths / 1000000) ≠ [] := Nat.toDigits_ne_nil
  have hsix : Binary64.sixDigits x.millionths ≠ [] := by simp [Binary64.sixDigits]
  have hhead : (Binary64.pointed x.millionths).head? = some (List.head _ hne) := by
    rw [Binary64.pointed, List.head?_append, List.head?_eq_some_head hne, Option.some_or]
  have hlast : (Binary64.pointed x.millionths).getLast? = some (List.getLast _ hsix) := by
    rw [Binary64.pointed, List.getLast?_append, List.getLast?_cons,
      List.getLast?_eq_some_getLast hsix, Option.getD_some, Option.some_or]
  refine of_sign (toList_fixed x) ⟨_, hhead, ?_⟩ ⟨_, hlast, ?_⟩
  · exact isDigit_of_mem_toDigits (List.head_mem hne)
  · exact isDigit_of_mem_sixDigits (List.getLast_mem hsix)

/-- A list that is not empty has its ends in its first and its last member. -/
theorem joinWith (sep : String) {texts : List String} (hne : texts ≠ [])
    (h : ∀ text ∈ texts, Edged text) : Edged (joinWith sep texts) := by
  induction texts with
  | nil => exact absurd rfl hne
  | cons text rest ih =>
    cases rest with
    | nil => exact h text (by simp)
    | cons next rest =>
      exact (h text (by simp)).append sep (ih (by simp) fun t ht => h t (by simp [ht]))

/-- The pieces of a dotted name have no white space at their ends. -/
theorem dotted (name : String) : Edged (Identifier.dotted name) := by
  refine .joinWith "." (by simpa using pieces_ne_nil '.' name.toList) fun text htext => ?_
  obtain ⟨piece, -, rfl⟩ := List.mem_map.1 htext
  unfold Identifier.pieceChars
  split
  · rename_i hstar
    rw [hstar]
    decide
  · refine ⟨⟨Identifier.tick, ?_, by decide⟩, ⟨Identifier.tick, ?_, by decide⟩⟩
    · simp [Identifier.segmentChars]
    · simp [Identifier.segmentChars, List.getLast?_cons]

end Edged

/-! ## Trimming -/

theorem trimEnd_of_last {cs : List Char} (h : ∃ c ∈ cs.getLast?, isBlank c = false) :
    trimEnd cs = cs := by
  induction cs with
  | nil => rfl
  | cons c cs ih =>
    cases cs with
    | nil =>
      obtain ⟨d, hd, hblank⟩ := h
      obtain rfl : c = d := by simpa using hd
      simp [trimEnd, hblank]
    | cons d ds =>
      have hrest : trimEnd (d :: ds) = d :: ds := ih (by simpa using h)
      rw [trimEnd, hrest]

namespace Edged

/-- Trimming takes nothing off a text without white space at its ends. -/
theorem trim_eq {s : String} (h : Edged s) : trim s = s := by
  obtain ⟨c, hc, hblank⟩ := h.head
  have hdrop : s.toList.dropWhile isBlank = s.toList := by
    cases hs : s.toList with
    | nil => simp
    | cons d ds =>
      obtain rfl : d = c := by simpa [hs] using hc
      simp [hblank]
  rw [trim, trimChars, hdrop, trimEnd_of_last h.last, String.ofList_toList]

/-- A blank in front of such a text is trimmed. -/
theorem trim_blank_append {s : String} (h : Edged s) : trim (" " ++ s) = s := by
  have hdrop : (" " ++ s).toList.dropWhile isBlank = s.toList.dropWhile isBlank := by
    have hblank : isBlank ' ' = true := by decide
    simp [hblank]
  have hs := h.trim_eq
  rw [trim, trimChars] at hs ⊢
  rw [hdrop, hs]

end Edged

end SearchQL
