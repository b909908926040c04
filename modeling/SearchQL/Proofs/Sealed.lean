import SearchQL.Proofs.Edge
import SearchQL.Proofs.Forest
import SearchQL.Proofs.Outline
import SearchQL.Query.Render

/-!
# Texts without keywords of their own

A text is sealed if a reader who looks for keywords finds none in it and comes out of it as he went
in: its literals, its names and its brackets are closed. Whole statements have keywords, and are
sealed only once they stand between brackets.

* `Sealed` and `Enclosed` are the notions, outside and inside of brackets.
* `Sealed.literal`, `Sealed.dotted`, `Sealed.segment` and `Sealed.number` say that data is sealed
  by quoting, whatever it is, and `Sealed.parenthesised` that brackets seal a statement.
* `Sealed.joinWith` puts sealed texts together.
-/

namespace SearchQL

open Outline

/-- Inside so many brackets there is no keyword in the text. -/
def Outline.Passes (depth : Nat) (s : String) : Prop := Reads depth s (s.toList.map .plain)

instance (depth : Nat) (s : String) : Decidable (Passes depth s) :=
  inferInstanceAs (Decidable (Reads depth s _))

/-- A text in which no keyword is found. -/
def Sealed (s : String) : Prop := ∀ depth, Passes depth s

/-- A text in which no keyword is found once it stands between brackets. -/
def Enclosed (s : String) : Prop := ∀ depth, Passes (depth + 1) s

namespace Outline.Passes

theorem of_walks {depth : Nat} {s : String}
    (h : Control.Walks (.between depth) s.toList (.between depth)) : Passes depth s := by
  refine ⟨?_, ?_, ?_⟩
  · rw [h.after]
    rfl
  · rw [h.after]
    rfl
  · rw [lexemes, h.after, h.emitted]
    simp [Control.between, readWord, heads]

/-- Inside of brackets no word is pending at the end. -/
theorem walks {depth : Nat} {s : String} (h : Passes (depth + 1) s) :
    Control.Walks (.between (depth + 1)) s.toList (.between (depth + 1)) := by
  obtain ⟨hzone, hdepth, hfound⟩ := h
  have hword : ((Control.between (depth + 1)).after s.toList).word = [] :=
    Control.word_eq_nil rfl (.inl (by rw [hdepth]; omega))
  constructor
  · generalize (Control.between (depth + 1)).after s.toList = k at hzone hdepth hword
    obtain ⟨zone, depth', word⟩ := k
    rw [Control.between]
    congr
  · rw [lexemes, hword] at hfound
    simpa [readWord, heads] using hfound

theorem append {depth : Nat} {s t : String} (hs : Passes depth s) (ht : Passes depth t)
    (h : depth ≠ 0 ∨ Ends s ∨ Starts t) : Passes depth (s ++ t) := by
  unfold Passes
  rw [String.toList_append, List.map_append]
  exact Reads.append hs ht h

end Outline.Passes

/-- Whether a text has no quotes, back-ticks and brackets. -/
def Unmarked (s : String) : Prop :=
  ∀ c ∈ s.toList, c ≠ '\'' ∧ c ≠ Identifier.tick ∧ c ≠ '(' ∧ c ≠ ')'

instance (s : String) : Decidable (Unmarked s) := List.decidableBAll _ s.toList

namespace Enclosed

theorem append {s t : String} (hs : Enclosed s) (ht : Enclosed t) : Enclosed (s ++ t) :=
  fun depth => (hs depth).append (ht depth) (.inl (by omega))

/-- A text without quotes and brackets. -/
theorem word (s : String) (hs : Unmarked s) : Enclosed s := by
  intro depth
  refine .of_walks ?_
  unfold Unmarked at hs
  generalize s.toList = cs at hs
  induction cs with
  | nil => exact .nil _
  | cons c cs ih =>
    obtain ⟨hquote, htick, hopen, hclose⟩ := hs c (by simp)
    have hchar : Control.Walks (.between (depth + 1)) [c] (.between (depth + 1)) := by
      have hsingle := Control.Walks.single .outside (depth + 1) c (by simp [Control.gathers])
      simpa [Control.between, Zone.next, Control.depthBehind, hquote, htick, hopen, hclose] using
        hsingle
    exact hchar.append (ih fun d hd => hs d (by simp [hd]))

theorem joinWith {sep : String} (hsep : Enclosed sep) {texts : List String}
    (h : ∀ text ∈ texts, Enclosed text) : Enclosed (joinWith sep texts) := by
  induction texts with
  | nil => exact word "" (by decide)
  | cons text rest ih =>
    cases rest with
    | nil => exact h text (by simp)
    | cons next rest =>
      exact ((h text (by simp)).append hsep).append (ih fun t ht => h t (by simp [ht]))

end Enclosed

namespace Sealed

theorem enclosed {s : String} (h : Sealed s) : Enclosed s := fun depth => h (depth + 1)

theorem of_enclosed {s : String} (h : Enclosed s) (hzero : Passes 0 s) : Sealed s
  | 0 => hzero
  | depth + 1 => h depth

theorem append {s t : String} (hs : Sealed s) (ht : Sealed t) (h : Ends s ∨ Starts t) :
    Sealed (s ++ t) := fun depth => (hs depth).append (ht depth) (.inr h)

/-- A fixed word that is no keyword. -/
theorem word (s : String) (hs : Unmarked s := by decide) (hzero : Passes 0 s := by decide) :
    Sealed s :=
  .of_enclosed (.word s hs) hzero

theorem literal (s : String) : Sealed (Literal.encode s) :=
  fun depth => .of_walks (.literal depth s)

theorem segmentChars (cs : List Char) : Sealed (String.ofList (Identifier.segmentChars cs)) :=
  fun depth => .of_walks (by rw [String.toList_ofList]; exact .segmentChars depth cs)

theorem segment (name : String) : Sealed (Identifier.segment name) := segmentChars name.toList

/-- Brackets seal what stands between them. -/
theorem parenthesised {s : String} (h : Enclosed s) : Sealed ("(" ++ s ++ ")") := fun depth =>
  .of_walks (by simpa using (h depth).walks.parenthesised)

end Sealed

/-! ## Lists -/

/-- A fixed text that no word goes into or comes out of. -/
structure Separates (sep : String) : Prop where
  unmarked : Unmarked sep
  passes : Passes 0 sep
  starts : ∃ c ∈ sep.toList.head?, isWord c = false
  ends : ∃ c ∈ sep.toList.getLast?, isWord c = false

instance (sep : String) : Decidable (Separates sep) :=
  have starts : Decidable (∃ c ∈ sep.toList.head?, isWord c = false) := Option.decidableExistsMem _
  have ends : Decidable (∃ c ∈ sep.toList.getLast?, isWord c = false) :=
    Option.decidableExistsMem _
  have last := @instDecidableAnd _ _ starts ends
  have passes := @instDecidableAnd (Passes 0 sep) _ inferInstance last
  @decidable_of_iff _ (_ ∧ _ ∧ _ ∧ _)
    ⟨fun h => ⟨h.1, h.2.1, h.2.2.1, h.2.2.2⟩, fun h => ⟨h.1, h.2, h.3, h.4⟩⟩
    (@instDecidableAnd (Unmarked sep) _ inferInstance passes)

namespace Separates

variable {sep : String}

protected theorem sealed (h : Separates sep) : Sealed sep := .word sep h.unmarked h.passes

theorem starts_append (h : Separates sep) (t : String) : Starts (sep ++ t) := by
  intro c hc
  obtain ⟨d, hd, hword⟩ := h.starts
  rw [String.toList_append, List.head?_append, hd, Option.some_or] at hc
  cases hc
  exact hword

theorem ends_append (h : Separates sep) (s : String) : Ends (s ++ sep) := by
  intro c hc
  obtain ⟨d, hd, hword⟩ := h.ends
  rw [String.toList_append, List.getLast?_append, hd, Option.some_or] at hc
  cases hc
  exact hword

/-- Behind a separator a text begins anew. -/
theorem append {t : String} (h : Separates sep) (ht : Sealed t) : Sealed (sep ++ t) :=
  h.sealed.append ht (.inl (by simpa using h.ends_append ""))

/-- A separator keeps the texts on either side apart. -/
theorem between {s t : String} (h : Separates sep) (hs : Sealed s) (ht : Sealed t) :
    Sealed (s ++ sep ++ t) := by
  rw [String.append_assoc]
  exact hs.append (h.append ht) (.inr (h.starts_append t))

end Separates

namespace Sealed

theorem joinWith (sep : String) {texts : List String} (h : ∀ text ∈ texts, Sealed text)
    (hsep : Separates sep := by decide) : Sealed (joinWith sep texts) := by
  induction texts with
  | nil => exact word ""
  | cons text rest ih =>
    cases rest with
    | nil => exact h text (by simp)
    | cons next rest => exact hsep.between (h text (by simp)) (ih fun t ht => h t (by simp [ht]))

/-- A list of values between brackets. -/
theorem bracketed (sep : String) {texts : List String} (h : ∀ text ∈ texts, Sealed text)
    (hsep : Separates sep := by decide) : Sealed (bracketed sep texts) :=
  parenthesised (joinWith sep h hsep).enclosed

theorem dotted (name : String) : Sealed (Identifier.dotted name) := by
  refine joinWith "." fun text htext => ?_
  obtain ⟨piece, -, rfl⟩ := List.mem_map.1 htext
  unfold Identifier.pieceChars
  split
  · rename_i hstar
    rw [hstar]
    exact word "*"
  · exact segmentChars piece

/-! ## Numbers -/

theorem toUpper_of_isDigit {c : Char} (hc : c.isDigit = true) : c.toUpper = c := by
  have hcode : 48 ≤ c.toNat ∧ c.toNat ≤ 57 := by
    simpa [Char.isDigit, UInt32.le_iff_toNat_le] using hc
  refine dif_neg fun h => ?_
  have hlow : 97 ≤ c.toNat := by simpa [UInt32.le_iff_toNat_le] using h.1
  omega

/-- No keyword begins with a digit. -/
theorem readWord_digits {word : List Char} (h : ∀ c ∈ word, c.isDigit = true) :
    readWord word = word.map .plain := by
  have hheads : heads.all (fun head => head.head?.any fun c => !c.isDigit) = true := by decide
  refine if_neg fun hmem => ?_
  have hhead := List.all_eq_true.1 hheads _ hmem
  cases word with
  | nil => cases hhead
  | cons c word =>
    have hc : c.isDigit = true := h c (by simp)
    simp [toUpper_of_isDigit hc, hc] at hhead

/-- Digits, signs and points are no keyword, also behind digits. -/
theorem read_digits {cs : List Char} (hcs : ∀ c ∈ cs, c.isDigit = true ∨ c = '-' ∨ c = '.')
    (depth : Nat) {word : List Char} (hword : ∀ c ∈ word, c.isDigit = true) :
    (Control.after ⟨.outside, depth, word⟩ cs).zone = .outside ∧
      (Control.after ⟨.outside, depth, word⟩ cs).depth = depth ∧
      lexemes ⟨.outside, depth, word⟩ cs = (word ++ cs).map .plain := by
  induction cs generalizing word with
  | nil => exact ⟨rfl, rfl, by simpa [lexemes] using readWord_digits hword⟩
  | cons c cs ih =>
    obtain ⟨hc, hrest⟩ := List.forall_mem_cons.1 hcs
    cases hgathers : Control.gathers ⟨.outside, depth, word⟩ c with
    | true =>
      have hdigit : c.isDigit = true := by
        have hword : isWord c = true := by
          simp only [Control.gathers, Bool.and_eq_true] at hgathers
          exact hgathers.2
        rcases hc with hc | rfl | rfl
        · exact hc
        · cases hword
        · cases hword
      have hword' : ∀ d ∈ word ++ [c], d.isDigit = true := by
        simpa [or_imp, forall_and] using ⟨hword, hdigit⟩
      simpa [lexemes, Control.next, Control.out, hgathers] using ih hrest hword'
    | false =>
      have hnone : c ≠ '\'' ∧ c ≠ Identifier.tick ∧ c ≠ '(' ∧ c ≠ ')' := by
        rcases hc with hc | rfl | rfl
        · refine ⟨?_, ?_, ?_, ?_⟩ <;> exact ne_of_isDigit hc (by decide)
        · decide
        · decide
      have hnext : Control.next ⟨.outside, depth, word⟩ c = ⟨.outside, depth, []⟩ := by
        simp [Control.next, Control.depthBehind, Zone.next, hgathers, hnone]
      have hempty : ∀ d ∈ ([] : List Char), d.isDigit = true := by simp
      obtain ⟨hzone, hdepth, hfound⟩ := ih hrest hempty
      refine ⟨?_, ?_, ?_⟩
      · rw [Control.after_cons, hnext, hzone]
      · rw [Control.after_cons, hnext, hdepth]
      · rw [lexemes] at hfound
        simp [lexemes, Control.out, hnext, hgathers, hfound, readWord_digits hword]

/-- A sign and digits, perhaps with a point. -/
theorem of_sign {s : String} {negative : Prop} [Decidable negative] {cs : List Char}
    (h : s.toList = (if negative then ['-'] else []) ++ cs)
    (hcs : ∀ c ∈ cs, c.isDigit = true ∨ c = '.') : Sealed s := by
  intro depth
  have hchars : ∀ c ∈ s.toList, c.isDigit = true ∨ c = '-' ∨ c = '.' := by
    intro c hc
    rw [h, List.mem_append] at hc
    rcases hc with hc | hc
    · split at hc
      · exact .inr (.inl (List.mem_singleton.1 hc))
      · cases hc
    · exact (hcs c hc).imp_right .inr
  have hempty : ∀ c ∈ ([] : List Char), c.isDigit = true := by simp
  obtain ⟨hzone, hdepth, hfound⟩ := read_digits hchars depth hempty
  exact ⟨hzone, hdepth, hfound⟩

theorem ofInt (n : Int) : Sealed (toString n) :=
  of_sign (toList_toString n) fun _ hc => .inl (isDigit_of_mem_toDigits hc)

theorem fixed (x : Binary64) : Sealed x.fixed := by
  refine of_sign (toList_fixed x) fun c hc => ?_
  simp only [Binary64.pointed, List.mem_append, List.mem_cons] at hc
  rcases hc with hc | rfl | hc
  · exact .inl (isDigit_of_mem_toDigits hc)
  · exact .inr rfl
  · exact .inl (isDigit_of_mem_sixDigits hc)

end Sealed

/-! ## Groups -/

namespace Forest

/-- A row of sealed texts is sealed. Where it is joined to what stands before it, no word goes into
it. -/
theorem sealed_text {row : Forest Logic String} (h : row.All Sealed) (joined : Bool) :
    Sealed (row.text joined) ∧ (joined = true → Starts (row.text joined)) := by
  have hjoint : ∀ logic, Separates (Group.joint true false logic) := by
    intro logic
    cases logic <;> decide
  -- An item behind its joint, in front of the rest of the row.
  have hitem : ∀ (joined : Bool) (logic : Logic) (item rest : String), Sealed item →
      Sealed rest → Starts rest → Sealed (Group.joint joined false logic ++ item ++ rest) ∧
      (joined = true → Starts (Group.joint joined false logic ++ item ++ rest)) := by
    intro joined logic item rest hitem hrest hstarts
    cases joined with
    | false =>
      have hnone : Group.joint false false logic = "" := rfl
      rw [hnone, String.empty_append]
      exact ⟨hitem.append hrest (.inr hstarts), nofun⟩
    | true =>
      refine ⟨((hjoint logic).append hitem).append hrest (.inr hstarts), fun _ => ?_⟩
      rw [String.append_assoc]
      exact (hjoint logic).starts_append _
  induction row generalizing joined with
  | nil => exact ⟨.word "", fun _ _ hc => by simp [text] at hc⟩
  | clause logic t rest ih =>
    obtain ⟨hrest, hstarts⟩ := ih h.2 true
    exact hitem joined logic t _ h.1 hrest (hstarts rfl)
  | bracket logic inner rest ihinner ihrest =>
    obtain ⟨hrest, hstarts⟩ := ihrest h.2 true
    have hinner := Sealed.parenthesised (ihinner h.1 false).1.enclosed
    have htext : (bracket logic inner rest).text joined =
        Group.joint joined false logic ++ ("(" ++ inner.text false ++ ")") ++ rest.text true := by
      simp [text, String.append_assoc]
    rw [htext]
    exact hitem joined logic _ _ hinner hrest (hstarts rfl)

end Forest

end SearchQL
