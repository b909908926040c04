import Mathlib.Data.List.Forall2
import SearchQL.Proofs.Token
import SearchQL.Text.Join

/-!
# Texts that differ only in literals

Two texts are alike if they take the splitter from states that agree to states that agree, where
agreement looks at everything but the payloads of literals. The relation is about texts in any
context, so it is kept by every way of putting texts together: no side condition says what may
stand next to what.

* `Alike.append` and `Alike.joinWith` put texts together.
* `Alike.of_bare`, `Alike.dotted` and `Alike.segment` say that keywords, numbers and quoted names
  are alike to themselves, and `Alike.literal` that all literals are alike.
* `Alike.exists_split` reads the tokens of two alike texts off.
-/

namespace SearchQL

/-! ## States that agree -/

/-- Two states between tokens that differ at most in the payloads of literals. Behind the last
back-tick of a name a state counts as being between tokens. -/
structure Scan.Agree (a b : Scan) : Prop where
  tokens : a.tokens.map Token.hollow = b.tokens.map Token.hollow
  mode : a.mode = b.mode
  between : a.mode = .outside ∨ ∃ content, a.mode = .ticked content

namespace Scan.Agree

theorem start : Scan.start.Agree Scan.start := ⟨rfl, rfl, .inl rfl⟩

theorem symm {a b : Scan} (h : a.Agree b) : b.Agree a :=
  ⟨h.tokens.symm, h.mode.symm, h.mode ▸ h.between⟩

theorem trans {a b c : Scan} (h : a.Agree b) (h' : b.Agree c) : a.Agree c :=
  ⟨h.tokens.trans h'.tokens, h.mode.trans h'.mode, h.between⟩

/-- The next character finds both states outside, after a pending name is taken in. -/
theorem step {a b : Scan} (h : a.Agree b) {c : Char} (hc : c ≠ Identifier.tick) :
    ∃ tokens tokens', tokens.map Token.hollow = tokens'.map Token.hollow ∧
      a.step c = Scan.enter tokens c ∧ b.step c = Scan.enter tokens' c := by
  obtain ⟨tokens, mode⟩ := a
  obtain ⟨tokens', mode'⟩ := b
  obtain ⟨htokens, rfl, hbetween⟩ := h
  rcases hbetween with rfl | ⟨content, rfl⟩
  · exact ⟨tokens, tokens', htokens, rfl, rfl⟩
  · refine ⟨tokens ++ [.name content], tokens' ++ [.name content], ?_, ?_, ?_⟩
    · simpa using htokens
    · simp [Scan.step, hc]
    · simp [Scan.step, hc]

end Scan.Agree

/-! ## Texts that are alike -/

/-- Whether a text has no quotes and no back-ticks. -/
def Bare (s : String) : Prop := ∀ c ∈ s.toList, c ≠ '\'' ∧ c ≠ Identifier.tick

instance (s : String) : Decidable (Bare s) := List.decidableBAll _ s.toList

theorem bare_empty : Bare "" := by decide

/-- Whether two texts take states that agree to states that agree. -/
def Alike (s t : String) : Prop :=
  ∀ ⦃a b : Scan⦄, a.Agree b → (a.run s.toList).Agree (b.run t.toList)

namespace Alike

theorem symm {s t : String} (h : Alike s t) : Alike t s := fun _ _ hab => (h hab.symm).symm

theorem trans {s t u : String} (h : Alike s t) (h' : Alike t u) : Alike s u := fun _ _ hab =>
  (h hab).trans (h' (hab.symm.trans hab))

/-- A text that is alike to some text is alike to itself. -/
theorem self {s t : String} (h : Alike s t) : Alike s s := h.trans h.symm

theorem append {s s' t t' : String} (h : Alike s t) (h' : Alike s' t') :
    Alike (s ++ s') (t ++ t') := by
  intro a b hab
  simp only [String.toList_append, Scan.run_append]
  exact h' (h hab)

/-- A text without quotes and back-ticks is alike to itself. -/
theorem of_bare {s : String} (hs : Bare s) : Alike s s := by
  have hrun : ∀ cs : List Char, (∀ c ∈ cs, c ≠ '\'' ∧ c ≠ Identifier.tick) →
      ∀ a b : Scan, a.Agree b → (a.run cs).Agree (b.run cs) := by
    intro cs
    induction cs with
    | nil => exact fun _ a b hab => hab
    | cons c cs ih =>
      intro hcs a b hab
      obtain ⟨hquote, htick⟩ := hcs c (by simp)
      obtain ⟨tokens, tokens', htokens, ha, hb⟩ := hab.step htick
      refine ih (fun d hd => hcs d (by simp [hd])) _ _ ?_
      rw [ha, hb]
      simp only [Scan.enter, hquote, htick, if_false]
      exact ⟨by simpa using htokens, rfl, .inl rfl⟩
  exact fun a b hab => hrun s.toList hs a b hab

/-- A fixed word is alike to itself. -/
theorem word (s : String) (hs : Bare s) : Alike s s := of_bare hs

/-- Any two literals are alike. -/
theorem literal (s t : String) : Alike (Literal.encode s) (Literal.encode t) := by
  intro a b hab
  obtain ⟨tokens, tokens', htokens, ha, hb⟩ := hab.step (c := '\'') (by decide)
  simp only [Literal.toList_encode, Scan.run_cons, ha, hb, Scan.enter, if_true, Scan.run_literal]
  exact ⟨by simpa [Token.hollow] using htokens, rfl, .inl rfl⟩

/-- A quoted name is alike to itself, also behind another one: then both become one name. -/
theorem segmentChars (cs : List Char) :
    Alike (String.ofList (Identifier.segmentChars cs))
      (String.ofList (Identifier.segmentChars cs)) := by
  intro a b hab
  obtain ⟨tokens, mode⟩ := a
  obtain ⟨tokens', mode'⟩ := b
  obtain ⟨htokens, rfl, hbetween⟩ := hab
  simp only [String.toList_ofList, Identifier.segmentChars, Scan.run_cons]
  rcases hbetween with rfl | ⟨content, rfl⟩
  · have henter : ∀ tokens, Scan.step ⟨tokens, .outside⟩ Identifier.tick = ⟨tokens, .named []⟩ :=
      fun _ => rfl
    rw [henter, henter, Scan.run_segment, Scan.run_segment]
    exact ⟨htokens, rfl, .inr ⟨_, rfl⟩⟩
  · have htick : ∀ tokens, Scan.step ⟨tokens, .ticked content⟩ Identifier.tick =
        ⟨tokens, .named (content ++ [Identifier.tick])⟩ := fun _ => by simp [Scan.step]
    rw [htick, htick, Scan.run_segment, Scan.run_segment]
    exact ⟨htokens, rfl, .inr ⟨_, rfl⟩⟩

theorem segment (name : String) : Alike (Identifier.segment name) (Identifier.segment name) :=
  segmentChars name.toList

/-- Lists of alike texts stay alike between separators. -/
theorem joinWith {sep : String} (hsep : Alike sep sep) {ss ts : List String}
    (h : List.Forall₂ Alike ss ts) : Alike (joinWith sep ss) (joinWith sep ts) := by
  induction h with
  | nil => exact of_bare bare_empty
  | cons hst hrest ih =>
    cases hrest with
    | nil => exact hst
    | cons _ _ => exact (hst.append hsep).append ih

/-- A dotted name is alike to itself. -/
theorem dotted (name : String) : Alike (Identifier.dotted name) (Identifier.dotted name) := by
  refine joinWith (word "." (by decide)) ?_
  rw [List.forall₂_same]
  intro text htext
  obtain ⟨piece, -, rfl⟩ := List.mem_map.1 htext
  unfold Identifier.pieceChars
  split
  · rename_i hstar
    exact of_bare (by rw [hstar]; decide)
  · exact segmentChars piece

/-- Alike texts have tokens that differ only in the payloads of literals. -/
theorem exists_split {s t : String} (h : Alike s t) :
    ∃ tokens tokens', Token.split s = some tokens ∧ Token.split t = some tokens' ∧
      tokens.map Token.hollow = tokens'.map Token.hollow := by
  obtain ⟨htokens, hmode, hbetween⟩ := h Scan.Agree.start
  unfold Token.split
  cases ha : Scan.start.run s.toList with
  | mk tokens mode =>
    cases hb : Scan.start.run t.toList with
    | mk tokens' mode' =>
      rw [ha, hb] at htokens hmode
      rw [ha] at hbetween
      obtain rfl : mode = mode' := hmode
      rcases hbetween with rfl | ⟨content, rfl⟩
      · exact ⟨tokens, tokens', rfl, rfl, htokens⟩
      · exact ⟨_, _, rfl, rfl, by simpa using htokens⟩

end Alike

end SearchQL
