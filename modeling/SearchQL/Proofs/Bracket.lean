import SearchQL.Group

/-!
# Brackets of a group

The depth of a group is a count beside its entries. Whatever is done to a group, the depth is the
number of brackets that the entries leave open.

* `Entry.opens` and `Entry.closes` count the brackets of entries, and `Entry.Balanced` says that
  every bracket is closed behind where it was opened.
* `Group.Edit` lists what can be done to a group; `Group.run` goes on after edits that fail.
* `Group.Sound` is the invariant, kept by `Group.Sound.step` and so by `Group.sound_run`.
-/

namespace SearchQL

variable {α : Type}

/-! ## Counting brackets -/

namespace Entry

/-- Whether an entry is an opening bracket. -/
def isOpened : Entry α → Bool
  | .opened _ => true
  | _ => false

/-- Whether an entry is a closing bracket. -/
def isClosed : Entry α → Bool
  | .closed => true
  | _ => false

/-- An entry with its clause replaced. -/
def map {β : Type} (f : α → β) : Entry α → Entry β
  | .opened logic => .opened logic
  | .closed => .closed
  | .clause logic item => .clause logic (f item)

/-- The number of opening brackets. -/
def opens (es : List (Entry α)) : Nat := es.countP isOpened

/-- The number of closing brackets. -/
def closes (es : List (Entry α)) : Nat := es.countP isClosed

@[simp] theorem opens_nil : opens ([] : List (Entry α)) = 0 := rfl

@[simp] theorem closes_nil : closes ([] : List (Entry α)) = 0 := rfl

@[simp] theorem opens_cons (e : Entry α) (es : List (Entry α)) :
    opens (e :: es) = opens es + if e.isOpened then 1 else 0 := List.countP_cons

@[simp] theorem closes_cons (e : Entry α) (es : List (Entry α)) :
    closes (e :: es) = closes es + if e.isClosed then 1 else 0 := List.countP_cons

@[simp] theorem opens_append (es fs : List (Entry α)) : opens (es ++ fs) = opens es + opens fs :=
  List.countP_append

@[simp] theorem closes_append (es fs : List (Entry α)) :
    closes (es ++ fs) = closes es + closes fs := List.countP_append

/-- No bracket is closed before it was opened. -/
def NeverBelow (es : List (Entry α)) : Prop := ∀ fs, fs <+: es → closes fs ≤ opens fs

theorem neverBelow_nil : NeverBelow ([] : List (Entry α)) := by
  intro fs hfs
  rw [List.prefix_nil.1 hfs]
  simp

/-- One more entry adds one prefix. -/
theorem NeverBelow.concat {es : List (Entry α)} {e : Entry α} (h : NeverBelow es)
    (hall : closes (es ++ [e]) ≤ opens (es ++ [e])) : NeverBelow (es ++ [e]) := by
  intro fs hfs
  rcases List.prefix_concat_iff.1 hfs with rfl | hfs
  · exact hall
  · exact h fs hfs

/-- Entries in which every bracket is closed, and none before it was opened. -/
structure Balanced (es : List (Entry α)) : Prop where
  closes_eq : closes es = opens es
  neverBelow : NeverBelow es

end Entry

namespace Group

open Entry

/-! ## Edits -/

/-- What can be done to a group. -/
inductive Edit (α : Type) where
  | push (logic : Logic) (item : α)
  | openBracket (logic : Logic)
  | closeBracket (dropIfEmpty : Bool) (label : String)

/-- The group after an edit. -/
def apply (g : Group α) : Edit α → Except Error (Group α)
  | .push logic item => .ok (g.push logic item)
  | .openBracket logic => .ok (g.openBracket logic)
  | .closeBracket dropIfEmpty label => g.closeBracket dropIfEmpty label

/-- The group after an edit, or the same group if the edit fails. -/
def step (g : Group α) (edit : Edit α) : Group α :=
  match g.apply edit with
  | .ok g' => g'
  | .error _ => g

/-- The group after a run of edits, those that fail left out. -/
def run (g : Group α) (edits : List (Edit α)) : Group α := edits.foldl step g

@[simp] theorem run_nil (g : Group α) : g.run [] = g := rfl

@[simp] theorem run_cons (g : Group α) (edit : Edit α) (edits : List (Edit α)) :
    g.run (edit :: edits) = (g.step edit).run edits := rfl

@[simp] theorem run_append (g : Group α) (edits edits' : List (Edit α)) :
    g.run (edits ++ edits') = (g.run edits).run edits' := List.foldl_append

/-- A group ends with an opening bracket exactly if its last entry is one. -/
theorem endsOpen_iff {g : Group α} :
    g.endsOpen = true ↔ ∃ logic, g.entries = g.entries.dropLast ++ [.opened logic] := by
  unfold endsOpen
  constructor
  · intro h
    split at h
    case h_1 logic hlast =>
      obtain ⟨es, hes⟩ := List.getLast?_eq_some_iff.1 hlast
      exact ⟨logic, by rw [hes, List.dropLast_concat]⟩
    case h_2 => cases h
  · rintro ⟨logic, hentries⟩
    rw [hentries, List.getLast?_concat]

/-! ## The invariant -/

/-- The depth is what the brackets of the entries leave open, and it never was below zero. -/
structure Sound (g : Group α) : Prop where
  depth_eq : g.depth + closes g.entries = opens g.entries
  neverBelow : NeverBelow g.entries

namespace Sound

theorem empty : Sound ({} : Group α) := ⟨rfl, neverBelow_nil⟩

/-- An entry with the right depth may be added. -/
theorem concat {g : Group α} (h : g.Sound) (e : Entry α) (depth : Nat)
    (hdepth : depth + closes (g.entries ++ [e]) = opens (g.entries ++ [e])) :
    Sound ⟨g.entries ++ [e], depth⟩ :=
  ⟨hdepth, h.neverBelow.concat (by omega)⟩

theorem push {g : Group α} (h : g.Sound) (logic : Logic) (item : α) :
    (g.push logic item).Sound := by
  have hdepth := h.depth_eq
  exact h.concat _ _ (by simp [isOpened, isClosed]; omega)

theorem openBracket {g : Group α} (h : g.Sound) (logic : Logic) : (g.openBracket logic).Sound := by
  have hdepth := h.depth_eq
  exact h.concat _ _ (by simp [isOpened, isClosed]; omega)

/-- An opening bracket at the end may be taken away. -/
theorem of_openBracket {g : Group α} {es : List (Entry α)} {depth : Nat} {logic : Logic}
    (h : g.Sound) (hentries : g.entries = es ++ [.opened logic]) (hdepth : g.depth = depth + 1) :
    Sound ⟨es, depth⟩ := by
  have hg := h.depth_eq
  have heq : depth + closes es = opens es := by
    rw [hentries] at hg
    simp [isOpened, isClosed] at hg
    omega
  refine ⟨heq, fun fs hfs => h.neverBelow fs ?_⟩
  rw [hentries]
  exact hfs.trans (List.prefix_append _ _)

theorem closeBracket {g g' : Group α} {dropIfEmpty : Bool} {label : String} (h : g.Sound)
    (hclose : g.closeBracket dropIfEmpty label = .ok g') : g'.Sound := by
  have hdepth := h.depth_eq
  unfold Group.closeBracket at hclose
  split at hclose
  case isTrue => cases hclose
  split at hclose
  case isTrue hpos hdrop =>
    cases hclose
    obtain ⟨logic, hentries⟩ := endsOpen_iff.1 (Bool.and_eq_true_iff.1 hdrop).2
    have hopen : g.depth = (g.depth - 1) + 1 := by omega
    exact h.of_openBracket hentries hopen
  case isFalse =>
    cases hclose
    exact h.concat _ _ (by simp [isOpened, isClosed]; omega)

/-- An edit keeps the invariant, also if it fails. -/
theorem step {g : Group α} (h : g.Sound) (edit : Edit α) : (g.step edit).Sound := by
  unfold Group.step
  cases edit with
  | push logic item => exact h.push logic item
  | openBracket logic => exact h.openBracket logic
  | closeBracket dropIfEmpty label =>
    rw [apply]
    split
    case h_1 g' hclose => exact h.closeBracket hclose
    case h_2 => exact h

theorem run {g : Group α} (h : g.Sound) (edits : List (Edit α)) : (g.run edits).Sound := by
  induction edits generalizing g with
  | nil => exact h
  | cons edit edits ih => exact ih (h.step edit)

/-- A group with an open bracket is not empty. -/
theorem isEmpty_eq_false {g : Group α} (h : g.Sound) (hpos : 0 < g.depth) :
    g.isEmpty = false := by
  have hdepth := h.depth_eq
  cases hentries : g.entries with
  | nil =>
    rw [hentries] at hdepth
    simp at hdepth
    omega
  | cons e es => simp [isEmpty, hentries]

theorem balanced {g : Group α} (h : g.Sound) (hdepth : g.depth = 0) : Balanced g.entries := by
  have heq := h.depth_eq
  exact ⟨by omega, h.neverBelow⟩

/-- No bracket is open exactly if the entries are balanced. -/
theorem depth_eq_zero_iff {g : Group α} (h : g.Sound) : g.depth = 0 ↔ Balanced g.entries := by
  refine ⟨h.balanced, fun hbalanced => ?_⟩
  have hdepth := h.depth_eq
  have hcloses := hbalanced.closes_eq
  omega

end Sound

theorem sound_run (edits : List (Edit α)) : (run {} edits).Sound := Sound.empty.run edits

/-- Closing fails exactly if no bracket is open. -/
theorem exists_closeBracket_eq_error_iff {g : Group α} {dropIfEmpty : Bool} {label : String} :
    (∃ e, g.closeBracket dropIfEmpty label = .error e) ↔ g.depth = 0 := by
  constructor
  · rintro ⟨e, he⟩
    exact (closeBracket_eq_error_iff.1 he).1
  · intro hdepth
    exact ⟨_, closeBracket_eq_error_iff.2 ⟨hdepth, rfl⟩⟩

end Group

end SearchQL
