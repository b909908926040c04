import Mathlib.Data.List.Forall2
import SearchQL.Text.Join

/-!
# Series are read back

Items with a comma and a blank between them are read one by one. How an item is read is a parameter,
and nothing tells how many there are: a series is over where a bracket is closed or the text ends.

* `Series.expect` takes a word off the beginning of a text, and `Series.read` is the reader of a
  series.
* `Series.ReadsItem` says that a text is read as an item, and `Series.read_joinWith` that a series
  of such texts is read as their items.
-/

namespace SearchQL.Series

variable {α : Type}

/-! ## The reader -/

/-- What stands behind a word, if the text begins with it. -/
def expect (word : String) (cs : List Char) : Option (List Char) := word.toList.isPrefixOf? cs

/-- Whether a series is over in front of this text. -/
def ends (cs : List Char) : Bool := cs.head?.all (· = ')')

/-- The further items of a series. The bound is on their number. -/
def readMore (item : List Char → Option (α × List Char)) :
    Nat → List Char → Option (List α × List Char)
  | 0, cs => some ([], cs)
  | bound + 1, cs =>
    match expect ", " cs with
    | none => some ([], cs)
    | some cs => do
      let (a, rest) ← item cs
      let (as, rest) ← readMore item bound rest
      some (a :: as, rest)

/-- A series, which may have no items. -/
def read (item : List Char → Option (α × List Char)) (cs : List Char) :
    Option (List α × List Char) :=
  if ends cs then some ([], cs)
  else do
    let (a, rest) ← item cs
    let (as, rest) ← readMore item cs.length rest
    some (a :: as, rest)

/-! ## What is read -/

@[simp] theorem expect_append (word : String) (cs : List Char) :
    expect word (word.toList ++ cs) = some cs := by
  simp [expect]

/-- A word that begins with another character is not there. -/
theorem expect_of_ends {cs : List Char} (h : ends cs = true) : expect ", " cs = none := by
  cases cs with
  | nil => rfl
  | cons c cs =>
    obtain rfl : c = ')' := by simpa [ends] using h
    rfl

/-- What may stand behind an item. -/
def Follows (rest : List Char) : Prop := ∀ c ∈ rest.head?, c = ',' ∨ c = ')'

/-- A text is read as an item, in front of everything that may stand behind one, and cannot be
taken for the end of a series. -/
structure ReadsItem (item : List Char → Option (α × List Char)) (text : String) (a : α) :
    Prop where
  not_ends : ∀ rest, ends (text.toList ++ rest) = false
  read : ∀ rest, Follows rest → item (text.toList ++ rest) = some (a, rest)

/-- The texts of the further items of a series. -/
def further (texts : List String) : List Char :=
  texts.flatMap fun text => ", ".toList ++ text.toList

theorem toList_joinWith (text : String) (texts : List String) :
    (joinWith ", " (text :: texts)).toList = text.toList ++ further texts :=
  toList_joinWith_cons ", " text texts

theorem length_le_further (texts : List String) : texts.length ≤ (further texts).length := by
  induction texts with
  | nil => exact Nat.zero_le _
  | cons text texts ih =>
    have hcons : further (text :: texts) = ", ".toList ++ text.toList ++ further texts := by
      simp [further]
    have hcomma : ", ".toList.length = 2 := rfl
    rw [hcons, List.length_append, List.length_append, List.length_cons]
    omega

theorem follows_further (texts : List String) {rest : List Char} (hrest : ends rest = true) :
    Follows (further texts ++ rest) := by
  intro c hc
  cases texts with
  | nil =>
    right
    cases rest with
    | nil => simp [further] at hc
    | cons d ds =>
      obtain rfl : d = c := by simpa [further] using hc
      simpa [ends] using hrest
  | cons text texts =>
    left
    simpa [further, eq_comm] using hc

variable {item : List Char → Option (α × List Char)}

theorem readMore_further {texts : List String} {as : List α}
    (h : List.Forall₂ (ReadsItem item) texts as) {bound : Nat} (hbound : texts.length ≤ bound)
    {rest : List Char} (hrest : ends rest = true) :
    readMore item bound (further texts ++ rest) = some (as, rest) := by
  induction h generalizing bound with
  | nil =>
    have hnil : further [] ++ rest = rest := rfl
    rw [hnil]
    cases bound with
    | zero => rfl
    | succ bound => rw [readMore, expect_of_ends hrest]
  | @cons text a texts as hread _ ih =>
    obtain ⟨bound, rfl⟩ : ∃ b, bound = b + 1 := ⟨bound - 1, by simp at hbound; omega⟩
    have hcons : further (text :: texts) ++ rest =
        ", ".toList ++ (text.toList ++ (further texts ++ rest)) := by
      simp [further]
    have hmore := ih (Nat.le_of_succ_le_succ hbound)
    rw [hcons, readMore, expect_append]
    simp only [hread.read _ (follows_further texts hrest), hmore, Option.bind_eq_bind,
      Option.bind_some]

/-- A series is read as its items, up to where it is over. -/
theorem read_joinWith {texts : List String} {as : List α}
    (h : List.Forall₂ (ReadsItem item) texts as) {rest : List Char} (hrest : ends rest = true) :
    read item ((joinWith ", " texts).toList ++ rest) = some (as, rest) := by
  cases h with
  | nil =>
    have hnil : (joinWith ", " []).toList ++ rest = rest := by simp
    rw [hnil, read, if_pos hrest]
  | @cons text a texts as hread hmore =>
    have hlength := length_le_further texts
    rw [toList_joinWith, List.append_assoc, read, hread.not_ends]
    simp only [Bool.false_eq_true, if_false, hread.read _ (follows_further texts hrest),
      Option.bind_eq_bind, Option.bind_some]
    rw [readMore_further hmore _ hrest]
    · rfl
    · simp only [List.length_append]
      omega

end SearchQL.Series
