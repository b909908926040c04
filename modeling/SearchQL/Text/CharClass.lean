/-!
# Classes of characters

Classes of characters are given by ascending lists of ranges of code points, both ends included.
The first of them is white space, the characters with the property White_Space, which surround
texts that are trimmed and separate the words of a search.

* `inRanges table n` looks a code point up, and stops at the first range that starts above it;
  `exists_of_inRanges` gives the range that it is in.
* `isBlank` is the class of white space.
* `trim` takes the white space off both ends of a text and leaves the middle as it is.
-/

namespace SearchQL

/-! ## Ranges of code points -/

/-- A list of ranges of code points, each with its first and its last member. -/
abbrev CodeRanges := List (Nat × Nat)

/-- Whether `n` is in one of the ranges, which ascend. -/
def inRanges : CodeRanges → Nat → Bool
  | [], _ => false
  | (first, last) :: rest, n =>
    if n < first then false else if n ≤ last then true else inRanges rest n

/-- What is found is in one of the ranges. -/
theorem exists_of_inRanges {table : CodeRanges} {n : Nat} (h : inRanges table n = true) :
    ∃ range ∈ table, range.1 ≤ n ∧ n ≤ range.2 := by
  induction table with
  | nil => cases h
  | cons range rest ih =>
    rw [inRanges] at h
    split at h
    case isTrue => cases h
    case isFalse hfirst =>
      split at h
      case isTrue hlast => exact ⟨range, List.mem_cons_self, Nat.le_of_not_lt hfirst, hlast⟩
      case isFalse =>
        obtain ⟨range', hmem, hin⟩ := ih h
        exact ⟨range', List.mem_cons_of_mem _ hmem, hin⟩

/-! ## White space -/

/-- The ranges of the property White_Space. -/
def blankRanges : CodeRanges :=
  [(0x9, 0xd), (0x20, 0x20), (0x85, 0x85), (0xa0, 0xa0), (0x1680, 0x1680), (0x2000, 0x200a),
   (0x2028, 0x2029), (0x202f, 0x202f), (0x205f, 0x205f), (0x3000, 0x3000)]

/-- Whether `c` is white space. -/
def isBlank (c : Char) : Bool := inRanges blankRanges c.toNat

/-! ## Trimming -/

/-- `cs` without the white space at its end. -/
def trimEnd : List Char → List Char
  | [] => []
  | c :: cs =>
    match trimEnd cs with
    | [] => if isBlank c then [] else [c]
    | rest => c :: rest

/-- `cs` without the white space at both ends. -/
def trimChars (cs : List Char) : List Char := trimEnd (cs.dropWhile isBlank)

/-- `text` without the white space at both ends. -/
def trim (text : String) : String := String.ofList (trimChars text.toList)

/-- Whether `text` holds nothing but white space. -/
def blankText (text : String) : Bool := text.toList.all isBlank

/-- Nothing is left of a text at its end exactly if it is all white space. -/
theorem trimEnd_eq_nil_iff {cs : List Char} : trimEnd cs = [] ↔ cs.all isBlank := by
  induction cs with
  | nil => simp [trimEnd]
  | cons c cs ih =>
    simp only [trimEnd, List.all_cons, Bool.and_eq_true]
    split <;> rename_i h
    · split <;> simp_all
    · constructor
      · simp
      · intro ⟨_, hcs⟩
        exact absurd (ih.2 hcs) h

end SearchQL
