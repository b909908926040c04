import SearchQL.Text.CharClass
import SearchQL.Text.Join
import SearchQL.Text.LowerCase
import SearchQL.Text.WordChar

/-!
# Search text

What a user types into a search, brought into a normal form: lower case, without punctuation, and
with single spaces between the words.

* `SearchText.collapse` makes one space of every stretch of white space.
* `SearchText.clean` is the normal form.
* `SearchText` holds a cleaned text and its words; `SearchText.ofText` makes it.
-/

namespace SearchQL

/-- A cleaned text and its words. -/
structure SearchText where
  text : String
  words : List String
deriving DecidableEq, Repr

namespace SearchText

/-! ## Cleaning -/

/-- The characters that survive: those of words, and white space. -/
def isKept (c : Char) : Bool := isWord c || isBlank c

/-- The text with one space for every stretch of white space. -/
def collapse : List Char → List Char
  | [] => []
  | c :: cs =>
    if isBlank c then
      match collapse cs with
      | ' ' :: rest => ' ' :: rest
      | rest => ' ' :: rest
    else c :: collapse cs

/-- The cleaned characters of a text. -/
def cleanChars (cs : List Char) : List Char :=
  trimChars (collapse ((lowerCase cs).filter isKept))

/-- The cleaned text: lower case, no punctuation, single spaces and none at the ends. -/
def clean (text : String) : String := String.ofList (cleanChars text.toList)

/-! ## Words -/

/-- The stretches of a cleaned text between its spaces. -/
def wordsOf (text : String) : List String :=
  ((pieces ' ' text.toList).filter (· ≠ [])).map String.ofList

/-- The search for what was typed. -/
def ofText (text : String) : SearchText := ⟨clean text, wordsOf (clean text)⟩

/-- The number of words. -/
def size (s : SearchText) : Nat := s.words.length

end SearchText

end SearchQL
