/-!
# Literals and full-text terms

A text becomes a literal by standing between single quotes, with a backslash before every
character that would end the literal or that the server reads in a special way. Inside a full-text
query fifteen other characters are operators, and a term that is plain text is written with a
backslash before each of them, so that it can only match literally.

* `Literal.escapeChar` is the rule for one character of a literal: seven characters are written as
  two. `Literal.encode` escapes every character and adds the quotes.
* `FullText.escapeChar` is the rule for one character of a term, and `FullText.encode` escapes
  every character.
-/

namespace SearchQL

/-! ## Literals -/

namespace Literal

/-- The characters that stand for `c` inside a literal. Backslash and both quotes keep their own
shape behind the backslash; the four control characters get a letter or a digit. -/
def escapeChar (c : Char) : List Char :=
  if c = '\\' then ['\\', '\\']
  else if c = '\'' then ['\\', '\'']
  else if c = '"' then ['\\', '"']
  else if c = '\x00' then ['\\', '0']
  else if c = '\n' then ['\\', 'n']
  else if c = '\r' then ['\\', 'r']
  else if c = '\x1a' then ['\\', 'Z']
  else [c]

/-- The characters between the quotes. -/
def escape (cs : List Char) : List Char := cs.flatMap escapeChar

/-- The literal whose content is `text`. -/
def encode (text : String) : String := String.ofList ('\'' :: (escape text.toList ++ ['\'']))

@[simp] theorem escape_nil : escape [] = [] := rfl

@[simp] theorem escape_cons (c : Char) (cs : List Char) :
    escape (c :: cs) = escapeChar c ++ escape cs := rfl

@[simp] theorem escape_append (cs ds : List Char) : escape (cs ++ ds) = escape cs ++ escape ds := by
  simp [escape]

@[simp] theorem toList_encode (text : String) :
    (encode text).toList = '\'' :: (escape text.toList ++ ['\'']) := by
  simp [encode]

end Literal

/-! ## Full-text terms -/

namespace FullText

/-- The characters that have a meaning of their own in a full-text query. -/
def operators : List Char :=
  ['\\', '(', ')', '|', '-', '!', '@', '~', '"', '&', '/', '^', '$', '=', '<']

/-- An operator character is written behind a backslash. -/
def escapeChar (c : Char) : List Char := if c ∈ operators then ['\\', c] else [c]

/-- The characters of a term that matches `cs` literally. -/
def escape (cs : List Char) : List Char := cs.flatMap escapeChar

/-- The term that matches `text` literally. -/
def encode (text : String) : String := String.ofList (escape text.toList)

@[simp] theorem toList_encode (text : String) : (encode text).toList = escape text.toList := by
  simp [encode]

end FullText

end SearchQL
