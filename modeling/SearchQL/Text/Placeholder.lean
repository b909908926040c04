/-!
# Placeholders

Replacement of placeholders by texts in one pass from the left. Where several placeholders match,
the longest is taken, and what was put in is not looked at again.

* `Placeholder.longestFirst` orders the replacements by the size of their placeholders in bytes, so
  that the first match is the longest one.
* `Placeholder.replaceFrom` goes through the text. It carries the number of characters that the
  last placeholder still covers, so that it can walk character by character.
* `Placeholder.replace` does both.
-/

namespace SearchQL.Placeholder

/-- A placeholder and the text that replaces it. -/
abbrev Replacement := List Char × List Char

/-- The number of bytes that `cs` takes in UTF-8. -/
def size : List Char → Nat
  | [] => 0
  | c :: cs => c.utf8Size + size cs

/-- The replacements with one more, which stands before those that are not larger. -/
def insertBySize (r : Replacement) : List Replacement → List Replacement
  | [] => [r]
  | s :: rest => if size s.1 ≤ size r.1 then r :: s :: rest else s :: insertBySize r rest

/-- The replacements in descending order of the size of their placeholders. -/
def longestFirst : List Replacement → List Replacement
  | [] => []
  | r :: rest => insertBySize r (longestFirst rest)

/-- The first replacement whose placeholder stands at the start of `cs`. -/
def matching? (replacements : List Replacement) (cs : List Char) : Option Replacement :=
  replacements.find? fun r => r.1.isPrefixOf cs

/-- The text with its placeholders replaced, after `covered` characters that belong to a
placeholder already replaced. -/
def replaceFrom (replacements : List Replacement) : Nat → List Char → List Char
  | _, [] => []
  | covered + 1, _ :: cs => replaceFrom replacements covered cs
  | 0, c :: cs =>
    match matching? replacements (c :: cs) with
    | some (key, text) => text ++ replaceFrom replacements (key.length - 1) cs
    | none => c :: replaceFrom replacements 0 cs

/-- The text with its placeholders replaced. -/
def replace (replacements : List (String × String)) (text : String) : String :=
  String.ofList <| replaceFrom
    (longestFirst (replacements.map fun r => (r.1.toList, r.2.toList))) 0 text.toList

/-- Without replacements a text stays as it is. -/
theorem replaceFrom_nil (cs : List Char) : replaceFrom [] 0 cs = cs := by
  induction cs with
  | nil => rfl
  | cons c cs ih => simp [replaceFrom, matching?, ih]

end SearchQL.Placeholder
