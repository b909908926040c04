import SearchQL.Decimal
import SearchQL.Json
import SearchQL.SearchText

/-!
# Search statistics

After a search the server can be asked for statistics, which come as rows with a name and a value.
Among them are the keywords of the search, by position, and in how many documents each was found.

* `Statistics.ofRows` gathers the rows; later rows replace earlier ones of the same name, and rows
  without a name or a value are passed over.
* `SearchText.missing` lists the keywords that were found in no document.
-/

namespace SearchQL

/-! ## Gathering -/

/-- Statistics by name, in ascending order of the names. -/
abbrev Statistics := List (String × String)

namespace Statistics

/-- The text of a value: texts are taken as they are. -/
def valueText : Json → String
  | .text s => s
  | value => value.compact

/-- The name and the value of a row that has both; the name has to be a text. -/
def entry? (row : Row) : Option (String × String) := do
  let name ← (← Dict.get? "Variable_name" row).text?
  let value ← Dict.get? "Value" row
  return (name, valueText value)

/-- The statistics in the rows of an answer. -/
def ofRows (rows : List Row) : Statistics := Dict.ofList (rows.filterMap entry?)

end Statistics

/-! ## Missing keywords -/

namespace SearchText

/-- The name of the keyword at a position. -/
def keywordName (i : Nat) : String := "keyword[" ++ toString i ++ "]"

/-- The name of the number of documents that have the keyword at a position. -/
def documentsName (i : Nat) : String := "docs[" ++ toString i ++ "]"

/-- Whether the text of a count denotes zero. White space around the number is passed over, and
what is no number of 64 bits denotes nothing. -/
def isZeroCount (text : String) : Bool :=
  Decimal.unsigned? UInt64.size (trimChars text.toList) == some 0

/-- Whether a keyword stands for an exact form or for a stem, as the server writes keywords that
it has expanded. -/
def isExpansion (keyword : String) : Bool :=
  match keyword.toList with
  | c :: _ => c == '=' || c == '*'
  | [] => false

/-- The keyword at a position if no document has it. In expanded searches the keywords that the
server added are passed over. -/
def missingAt? (statistics : Statistics) (expanded : Bool) (i : Nat) : Option String := do
  let keyword ← Dict.get? (keywordName i) statistics
  let count ← Dict.get? (documentsName i) statistics
  if isZeroCount count && !(expanded && isExpansion keyword) then some keyword else none

/-- The keywords of the search that are in no document, in the order of their positions. -/
def missing (statistics : Statistics) (expanded : Bool) (s : SearchText) : List String :=
  (List.range s.size).filterMap (missingAt? statistics expanded)

end SearchText

end SearchQL
