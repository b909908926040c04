import SearchQL.Error.Basic
import SearchQL.Text.Quoted

/-!
# Messages

The wording of every error: the name of its family, and the reason behind it.

* `Error.message` is the whole text. The texts of the causes are given one by one before it.
-/

namespace SearchQL

/-! ## Causes -/

/-- The wording of a conflict between rows and a sub-select. -/
def InputConflict.message : InputConflict → String
  | .rowAfterQuery => "cannot add VALUES to an INSERT that already has a sub-select"
  | .queryAfterRow => "cannot attach a sub-select to an INSERT that already has VALUES"
  | .stated reason => reason

/-- The wording of a fault in the brackets of a group. -/
def GroupFault.message : GroupFault → String
  | .noneOpen label => "end() called with no open group in " ++ label
  | .unclosed count label => toString count ++ " unclosed group(s) in " ++ label
  | .stated reason => reason

/-- The wording of what a statement reports. -/
def Report.message : Report → String
  | .insertId id => "InsertId(" ++ toString id ++ ")"
  | .affected count => "Affected(" ++ toString count ++ ")"

/-- The wording of a fault in a query. -/
def QueryFault.message : QueryFault → String
  | .noTarget statement => statement ++ " requires a target index"
  | .noAssignments => "UPDATE requires SET clauses"
  | .noText => "raw statement has no text"
  | .notFinite x => "cannot render non-finite float " ++ x.specialName
  | .bounds count => "BETWEEN needs exactly two bounds, got " ++ toString count
  | .keywordOption name => "invalid CALL KEYWORDS option " ++ Quoted.encode name
  | .noRows report => "statement returned no rows: " ++ report.message
  | .noResultSets report => "statement returned no result sets: " ++ report.message
  | .noFacets => "result sets are only returned for queries with FACET clauses"
  | .stated reason => reason

/-- The wording of a fault in a setting. -/
def SettingFault.message : SettingFault → String
  | .badValue key value => key ++ " has an invalid value: " ++ Quoted.encode value
  | .stated reason => reason

/-- The wording of a fault in the shape of a value. -/
def ShapeFault.message : ShapeFault → String
  | .missing field => "missing field `" ++ field ++ "`"
  | .otherType found expected => "invalid type: " ++ found ++ ", expected " ++ expected
  | .outOfRange number expected =>
    "invalid value: integer `" ++ toString number ++ "`, expected " ++ expected
  | .tooLong count => "invalid length " ++ toString count ++ ", expected fewer elements in array"
  | .stated reason => reason

/-! ## Errors -/

/-- The whole wording of an error. -/
def Error.message : Error → String
  | .kindConflict cause => "Kind conflict: " ++ cause.message
  | .malformedGroup cause => "Malformed condition group: " ++ cause.message
  | .unsupportedKind => "Unsupported query kind: no statement type was set on the builder"
  | .queryFailed reason code => "Query failed [" ++ toString code ++ "]: " ++ reason
  | .invalidQuery cause => "Invalid query: " ++ cause.message
  | .configuration cause => "Configuration error: " ++ cause.message
  | .transport reason => "Database error: " ++ reason
  | .serialization cause => "Serialization error: " ++ cause.message

end SearchQL
