import SearchQL.Binary64.Basic

/-!
# Errors

What can go wrong between building a statement and reading its answer, by cause. Every family of
errors with a reason also has a form in which the reason is stated, for callers, servers and
connections with causes of their own.

* `Error` is the type; `Error.code` is the number that a server gave.
-/

namespace SearchQL

/-! ## Causes -/

/-- Why rows and a sub-select cannot stand in one insertion. -/
inductive InputConflict where
  /-- A row was added to an insertion from a sub-select. -/
  | rowAfterQuery
  /-- A sub-select was attached to an insertion that has rows. -/
  | queryAfterRow
  | stated (reason : String)
deriving DecidableEq

/-- What is wrong with the brackets of a group of conditions. -/
inductive GroupFault where
  /-- A bracket was closed where none is open. -/
  | noneOpen (label : String)
  /-- Brackets were still open when the group was written. -/
  | unclosed (count : Nat) (label : String)
  | stated (reason : String)
deriving DecidableEq

/-- What a statement without rows reports. -/
inductive Report where
  /-- The number given to the inserted document. -/
  | insertId (id : Nat)
  /-- The number of rows that were affected. -/
  | affected (count : Nat)
deriving DecidableEq

/-- Why a statement cannot be written, or its answer not be read as asked. -/
inductive QueryFault where
  /-- No index was set for a statement that needs one. -/
  | noTarget (statement : String)
  /-- There is nothing to set. -/
  | noAssignments
  /-- No text was given for a raw statement. -/
  | noText
  /-- An infinity, or what is not a number, has no literal. -/
  | notFinite (x : Binary64)
  /-- A range has other than two bounds. -/
  | bounds (count : Nat)
  /-- The name of an option for keywords has characters that a name cannot have. -/
  | keywordOption (name : String)
  /-- Rows were expected. -/
  | noRows (report : Report)
  /-- Result sets were expected. -/
  | noResultSets (report : Report)
  /-- Result sets were asked of a query without facets. -/
  | noFacets
  | stated (reason : String)
deriving DecidableEq

/-- Why a setting cannot be used. -/
inductive SettingFault where
  /-- The value of a variable is no number of its width. -/
  | badValue (key value : String)
  | stated (reason : String)
deriving DecidableEq

/-- Why a data value does not have the expected shape. What is found and what is expected are given
in words. -/
inductive ShapeFault where
  /-- A field is missing. -/
  | missing (field : String)
  /-- A value is of another type. -/
  | otherType (found expected : String)
  /-- A whole number is not of the width that is expected. -/
  | outOfRange (number : Int) (expected : String)
  /-- A list has more members than there are fields. -/
  | tooLong (count : Nat)
  | stated (reason : String)
deriving DecidableEq

/-! ## Errors -/

/-- An error. -/
inductive Error where
  | kindConflict (cause : InputConflict)
  | malformedGroup (cause : GroupFault)
  /-- No kind of statement was chosen. -/
  | unsupportedKind
  /-- The server refused the statement, with a reason and a number. -/
  | queryFailed (reason : String) (code : Nat)
  | invalidQuery (cause : QueryFault)
  | configuration (cause : SettingFault)
  /-- The connection failed, and the server gave no number. -/
  | transport (reason : String)
  | serialization (cause : ShapeFault)
deriving DecidableEq

/-- The number that the server gave with its refusal. -/
def Error.code : Error → Option Nat
  | .queryFailed _ code => some code
  | _ => none

end SearchQL
