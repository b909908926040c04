import SearchQL.Query.Build
import SearchQL.Query.Render

/-!
# Commands

Statements to the server that are not built from clauses. Each is a raw statement in which the
arguments are already quoted.

* `Command.statistics` asks for the statistics of the last search.
* `Command.keywords` asks how a text is split into keywords; the names of its options are checked,
  since they are not quoted.
* `Command.optimize`, `Command.flush` and `Command.truncate` look after an index.
-/

namespace SearchQL.Command

/-! ## Statistics -/

/-- The statistics of the last search, or those whose names are like a pattern. -/
def statistics : Option String → Query
  | none => .ofRaw (.ofText "SHOW META")
  | some pattern => (Query.ofRaw (.ofText "SHOW META LIKE :like")).bindRaw ":like" (.text pattern)

/-! ## Keywords -/

/-- The options that are switched on where the caller names none. -/
def defaultOptions : List String :=
  ["fold_wildcards", "fold_lemmas", "fold_blended", "expansion_limit", "stats"]

/-- Whether `name` can be the name of an option: at least one character, and only letters, digits
and low lines of ASCII. -/
def isOptionName (name : String) : Bool :=
  !name.isEmpty && name.toList.all fun c => c.isAlphanum || c == '_'

/-- The text that switches an option on. -/
def optionText (name : String) : Except Error String :=
  if isOptionName name then .ok ("1 AS " ++ name) else .error (.invalidQuery (.keywordOption name))

/-- The keywords of a text as an index sees them. -/
def keywords (text index : String) (options : List String) : Except Error Query := do
  let options ← (if options.isEmpty then defaultOptions else options).mapM optionText
  return .ofRaw <| .ofText <|
    "CALL KEYWORDS(" ++ Literal.encode text ++ ", " ++ Literal.encode index ++ ", "
      ++ joinWith ", " options ++ ")"

/-! ## Maintenance -/

/-- A command on an index, whose name is written as that of any other index. -/
def maintenance (words index : String) : Except Error Query := do
  let index ← Column.render .index (.name index)
  return .ofRaw (.ofText (words ++ " " ++ index))

/-- The index is optimized. -/
def optimize (index : String) : Except Error Query := maintenance "OPTIMIZE INDEX" index

/-- The index is written to disk. -/
def flush (index : String) : Except Error Query := maintenance "FLUSH RTINDEX" index

/-- The index is emptied. -/
def truncate (index : String) : Except Error Query := maintenance "TRUNCATE RTINDEX" index

end SearchQL.Command
