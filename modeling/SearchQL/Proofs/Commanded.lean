import SearchQL.Command
import SearchQL.Proofs.Path
import SearchQL.Proofs.Reading
import SearchQL.Proofs.Series
import SearchQL.Proofs.Success

/-!
# Commands are read back

A command is one text with its arguments in it, each quoted in the way of its place: texts and
patterns as literals, the index of a task between back-ticks, and options not at all, which is why
their names are checked. Whoever reads the text finds the arguments as they were given.

* `Commanded` is what a command says, and `Commanded.read` the reader.
* `Commanded.IsOption` says which names options have; `Command.succeeds_keywords_iff` and
  `Command.keywords_eq_error_iff` say when they are refused.
* `Command.render_statistics` says that a pattern is put in for its placeholder and left alone.
* `Command.commands_read_back` is the result.
-/

namespace SearchQL

/-! ## The reader -/

/-- What is done with an index. -/
inductive Task where
  | optimize
  | flush
  | truncate
deriving DecidableEq, Repr

/-- The keywords of a task. -/
def Task.keywords : Task → String
  | .optimize => "OPTIMIZE INDEX"
  | .flush => "FLUSH RTINDEX"
  | .truncate => "TRUNCATE RTINDEX"

/-- The command for a task. -/
def Task.command : Task → String → Except Error Query
  | .optimize => Command.optimize
  | .flush => Command.flush
  | .truncate => Command.truncate

/-- A task can be done with every index. -/
theorem Task.command_eq_ok (task : Task) (index : String) : task.command index =
    .ok (.ofRaw (.ofText (task.keywords ++ " " ++ Identifier.segment index))) := by
  cases task <;> rfl

/-- What a command says. -/
inductive Commanded where
  /-- The statistics are asked for, all or those like a pattern. -/
  | statistics (pattern : Option String)
  /-- The keywords of a text in an index are asked for, with these options switched on. -/
  | keywords (text index : String) (options : List String)
  | task (task : Task) (index : String)
deriving DecidableEq, Repr

namespace Commanded

open Series

/-- A letter of ASCII, a digit of ASCII or a low line. -/
def isOptionChar (c : Char) : Bool :=
  ('a' ≤ c && c ≤ 'z') || ('A' ≤ c && c ≤ 'Z') || ('0' ≤ c && c ≤ '9') || c == '_'

/-- Whether a text is the name of an option: one or more letters, digits and low lines. -/
def IsOption (name : String) : Prop := name ≠ "" ∧ ∀ c ∈ name.toList, isOptionChar c = true

/-- A text between single quotes. -/
def readLiteral (cs : List Char) : Option (String × List Char) := do
  let cs ← expect "'" cs
  let (content, rest) ← Datum.readQuoted cs
  some (String.ofList content, rest)

/-- An option that is switched on. -/
def readOption (cs : List Char) : Option (String × List Char) := do
  let cs ← expect "1 AS " cs
  let name := cs.takeWhile isOptionChar
  if name = [] then none else some (String.ofList name, cs.dropWhile isOptionChar)

/-- What is asked about keywords, behind the opening bracket. -/
def readKeywords (cs : List Char) : Option Commanded := do
  let (text, cs) ← readLiteral cs
  let cs ← expect ", " cs
  let (index, cs) ← readLiteral cs
  let cs ← expect ", " cs
  let (options, cs) ← Series.read readOption cs
  let cs ← expect ")" cs
  if cs = [] then some (.keywords text index options) else none

/-- Which statistics are asked for. -/
def readStatistics (cs : List Char) : Option Commanded :=
  if cs = [] then some (.statistics none)
  else do
    let cs ← expect " LIKE " cs
    let (pattern, cs) ← readLiteral cs
    if cs = [] then some (.statistics (some pattern)) else none

/-- The index of a task. -/
def readIndex (task : Task) (cs : List Char) : Option Commanded := do
  let (index, cs) ← Path.readSegment cs
  if cs = [] then some (.task task (String.ofList index)) else none

/-- How commands begin, and how each of them is read from there. -/
def forms : List (String × (List Char → Option Commanded)) :=
  [("CALL KEYWORDS(", readKeywords), ("SHOW META", readStatistics),
    ("OPTIMIZE INDEX ", readIndex .optimize), ("FLUSH RTINDEX ", readIndex .flush),
    ("TRUNCATE RTINDEX ", readIndex .truncate)]

/-- The whole text of a command. -/
def read (text : String) : Option Commanded :=
  forms.findSome? fun form => (expect form.1 text.toList).bind form.2

/-! ## What is read -/

/-- Commands are told apart by how they begin. -/
theorem forms_apart :
    forms.Pairwise fun form form' => ∀ rest, expect form.1 (form'.1.toList ++ rest) = none := by
  simp only [forms, List.pairwise_cons, List.forall_mem_cons, List.not_mem_nil, false_imp_iff,
    implies_true, and_true, List.Pairwise.nil]
  refine ⟨⟨?_, ?_, ?_, ?_⟩, ⟨?_, ?_, ?_⟩, ⟨?_, ?_⟩, ?_⟩
  all_goals exact fun rest => rfl

/-- A command is read in the form that it begins with. -/
theorem read_append {word : String} {form : List Char → Option Commanded}
    (hform : (word, form) ∈ forms) {rest : String} {said : Commanded}
    (h : form rest.toList = some said) : read (word ++ rest) = some said := by
  obtain ⟨before, after, hforms⟩ := List.append_of_mem hform
  have happart := forms_apart
  rw [hforms, List.pairwise_append] at happart
  rw [read, List.findSome?_eq_some_iff]
  refine ⟨before, (word, form), after, hforms, ?_, fun other hother => ?_⟩
  · rw [String.toList_append, expect_append]
    exact h
  · rw [String.toList_append, happart.2.2 other hother (word, form) List.mem_cons_self]
    rfl

theorem readLiteral_encode (text : String) (rest : List Char) :
    readLiteral ((Literal.encode text).toList ++ rest) = some (text, rest) := by
  have htext : (Literal.encode text).toList ++ rest =
      "'".toList ++ (Literal.escape text.toList ++ '\'' :: rest) := by simp
  rw [readLiteral, htext, expect_append]
  simp [Datum.readQuoted_escape]

/-- An option is read up to the comma or the bracket behind it. -/
theorem readsItem_option {name : String} (h : IsOption name) :
    ReadsItem readOption ("1 AS " ++ name) name := by
  refine ⟨fun rest => by simp [ends], fun rest hrest => ?_⟩
  have hends : ∀ c ∈ rest.head?, isOptionChar c = false := by
    intro c hc
    rcases hrest c hc with rfl | rfl
    · decide
    · decide
  have hne : name.toList ≠ [] := by simpa using h.1
  obtain ⟨htake, hdrop⟩ := Datum.span_append h.2 hends
  rw [readOption, String.toList_append, List.append_assoc, expect_append]
  simp only [Option.bind_eq_bind, Option.bind_some, htake, hdrop, if_neg hne, String.ofList_toList]

theorem readKeywords_text (text index : String) {options : List String}
    (h : ∀ option ∈ options, IsOption option) :
    readKeywords (Literal.encode text ++ ", " ++ Literal.encode index ++ ", " ++
      joinWith ", " (options.map ("1 AS " ++ ·)) ++ ")").toList =
        some (.keywords text index options) := by
  have hoptions : List.Forall₂ (ReadsItem readOption) (options.map ("1 AS " ++ ·)) options := by
    rw [List.forall₂_map_left_iff, List.forall₂_same]
    exact fun option hoption => readsItem_option (h option hoption)
  have htext : (Literal.encode text ++ ", " ++ Literal.encode index ++ ", " ++
      joinWith ", " (options.map ("1 AS " ++ ·)) ++ ")").toList =
        (Literal.encode text).toList ++ (", ".toList ++ ((Literal.encode index).toList ++
          (", ".toList ++ ((joinWith ", " (options.map ("1 AS " ++ ·))).toList ++
            (")".toList ++ []))))) := by
    simp only [String.toList_append, List.append_assoc, List.append_nil]
  have hbracket : ends (")".toList ++ []) = true := rfl
  rw [readKeywords, htext]
  simp only [Option.bind_eq_bind, Option.bind_some, readLiteral_encode, expect_append,
    read_joinWith hoptions hbracket, if_true]

theorem readStatistics_pattern (pattern : String) :
    readStatistics (" LIKE " ++ Literal.encode pattern).toList =
      some (.statistics (some pattern)) := by
  have hread := readLiteral_encode pattern []
  rw [List.append_nil] at hread
  have hne : " LIKE ".toList ++ (Literal.encode pattern).toList ≠ [] := by simp
  rw [readStatistics, String.toList_append, if_neg hne, expect_append]
  simp only [Option.bind_eq_bind, Option.bind_some, hread, if_true]

theorem readIndex_segment (task : Task) (index : String) :
    readIndex task (Identifier.segment index).toList = some (.task task index) := by
  have hread : Path.readSegment ((Identifier.segment index).toList ++ []) = _ :=
    Path.readSegment_segment index nofun
  rw [List.append_nil] at hread
  rw [readIndex, hread]
  simp

end Commanded

namespace Command

open Commanded

/-! ## Options -/

theorem isOptionName_iff {name : String} : isOptionName name = true ↔ IsOption name := by
  have hchar (c : Char) : (c.isAlphanum || c == '_') = isOptionChar c := by
    have hlower : c.isLower = ('a' ≤ c && c ≤ 'z') := rfl
    have hupper : c.isUpper = ('A' ≤ c && c ≤ 'Z') := Bool.decide_and _ _
    have hdigit : c.isDigit = ('0' ≤ c && c ≤ '9') := rfl
    have halphanum : c.isAlphanum = (c.isUpper || c.isLower || c.isDigit) := rfl
    rw [isOptionChar, halphanum, hlower, hupper, hdigit, Bool.or_comm ('A' ≤ c && c ≤ 'Z')]
  simp [isOptionName, IsOption, hchar]

theorem optionText_eq_ok {name : String} (h : IsOption name) :
    optionText name = .ok ("1 AS " ++ name) := if_pos (isOptionName_iff.2 h)

theorem optionText_eq_error {name : String} (h : ¬ IsOption name) :
    optionText name = .error (.invalidQuery (.keywordOption name)) :=
  if_neg (mt isOptionName_iff.1 h)

theorem succeeds_optionText_iff {name : String} : Succeeds (optionText name) ↔ IsOption name := by
  by_cases h : IsOption name
  · simp [optionText_eq_ok h, h]
  · simp [optionText_eq_error h, h]

/-- The options that are switched on: those that are given, or those of a list of their own. -/
def wanted (options : List String) : List String :=
  if options.isEmpty then defaultOptions else options

theorem wanted_of_ne_nil {options : List String} (h : options ≠ []) : wanted options = options := by
  rw [wanted, if_neg (by simpa using h)]

/-- No option is refused that nobody has given. -/
theorem isOption_wanted_iff {options : List String} :
    (∀ option ∈ wanted options, IsOption option) ↔ ∀ option ∈ options, IsOption option := by
  cases options with
  | nil =>
    have hdefault : defaultOptions.all isOptionName = true := by decide
    have hall : ∀ option ∈ defaultOptions, IsOption option := fun option hoption =>
      isOptionName_iff.1 (List.all_eq_true.1 hdefault option hoption)
    exact ⟨fun _ => List.forall_mem_nil _, fun _ => hall⟩
  | cons option options => rw [wanted_of_ne_nil (List.cons_ne_nil _ _)]

/-! ## Keywords -/

/-- The text that asks for keywords. -/
def keywordsText (text index : String) (options : List String) : String :=
  "CALL KEYWORDS(" ++ (Literal.encode text ++ ", " ++ Literal.encode index ++ ", " ++
    joinWith ", " (options.map ("1 AS " ++ ·)) ++ ")")

theorem keywords_eq (text index : String) (options : List String) :
    keywords text index options = ((wanted options).mapM optionText).map fun options =>
      .ofRaw (.ofText ("CALL KEYWORDS(" ++ (Literal.encode text ++ ", " ++ Literal.encode index ++
        ", " ++ joinWith ", " options ++ ")"))) := by
  rw [keywords, wanted]
  cases (if options.isEmpty then defaultOptions else options).mapM optionText with
  | error e => rfl
  | ok options =>
    refine congrArg (fun text => Except.ok (Query.ofRaw (.ofText text))) ?_
    simp only [String.append_assoc]

/-- Keywords are asked for as one text, in which every option is switched on. -/
theorem keywords_eq_ok (text index : String) {options : List String}
    (h : ∀ option ∈ options, IsOption option) :
    keywords text index options =
      .ok (.ofRaw (.ofText (keywordsText text index (wanted options)))) := by
  have htexts : (wanted options).mapM optionText = .ok ((wanted options).map ("1 AS " ++ ·)) := by
    refine (ok_list_iff (r := List.mapM optionText) rfl fun _ _ => List.mapM_cons).2 ?_
    rw [List.forall₂_map_right_iff, List.forall₂_same]
    exact fun option hoption => optionText_eq_ok (isOption_wanted_iff.2 h option hoption)
  rw [keywords_eq, htexts]
  rfl

/-- The first option that is no name is refused, and named in the error. -/
theorem keywords_eq_error_iff {text index : String} {options : List String} {e : Error} :
    keywords text index options = .error e ↔ ∃ before option after,
      options = before ++ option :: after ∧ (∀ earlier ∈ before, IsOption earlier) ∧
        ¬ IsOption option ∧ e = .invalidQuery (.keywordOption option) := by
  cases options with
  | nil =>
    have hok := keywords_eq_ok text index (List.forall_mem_nil IsOption)
    rw [hok]
    refine ⟨nofun, ?_⟩
    rintro ⟨before, option, after, hnil, -⟩
    exact absurd hnil (List.append_ne_nil_of_right_ne_nil _ (List.cons_ne_nil _ _)).symm
  | cons first options =>
    have hrefused (option : String) : optionText option = .error e ↔
        ¬ IsOption option ∧ e = .invalidQuery (.keywordOption option) := by
      by_cases h : IsOption option
      · simp [optionText_eq_ok h, h]
      · simp [optionText_eq_error h, h, eq_comm]
    rw [keywords_eq, wanted_of_ne_nil (List.cons_ne_nil _ _), error_map_iff,
      error_list_iff (r := List.mapM optionText) rfl fun _ _ => List.mapM_cons]
    simp only [succeeds_optionText_iff, hrefused]

/-- Keywords are asked for exactly if every option that is given is a name. -/
theorem succeeds_keywords_iff {text index : String} {options : List String} :
    Succeeds (keywords text index options) ↔ ∀ option ∈ options, IsOption option := by
  rw [keywords_eq, succeeds_map, ← isOption_wanted_iff]
  refine (succeeds_list (r := List.mapM optionText) ⟨[], rfl⟩ (fun option options => ?_) _)
  rw [List.mapM_cons, succeeds_both, succeeds_optionText_iff]

/-! ## Statistics -/

/-- A pattern is quoted and put in for its placeholder, and not looked at again. -/
theorem render_statistics (pattern : String) :
    (statistics (some pattern)).render =
      .ok ("SHOW META" ++ (" LIKE " ++ Literal.encode pattern)) := by
  have hpass (cs : List Char) :
      Placeholder.replaceFrom [(":like".toList, cs)] 0 "SHOW META LIKE :like".toList =
        "SHOW META LIKE ".toList ++ (cs ++ []) := rfl
  have hrender : (statistics (some pattern)).render =
      .ok (String.ofList (Placeholder.replaceFrom
        [(":like".toList, (Literal.encode pattern).toList)] 0 "SHOW META LIKE :like".toList)) :=
    rfl
  rw [hrender, hpass, List.append_nil]
  refine congrArg Except.ok ?_
  simp [← String.toList_inj]

/-! ## The result -/

/-- A raw statement without values for placeholders is its text. -/
theorem render_ofText (text : String) : (Query.ofRaw (.ofText text)).render = .ok text := rfl

/-- **Commands carry their arguments as they were given.** Keywords are asked for exactly if every
option that is given is a name; the first one that is none is named in the error. What is asked is
a plain text, without values for placeholders, and it is read as the text, the index and the options
in order. A pattern for statistics is read as it was given, whatever placeholders it has in it. A
task always has a text, the keywords of the task and the index quoted as a whole, and it is read as
the task and the index. -/
theorem commands_read_back (text index : String) (options : List String) (pattern : Option String) :
    (Succeeds (keywords text index options) ↔ ∀ option ∈ options, IsOption option) ∧
    (∀ e, keywords text index options = .error e ↔ ∃ before option after,
      options = before ++ option :: after ∧ (∀ earlier ∈ before, IsOption earlier) ∧
        ¬ IsOption option ∧ e = .invalidQuery (.keywordOption option)) ∧
    (∀ q, keywords text index options = .ok q → ∃ sql, q = .ofRaw (.ofText sql) ∧
      q.render = .ok sql ∧ read sql = some (.keywords text index (wanted options))) ∧
    (statistics pattern).kind = some .raw ∧
    (∃ sql, (statistics pattern).render = .ok sql ∧ read sql = some (.statistics pattern)) ∧
    ∀ task : Task, ∃ name sql q, Column.render .index (.name index) = .ok name ∧
      sql = task.keywords ++ " " ++ name ∧ task.command index = .ok q ∧ q = .ofRaw (.ofText sql) ∧
      q.render = .ok sql ∧ read sql = some (.task task index) := by
  refine ⟨succeeds_keywords_iff, fun e => keywords_eq_error_iff, fun q hq => ?_, ?_, ?_,
    fun task => ?_⟩
  · have hoptions : ∀ option ∈ options, IsOption option := succeeds_keywords_iff.1 ⟨q, hq⟩
    rw [keywords_eq_ok text index hoptions] at hq
    refine ⟨keywordsText text index (wanted options), (Except.ok.inj hq).symm, ?_, ?_⟩
    · rw [← Except.ok.inj hq, render_ofText]
    · have hform : ("CALL KEYWORDS(", readKeywords) ∈ forms := List.mem_cons_self
      exact read_append hform (readKeywords_text text index (isOption_wanted_iff.2 hoptions))
  · cases pattern <;> rfl
  · cases pattern with
    | none => exact ⟨"SHOW META", rfl, by decide⟩
    | some pattern =>
      have hform : ("SHOW META", readStatistics) ∈ forms := by simp [forms]
      exact ⟨_, render_statistics pattern, read_append hform (readStatistics_pattern pattern)⟩
  · have hform : (task.keywords ++ " ", readIndex task) ∈ forms := by
      cases task <;> simp [forms, Task.keywords]
    exact ⟨Identifier.segment index, _, _, rfl, rfl, task.command_eq_ok index, rfl,
      render_ofText _, read_append hform (readIndex_segment task index)⟩

/-- A text that would end its literal, a pattern that is its own placeholder, and an option that
would close the bracket. -/
theorem commands_read_back_closing :
    (∃ q sql, keywords "o'reilly" "books" ["stats"] = .ok q ∧ q.render = .ok sql ∧
      read sql = some (.keywords "o'reilly" "books" ["stats"])) ∧
    keywords "o'reilly" "books" ["stats", "stats) --"] =
      .error (.invalidQuery (.keywordOption "stats) --")) ∧
    (statistics (some ":like'")).render = .ok "SHOW META LIKE ':like\\''" ∧
    read "SHOW META LIKE ':like\\''" = some (.statistics (some ":like'")) := by
  have hname : IsOption "stats" := isOptionName_iff.1 (by decide)
  have hnot : ¬ IsOption "stats) --" := mt isOptionName_iff.2 (by decide)
  obtain ⟨hsucceeds, -, hkeywords, -, hstatistics, -⟩ :=
    commands_read_back "o'reilly" "books" ["stats"] (some ":like'")
  have hrefused := (commands_read_back "o'reilly" "books" ["stats", "stats) --"] none).2.1
  refine ⟨?_, (hrefused _).2 ⟨["stats"], _, [], rfl, by simpa using hname, hnot, rfl⟩, ?_⟩
  · obtain ⟨q, hq⟩ := hsucceeds.2 (by simpa using hname)
    obtain ⟨sql, -, hrender, hread⟩ := hkeywords q hq
    exact ⟨q, sql, hq, hrender, hread⟩
  · obtain ⟨sql, hrender, hread⟩ := hstatistics
    have hsql : sql = "SHOW META LIKE ':like\\''" := by
      have htext : (statistics (some ":like'")).render = .ok "SHOW META LIKE ':like\\''" := by
        decide +kernel
      exact Except.ok.inj (hrender.symm.trans htext)
    subst hsql
    exact ⟨hrender, hread⟩

end Command

end SearchQL
