import SearchQL.Proofs.Path
import SearchQL.Proofs.Reading
import SearchQL.Proofs.Series
import SearchQL.Query.Call

/-!
# Insertions are read back

An insertion of literal values into named columns of a named index is read back from its text as a
whole: the keyword, the index, the columns in order, and the rows in order with every value in its
place. No count of columns, rows or values stands in the text.

* `Inserted` is what is read, and `Inserted.read` the reader.
* `Query.Inserts` says which queries are read back, and `Query.Inserts.inserted` as what.
* `Query.Inserts.read_insertion` is the result.
-/

namespace SearchQL

/-! ## The reader -/

/-- The keyword of an insertion. -/
def Insertion.keyword : Insertion → String
  | .insert => "INSERT INTO"
  | .replace => "REPLACE INTO"

/-- The text of an insertion, from the texts of its index, its columns and its rows. -/
def Insertion.text (insertion : Insertion) (index : String) (columns rows : List String) :
    String :=
  insertion.keyword ++ " " ++ index ++ " (" ++ joinWith ", " columns ++ ") " ++
    ("VALUES " ++ joinWith ", " rows)

/-- What an insertion says. -/
structure Inserted where
  insertion : Insertion
  target : String
  fields : List String
  rows : List (List Datum)
deriving Repr

namespace Inserted

open Series

/-- The keyword of an insertion with the blank behind it. -/
def readKeyword (cs : List Char) : Option (Insertion × List Char) :=
  match expect "INSERT INTO " cs with
  | some rest => some (.insert, rest)
  | none => (expect "REPLACE INTO " cs).map fun rest => (.replace, rest)

/-- The name of a column. -/
def readField (cs : List Char) : Option (String × List Char) :=
  (Path.readPiece cs).map fun (name, rest) => (String.ofList name, rest)

/-- A row, which is a list of data between brackets. -/
def readRow (cs : List Char) : Option (List Datum × List Char) :=
  match Datum.read cs with
  | some (.list items, rest) => some (items, rest)
  | _ => none

/-- The whole text of an insertion. -/
def read (text : String) : Option Inserted := do
  let (insertion, cs) ← readKeyword text.toList
  let (target, cs) ← Path.readSegment cs
  let cs ← expect " (" cs
  let (fields, cs) ← Series.read readField cs
  let cs ← expect ") VALUES " cs
  let (rows, cs) ← Series.read readRow cs
  if cs = [] then some ⟨insertion, String.ofList target, fields, rows⟩ else none

/-! ## What is read -/

theorem readKeyword_append (insertion : Insertion) (cs : List Char) :
    readKeyword ((insertion.keyword ++ " ").toList ++ cs) = some (insertion, cs) := by
  cases insertion with
  | insert =>
    have hkeyword : Insertion.insert.keyword ++ " " = "INSERT INTO " := rfl
    rw [hkeyword, readKeyword, expect_append]
  | replace =>
    have hkeyword : Insertion.replace.keyword ++ " " = "REPLACE INTO " := rfl
    have hother : expect "INSERT INTO " ("REPLACE INTO ".toList ++ cs) = none := rfl
    rw [hkeyword, readKeyword, hother, expect_append]
    rfl

/-- The name of a column is read, whatever it is made of. -/
theorem readsItem_field (name : String) :
    ReadsItem readField (Identifier.dotted name) name := by
  obtain ⟨c, cs, hhead, hc⟩ := Path.exists_head_dotted name
  constructor
  · intro rest
    have hclose : c ≠ ')' := by
      rcases hc with rfl | rfl
      · decide
      · decide
    simp [ends, hhead, hclose]
  · intro rest hrest
    have hfollows : Path.Follows rest := fun c hc => by
      rcases hrest c hc with rfl | rfl
      · decide
      · decide
    rw [readField, Path.readPiece_dotted name hfollows]
    simp

/-- A row is read as the data in it. -/
theorem readsItem_row {text : String} {items : List Datum}
    (h : Datum.Reads text (.list items)) : ReadsItem readRow text items := by
  obtain ⟨c, cs, hhead, hclose, -⟩ := h.exists_head
  constructor
  · intro rest
    simp [ends, hhead, hclose]
  · intro rest hrest
    have hfollows : Datum.Follows rest := fun c hc => by
      rcases hrest c hc with hc | hc
      · exact .inl hc
      · exact .inr (.inl hc)
    have hread : Datum.read (text.toList ++ rest) = some (.list items, rest) :=
      h.read _ rest (by simp) hfollows
    rw [readRow, hread]

/-- The parts of an insertion are read one after the other. -/
theorem read_text (insertion : Insertion) (target : String) (fields : List String)
    {texts : List String} {rows : List (List Datum)}
    (hrows : List.Forall₂ (ReadsItem readRow) texts rows) :
    read (insertion.text (Identifier.segment target) (fields.map Identifier.dotted) texts) =
      some ⟨insertion, target, fields, rows⟩ := by
  have hfields : List.Forall₂ (ReadsItem readField) (fields.map Identifier.dotted) fields := by
    rw [List.forall₂_map_left_iff, List.forall₂_same]
    exact fun name _ => readsItem_field name
  have htext : (insertion.text (Identifier.segment target) (fields.map Identifier.dotted)
      texts).toList = (insertion.keyword ++ " ").toList ++ ((Identifier.segment target).toList ++
        (" (".toList ++ ((joinWith ", " (fields.map Identifier.dotted)).toList ++
          (") VALUES ".toList ++ ((joinWith ", " texts).toList ++ []))))) := by
    simp [Insertion.text]
  have hticks : ∀ c ∈ (" (".toList ++ ((joinWith ", " (fields.map Identifier.dotted)).toList ++
      (") VALUES ".toList ++ ((joinWith ", " texts).toList ++ [])))).head?,
      c ≠ Identifier.tick := by
    intro c hc
    obtain rfl : ' ' = c := by simpa using hc
    decide
  have hbracket : ends (") VALUES ".toList ++ ((joinWith ", " texts).toList ++ [])) = true := rfl
  have hnil : ends [] = true := rfl
  rw [read, htext, readKeyword_append]
  simp only [Option.bind_eq_bind, Option.bind_some, Path.readSegment_segment target hticks,
    expect_append, read_joinWith hfields hbracket, read_joinWith hrows hnil, if_true,
    String.ofList_toList]

end Inserted

/-! ## Rendering -/

/-- Names of columns are quoted one by one. -/
theorem Column.renderAll_names (fields : List String) :
    Column.renderAll .column (fields.map .name) = .ok (fields.map Identifier.dotted) := by
  induction fields with
  | nil => rw [List.map_nil, Column.renderAll, List.map_nil]
  | cons name fields ih =>
    rw [List.map_cons, Column.renderAll, ih]
    rfl

/-- Rows of literal values have texts, and each is read as the data of its row. -/
theorem Value.renderRows_reads {rows : List (List Value)}
    (hrows : ∀ row ∈ rows, Value.allLiteral row) :
    ∃ texts, Value.renderRows rows = .ok texts ∧
      List.Forall₂ (Series.ReadsItem Inserted.readRow) texts (rows.map Value.data) := by
  induction rows with
  | nil => exact ⟨[], by rw [Value.renderRows], .nil⟩
  | cons row rows ih =>
    rw [List.forall_mem_cons] at hrows
    obtain ⟨texts, hrender, hreads⟩ := Value.renderAll_reads row hrows.1
    obtain ⟨rest, hrest, hreadsRest⟩ := ih hrows.2
    have hrow := Inserted.readsItem_row (.bracketed (.inr rfl) hreads)
    refine ⟨bracketed ", " texts :: rest, ?_, .cons hrow hreadsRest⟩
    rw [Value.renderRows, hrender, hrest]
    rfl

namespace Query

/-- An insertion is written behind its keyword. -/
theorem render_eq_insertion {q : Query} {insertion : Insertion}
    (hkind : q.kind = some insertion.kind) :
    q.render = q.clauses.insertion insertion.keyword := by
  rw [render, hkind]
  cases insertion <;> rfl

/-- An insertion of rows of literal values into named columns of a named index. -/
structure Inserts (q : Query) (insertion : Insertion) (target : String) (fields : List String)
    (rows : List (List Value)) : Prop where
  kind : q.kind = some insertion.kind
  target : q.target = some (.name target)
  fields : q.fields = fields.map .name
  input : q.input = .rows rows
  literal : ∀ row ∈ rows, Value.allLiteral row

namespace Inserts

variable {q : Query} {insertion : Insertion} {target : String} {fields : List String}
  {rows : List (List Value)}

/-- Such an insertion has a text, and the text is read as what is inserted. -/
theorem exists_render (h : q.Inserts insertion target fields rows) :
    ∃ text, q.render = .ok text ∧
      Inserted.read text = some ⟨insertion, target, fields, rows.map Value.data⟩ := by
  obtain ⟨texts, hrender, hreads⟩ := Value.renderRows_reads h.literal
  refine ⟨_, ?_, Inserted.read_text insertion target fields hreads⟩
  rw [render_eq_insertion h.kind, Clauses.insertion, target_clauses, h.target, fields_clauses,
    h.fields, Column.renderAll_names, input_clauses, h.input, Input.render, hrender]
  rfl

/-- **An insertion is read back from its text.** Rows of any number and length keep every value in
its place, up to truth values and further digits of floats; so insertions with the same text are
of one kind, go into one index, and have the same columns and rows. -/
theorem read_insertion (h : q.Inserts insertion target fields rows) :
    (∃ text, q.render = .ok text ∧
      Inserted.read text = some ⟨insertion, target, fields, rows.map Value.data⟩) ∧
    ∀ (q' : Query) (insertion' : Insertion) (target' : String) (fields' : List String)
      (rows' : List (List Value)), q'.Inserts insertion' target' fields' rows' →
      q.render = q'.render →
      insertion = insertion' ∧ target = target' ∧ fields = fields' ∧
        rows.map Value.data = rows'.map Value.data := by
  refine ⟨h.exists_render, fun q' insertion' target' fields' rows' h' hsame => ?_⟩
  obtain ⟨text, hrender, hread⟩ := h.exists_render
  obtain ⟨text', hrender', hread'⟩ := h'.exists_render
  obtain rfl : text = text' := by
    rw [hrender, hrender'] at hsame
    exact Except.ok.inj hsame
  rw [hread] at hread'
  simpa using hread'

end Inserts

/-- Rows that border on the text around them: an empty row, and cells that are lists and the end of
a row. -/
def borderingRows (last : Value) : List (List Value) :=
  [[], [.list [], .text "), (", .null], [.list [.int (-1), last]]]

/-- A replacement in an index and columns whose names look like the rest of the statement. -/
def bordering (last : Value) : Query :=
  empty.run [.insertInto .replace (.name "a`.* () VALUES ("),
    .fields [.name "", .name "a.*", .name "`, `)"], .rows (borderingRows last)]

theorem inserts_bordering (last : Value) (hlast : last.isLiteral) :
    (bordering last).Inserts .replace "a`.* () VALUES (" ["", "a.*", "`, `)"]
      (borderingRows last) := by
  refine ⟨rfl, rfl, rfl, rfl, ?_⟩
  simp [borderingRows, Value.allLiteral, Value.isLiteral, hlast]

/-- Two replacements with one text: a truth value is written as the text of a digit. -/
theorem read_insertion_bordering :
    (bordering (.bool true)).Inserts .replace "a`.* () VALUES (" ["", "a.*", "`, `)"]
      (borderingRows (.bool true)) ∧
    (∃ text, (bordering (.bool true)).render = .ok text ∧
      Inserted.read text = some ⟨.replace, "a`.* () VALUES (", ["", "a.*", "`, `)"],
        [[], [.list [], .text "), (", .null], [.list [.int (-1), .text "1"]]]⟩) ∧
    (bordering (.bool true)).render = (bordering (.text "1")).render ∧
    (borderingRows (.bool true)).map Value.data = (borderingRows (.text "1")).map Value.data := by
  have h := inserts_bordering (.bool true) rfl
  have h' := inserts_bordering (.text "1") rfl
  obtain ⟨hread, hsame⟩ := h.read_insertion
  obtain ⟨-, -, -, hrows⟩ := hsame _ _ _ _ _ h' rfl
  exact ⟨h, hread, rfl, hrows⟩

end Query

end SearchQL
