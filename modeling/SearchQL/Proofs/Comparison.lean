import SearchQL.Proofs.Descent
import SearchQL.Proofs.Path
import SearchQL.Proofs.Reading

/-!
# Conditions are read back

A condition on a named column whose value is a literal is read back from its text: the name, the
operator and the datum of the value. The two bounds of a range are read as a list of two.

* `Comparison` is what is read, and `Comparison.read` the reader.
* `Condition.IsReadable` says which conditions are read back, and `Condition.comparison` as what.
* `Condition.exists_render` is the result.
-/

namespace SearchQL

/-! ## The reader -/

/-- What a condition says. -/
structure Comparison where
  column : String
  operator : Operator
  /-- The datum on the right; a range is the list of its bounds. -/
  operand : Datum
deriving Repr

namespace Comparison

/-- The blank between the parts of a condition. -/
def readBlank : List Char → Option (List Char)
  | ' ' :: cs => some cs
  | _ => none

/-- A named operator with the blank behind it. An operator that another one begins with stands
before that one in the list of the named ones, so the list is tried from its end. -/
def readOperator (cs : List Char) : Option (Operator × List Char) :=
  (Operator.named.reverse.find? fun op => (op.symbol.toList ++ [' ']).isPrefixOf cs).map fun op =>
    (op, cs.drop (op.symbol.toList.length + 1))

/-- Two bounds with AND between them. -/
def readRange (cs : List Char) : Option (Datum × List Char) := do
  let (low, rest) ← Datum.read cs
  match Forest.readJoint rest with
  | some (.and, rest) => do
    let (high, rest) ← Datum.read rest
    some (.list [low, high], rest)
  | _ => none

/-- What stands behind an operator. -/
def readOperand (op : Operator) (cs : List Char) : Option (Datum × List Char) :=
  if op = .between then readRange cs else Datum.read cs

/-- A condition, and what stands behind it. -/
def read (cs : List Char) : Option (Comparison × List Char) := do
  let (name, rest) ← Path.readPiece cs
  let rest ← readBlank rest
  let (op, rest) ← readOperator rest
  let (operand, rest) ← readOperand op rest
  some (⟨String.ofList name, op, operand⟩, rest)

end Comparison

/-! ## Readable conditions -/

/-- The name of a column without its second names. A sub-query and a template have no name. -/
def Column.baseName (column : Column) : String :=
  match column.base with
  | .name n => n
  | _ => ""

namespace Condition

/-- A named operator between a named column and a literal, which is a pair of bounds if the
operator is a range. -/
structure IsReadable (c : Condition) : Prop where
  column : ∃ name, c.column.base = .name name ∧ name ≠ ""
  operator : c.operator ∈ Operator.named
  value : c.value.isLiteral
  bounds : c.operator = .between → ∃ low high, c.value = .list [low, high]

/-- What is read from the text of a condition: NULL has operators of its own, and second names are
not written. -/
def comparison (c : Condition) : Comparison :=
  ⟨c.column.baseName, c.operator.before c.value, c.value.datum⟩

/-- The text of a condition that has one. -/
def text (c : Condition) : String :=
  match c.render with
  | .ok text => text
  | .error _ => ""

end Condition

/-- Before an operator a column is its name, whatever its second names are. -/
theorem Column.render_predicate (column : Column) {name : String} (h : column.base = .name name) :
    column.render .predicate = .ok (Place.predicate.name name) := by
  cases column with
  | name name' =>
    obtain rfl : name' = name := by simpa [Column.base] using h
    rw [Column.render]
  | aliased column label =>
    rw [Column.render, Column.render_predicate column (by simpa [Column.base] using h)]
    simp [Except.map, Place.label]
  | template t => simp [Column.base] at h
  | query q => simp [Column.base] at h

/-! ## Operators and operands -/

namespace Comparison

/-- A named operator is read, unless what follows it begins like NOT. -/
theorem readOperator_symbol {op : Operator} (hop : op ∈ Operator.named) {cs : List Char}
    (hcs : ¬ ['N', 'O'] <+: cs) :
    readOperator (op.symbol.toList ++ ' ' :: cs) = some (op, cs) := by
  have hnot : ['N', 'O', 'T', ' '].isPrefixOf cs = false := by
    rw [Bool.eq_false_iff, Ne, List.isPrefixOf_iff_prefix]
    exact fun h => hcs (List.IsPrefix.trans (by decide) h)
  simp only [Operator.named, List.mem_cons, List.not_mem_nil, or_false] at hop
  rcases hop with rfl | rfl | rfl | rfl | rfl | rfl | rfl | rfl | rfl | rfl | rfl | rfl
  all_goals
    simp [readOperator, Operator.named, Operator.eq, Operator.ne, Operator.lt, Operator.le,
      Operator.gt, Operator.ge, Operator.inList, Operator.notInList, Operator.between,
      Operator.like, Operator.is, Operator.isNot, hnot]

/-- A text is read as the datum on the right of an operator. -/
structure ReadsOperand (op : Operator) (text : String) (d : Datum) : Prop where
  edged : Edged text
  not_no : ∀ rest, ¬ ['N', 'O'] <+: text.toList ++ rest
  read : ∀ rest, Datum.Follows rest → readOperand op (text.toList ++ rest) = some (d, rest)

theorem ReadsOperand.of_reads {op : Operator} {text : String} {d : Datum} (hop : op ≠ .between)
    (h : Datum.Reads text d) : ReadsOperand op text d := by
  refine ⟨h.edged, h.not_no, fun rest hrest => ?_⟩
  rw [readOperand, if_neg hop]
  exact h.read _ rest (by simp) hrest

/-- The AND between two bounds is not taken for the AND behind a condition. -/
theorem ReadsOperand.range {low high : String} {d d' : Datum} (hlow : Datum.Reads low d)
    (hhigh : Datum.Reads high d') :
    ReadsOperand .between (low ++ " AND " ++ high) (.list [d, d']) := by
  have htext : ∀ rest, (low ++ " AND " ++ high).toList ++ rest =
      low.toList ++ (' ' :: 'A' :: 'N' :: 'D' :: ' ' :: (high.toList ++ rest)) := by
    intro rest
    simp
  refine ⟨hlow.edged.append _ hhigh.edged, fun rest => ?_, fun rest hrest => ?_⟩
  · rw [htext]
    exact hlow.not_no _
  · have hread : Datum.read (low.toList ++ (' ' :: 'A' :: 'N' :: 'D' :: ' ' ::
        (high.toList ++ rest))) = some (d, ' ' :: 'A' :: 'N' :: 'D' :: ' ' ::
          (high.toList ++ rest)) := hlow.read _ _ (by simp) (by simp [Datum.Follows])
    have hread' : Datum.read (high.toList ++ rest) = some (d', rest) :=
      hhigh.read _ rest (by simp) hrest
    rw [htext, readOperand, if_pos rfl, readRange, hread]
    simp only [Option.bind_eq_bind, Option.bind_some, Forest.readJoint, hread']

/-- A name, an operator and an operand with blanks between them are read. -/
theorem read_text (name : String) {op : Operator} (hop : op ∈ Operator.named) {operand : String}
    {d : Datum} (h : ReadsOperand op operand d) :
    Forest.ReadsClause read (Identifier.dotted name ++ " " ++ op.symbol ++ " " ++ operand)
      ⟨name, op, d⟩ := by
  have htext : ∀ rest,
      (Identifier.dotted name ++ " " ++ op.symbol ++ " " ++ operand).toList ++ rest =
        (Identifier.dotted name).toList ++ (' ' ::
          (op.symbol.toList ++ ' ' :: (operand.toList ++ rest))) := by
    intro rest
    simp
  constructor
  · obtain ⟨c, cs, hhead, hc⟩ := Path.exists_head_dotted name
    have hcons := htext []
    rw [List.append_nil, hhead, List.cons_append] at hcons
    refine ⟨c, _, hcons, ?_⟩
    rcases hc with rfl | rfl
    · decide
    · decide
  · intro rest hrest
    have hfollows : Datum.Follows rest := fun c hc => .inr (hrest c hc)
    have hblank : Path.Follows (' ' :: (op.symbol.toList ++ ' ' :: (operand.toList ++ rest))) := by
      intro c hc
      obtain rfl : ' ' = c := by simpa using hc
      decide
    rw [htext, read, Path.readPiece_dotted name hblank]
    simp only [Option.bind_eq_bind, Option.bind_some, readBlank,
      readOperator_symbol hop (h.not_no rest), h.read rest hfollows, String.ofList_toList]

end Comparison

/-! ## Conditions -/

/-- Between texts without white space at their ends nothing is trimmed. -/
theorem Operator.compose_edged (op : Operator) {left right : String} (hleft : Edged left)
    (hright : Edged right) :
    op.compose (.ok left) (.ok right) = .ok (left ++ " " ++ op.symbol ++ " " ++ right) := by
  have htext : left ++ " " ++ op.symbol ++ " " ++ right =
      left ++ (" " ++ op.symbol ++ " ") ++ right := by
    simp [String.append_assoc]
  have hedged := hleft.append (" " ++ op.symbol ++ " ") hright
  rw [← htext] at hedged
  change Except.ok (trim (left ++ " " ++ op.symbol ++ " " ++ right)) = _
  rw [hedged.trim_eq]

/-- A list of literals has a text behind every operator, if it is a pair behind a range. -/
theorem Operator.exists_operand (op : Operator) {items : List Value}
    (hitems : Value.allLiteral items)
    (hbounds : op = .between → ∃ low high, items = [low, high]) :
    ∃ text, op.operand items.length (Value.renderAll items) = .ok text ∧
      Comparison.ReadsOperand op text (.list (Value.data items)) := by
  obtain ⟨texts, hrender, hreads⟩ := Value.renderAll_reads items hitems
  rw [operand, hrender]
  by_cases hbetween : op = .between
  · obtain ⟨low, high, rfl⟩ := hbounds hbetween
    rw [Value.data, Value.data, Value.data] at hreads ⊢
    cases hreads with
    | cons hlow hreads =>
      cases hreads with
      | cons hhigh hnil =>
        cases hnil
        rw [if_pos hbetween, hbetween]
        exact ⟨_, rfl, .range hlow hhigh⟩
  · rw [if_neg hbetween]
    by_cases hin : op = .inList ∨ op = .notInList
    · rw [if_pos hin]
      exact ⟨_, rfl, .of_reads hbetween (.bracketed (.inl rfl) hreads)⟩
    · rw [if_neg hin]
      exact ⟨_, rfl, .of_reads hbetween (.bracketed (.inr rfl) hreads)⟩

namespace Condition

/-- A readable condition is a name, its operator and an operand that is read as its value. -/
theorem exists_operand {c : Condition} (h : c.IsReadable) :
    ∃ operand, c.render = (c.operator.before c.value).compose (c.column.render .predicate)
        (.ok operand) ∧
      Comparison.ReadsOperand (c.operator.before c.value) operand c.value.datum := by
  obtain ⟨column, op, value⟩ := c
  have hvalue : value.isLiteral := h.value
  have hbounds : op = .between → ∃ low high, value = .list [low, high] := h.bounds
  by_cases hlist : ∃ items, value = .list items
  · obtain ⟨items, rfl⟩ := hlist
    have hop : op.before (.list items) = op := rfl
    obtain ⟨operand, hoperand, hreads⟩ := op.exists_operand
      (by simpa [Value.isLiteral] using hvalue) (by simpa using hbounds)
    refine ⟨operand, by rw [render, hoperand, hop], ?_⟩
    rw [hop, Value.datum]
    exact hreads
  · have hnot : op.before value ≠ .between := by
      have hop : op ≠ .between := fun hop => by
        obtain ⟨low, high, hpair⟩ := hbounds hop
        exact hlist ⟨_, hpair⟩
      unfold Operator.before Operator.againstNull
      split_ifs
      · decide
      · decide
      · exact hop
      · exact hop
    obtain ⟨operand, hrender, hreads⟩ := value.render_reads hvalue
    refine ⟨operand, ?_, .of_reads hnot hreads⟩
    rw [render, hrender]
    exact fun items hitems => hlist ⟨items, hitems⟩

/-- A readable condition has a text, and the text is read as what the condition says. -/
theorem exists_render {c : Condition} (h : c.IsReadable) :
    ∃ text, c.render = .ok text ∧ Forest.ReadsClause Comparison.read text c.comparison := by
  obtain ⟨name, hbase, hname⟩ := h.column
  obtain ⟨operand, hrender, hreads⟩ := exists_operand h
  have hcolumn : c.column.render .predicate = .ok (Identifier.dotted name) := by
    rw [c.column.render_predicate hbase, Place.name, if_neg hname]
  have hop : c.operator.before c.value ∈ Operator.named := Operator.before_named h.operator _
  rw [hcolumn, Operator.compose_edged _ (.dotted name) hreads.edged] at hrender
  refine ⟨_, hrender, ?_⟩
  have hcomparison : c.comparison = ⟨name, c.operator.before c.value, c.value.datum⟩ := by
    simp [comparison, Column.baseName, hbase]
  rw [hcomparison]
  exact Comparison.read_text name hop hreads

theorem render_eq_text {c : Condition} (h : c.IsReadable) : c.render = .ok c.text := by
  obtain ⟨text, hrender, -⟩ := exists_render h
  rw [Condition.text, hrender]

theorem reads_text {c : Condition} (h : c.IsReadable) :
    Forest.ReadsClause Comparison.read c.text c.comparison := by
  obtain ⟨text, hrender, hreads⟩ := exists_render h
  rw [Condition.text, hrender]
  exact hreads

end Condition

end SearchQL
