import Mathlib.Data.List.Perm.Basic
import SearchQL.Proofs.Inserted
import SearchQL.Proofs.Parts

/-!
# Values under their columns

An insertion has one list of columns, and a value stands under a column by its place alone. Where
rows are given one by one with their columns, the first row decides the list, and of the others
only the values are kept, in the order in which they are given.

* `Query.Under` says which value stands under which column, and `Query.Gathers` what a run of rows
  leaves behind.
* `Query.Gathers.render_iff` is the text of such an insertion.
* `Query.under_iff_paired` says when a row keeps its values under the columns they were given for,
  and `Query.under_swapped` is a row that does not.
-/

namespace SearchQL

/-! ## Rendering -/

/-- The texts of rows are the texts of their values between brackets. -/
theorem Value.renderRows_eq_ok_iff {rows : List (List Value)} {texts : List String} :
    Value.renderRows rows = .ok texts ↔ ∃ cells,
      List.Forall₂ (List.Forall₂ fun value text => value.render = .ok text) rows cells ∧
        texts = cells.map (bracketed ", ") := by
  induction rows generalizing texts with
  | nil =>
    rw [Value.renderRows]
    constructor
    · rintro ⟨⟩
      exact ⟨[], .nil, rfl⟩
    · rintro ⟨_, ⟨⟩, rfl⟩
      rfl
  | cons row rows ih =>
    rw [Value.renderRows, ok_both_iff]
    constructor
    · rintro ⟨cell, rest, hcell, hrest, rfl⟩
      obtain ⟨cells, hcells, rfl⟩ := ih.1 hrest
      exact ⟨cell :: cells, .cons (Value.renderAll_eq_ok_iff.1 hcell) hcells, rfl⟩
    · rintro ⟨_, hcells, rfl⟩
      cases hcells with
      | cons hcell hcells =>
        exact ⟨_, _, Value.renderAll_eq_ok_iff.2 hcell, ih.2 ⟨_, hcells, rfl⟩, rfl⟩

namespace Query

/-! ## Rows given one by one -/

/-- A value stands in a row of an insertion under a column: both have the same place. -/
def Under (q : Query) (k : Nat) (column : Column) (value : Value) : Prop :=
  ∃ rows row, q.input = .rows rows ∧ rows[k]? = some row ∧ (column, value) ∈ q.fields.zip row

/-- An insertion of rows that were given with their columns, of which `first` was the first. -/
structure Gathers (q : Query) (insertion : Insertion) (target : Column) (first : List Assignment)
    (rows : List (List Assignment)) : Prop where
  kind : q.kind = some insertion.kind
  target : q.target = some target
  fields : q.fields = first.map Assignment.column
  input : q.input = .rows (rows.map (List.map Assignment.value))

namespace Gathers

variable {q : Query} {insertion : Insertion} {target : Column} {first row : List Assignment}
  {rows : List (List Assignment)}

/-- The first row gives its columns to the insertion. -/
theorem start (insertion : Insertion) (target : Column) (hfirst : first ≠ []) :
    (empty.step (.insertRow insertion target first)).Gathers insertion target first [first] := by
  have hempty : first.isEmpty = false := List.isEmpty_eq_false_iff.2 hfirst
  constructor <;> simp [step, apply, insertRow, insertInto, pushRow, hempty, empty, Input.push]

/-- A further row keeps the columns as they are. -/
theorem step (h : q.Gathers insertion target first rows) (hfirst : first ≠ []) (hrow : row ≠ []) :
    (q.step (.insertRow insertion target row)).Gathers insertion target first (rows ++ [row]) := by
  have hempty : row.isEmpty = false := List.isEmpty_eq_false_iff.2 hrow
  have hfields : q.fields.isEmpty = false := by simpa [h.fields] using hfirst
  constructor
  · simp [Query.step, apply, insertRow, insertInto, pushRow, hempty]
  · simp [Query.step, apply, insertRow, insertInto, pushRow, hempty]
  · simpa [Query.step, apply, insertRow, insertInto, pushRow, hempty, hfields] using h.fields
  · simp [Query.step, apply, insertRow, insertInto, pushRow, hempty, h.input, Input.push]

theorem run (h : q.Gathers insertion target first rows) (hfirst : first ≠ [])
    {more : List (List Assignment)} (hmore : ∀ row ∈ more, row ≠ []) :
    (q.run (more.map (.insertRow insertion target))).Gathers insertion target first
      (rows ++ more) := by
  induction more generalizing q rows with
  | nil => simpa using h
  | cons row more ih =>
    rw [List.forall_mem_cons] at hmore
    have hstep := h.step hfirst hmore.1
    simpa using ih hstep hmore.2

/-- The text of such an insertion: the columns of the first row, and the values of every row. -/
theorem render_iff (h : q.Gathers insertion target first rows) {text : String} :
    q.render = .ok text ↔ ∃ index columns cells, target.render .index = .ok index ∧
      List.Forall₂ (fun a text => a.column.render .column = .ok text) first columns ∧
      List.Forall₂ (List.Forall₂ fun a text => a.value.render = .ok text) rows cells ∧
      text = insertion.text index columns (cells.map (bracketed ", ")) := by
  have hinput : q.clauses.input =
      (Value.renderRows (rows.map (List.map Assignment.value))).map fun texts =>
        "VALUES " ++ joinWith ", " texts := by
    rw [input_clauses, h.input, Input.render]
  rw [render_eq_insertion h.kind, Clauses.insertion, target_clauses, h.target, fields_clauses,
    h.fields, hinput]
  simp only [Option.map_some, ok_bind_iff, ok_map_iff, Column.renderAll_eq_ok_iff,
    Value.renderRows_eq_ok_iff, List.forall₂_map_left_iff]
  constructor
  · rintro ⟨columns, hcolumns, index, hindex, _, ⟨_, ⟨cells, hcells, rfl⟩, rfl⟩, htext⟩
    exact ⟨index, columns, cells, hindex, hcolumns, hcells, (Except.ok.inj htext).symm⟩
  · rintro ⟨index, columns, cells, hindex, hcolumns, hcells, rfl⟩
    exact ⟨columns, hcolumns, index, hindex, _, ⟨_, ⟨cells, hcells, rfl⟩, rfl⟩, rfl⟩

/-- A value stands under a column exactly if the first row has the column where the row has the
value. -/
theorem under_iff (h : q.Gathers insertion target first rows) {k : Nat} (hrow : rows[k]? = some row)
    {column : Column} {value : Value} :
    q.Under k column value ↔
      (column, value) ∈ (first.map Assignment.column).zip (row.map Assignment.value) := by
  constructor
  · rintro ⟨given, cells, hinput, hcells, hmem⟩
    rw [h.input] at hinput
    cases hinput
    rw [List.getElem?_map, hrow] at hcells
    cases hcells
    rwa [h.fields] at hmem
  · intro hmem
    refine ⟨_, _, h.input, ?_, h.fields ▸ hmem⟩
    rw [List.getElem?_map, hrow]
    rfl

end Gathers

/-! ## Values under their columns -/

/-- What a row gives to a column, by the places of both. -/
theorem mem_zip_map_iff {row : List Assignment} {column : Column} {value : Value} :
    (column, value) ∈ (row.map Assignment.column).zip (row.map Assignment.value) ↔
      ⟨column, value⟩ ∈ row := by
  rw [List.zip_map', List.mem_map]
  constructor
  · rintro ⟨⟨_, _⟩, hmem, heq⟩
    cases heq
    exact hmem
  · intro hmem
    exact ⟨_, hmem, rfl⟩

/-- Under different columns, values are told apart by what stands under which column. -/
theorem eq_of_mem_zip {columns : List Column} (hnodup : columns.Nodup) {values values' : List Value}
    (hlength : values.length = columns.length) (hlength' : values'.length = columns.length)
    (h : ∀ column value, (column, value) ∈ columns.zip values →
      (column, value) ∈ columns.zip values') : values = values' := by
  induction columns generalizing values values' with
  | nil => rw [List.length_eq_zero_iff.1 hlength, List.length_eq_zero_iff.1 hlength']
  | cons column columns ih =>
    obtain ⟨value, values, rfl⟩ := List.exists_cons_of_length_eq_add_one hlength
    obtain ⟨value', values', rfl⟩ := List.exists_cons_of_length_eq_add_one hlength'
    rw [List.nodup_cons] at hnodup
    -- the first column stands nowhere else, so each side of `h` splits at it
    have hhead : value = value' := by
      rcases List.mem_cons.1 (h column value List.mem_cons_self) with heq | hmem
      · exact (Prod.mk.inj heq).2
      · exact absurd (List.of_mem_zip hmem).1 hnodup.1
    have htail : values = values' := by
      refine ih hnodup.2 (Nat.succ.inj hlength) (Nat.succ.inj hlength') fun c v hmem => ?_
      rcases List.mem_cons.1 (h c v (List.mem_cons_of_mem _ hmem)) with heq | hmem'
      · obtain rfl : c = column := (Prod.mk.inj heq).1
        exact absurd (List.of_mem_zip hmem).1 hnodup.1
      · exact hmem'
    rw [hhead, htail]

/-- Two rows for the same columns differ by their order, so one of them can be arranged in the
order of the other. -/
theorem exists_arranged {first row : List Assignment}
    (hfirst : (first.map Assignment.column).Nodup) (hrow : (row.map Assignment.column).Nodup)
    (hsame : ∀ column, column ∈ row.map Assignment.column ↔ column ∈ first.map Assignment.column) :
    ∃ arranged : List Assignment, arranged.Perm row ∧
      arranged.map Assignment.column = first.map Assignment.column := by
  have hperm : (first.map Assignment.column).Perm (row.map Assignment.column) :=
    (List.perm_ext_iff_of_nodup hfirst hrow).2 fun column => (hsame column).symm
  obtain ⟨arranged, hcolumns, hperm⟩ :=
    (congrFun (congrFun (List.eq_map_comp_perm Assignment.column) _) _).mpr hperm
  exact ⟨arranged, hperm, hcolumns.symm⟩

/-- **Values stand under their columns exactly if their order agrees with that of the first row.**
Rows that are given one by one for the same columns all reach the text, under the columns of the
first row. A row keeps its values under the columns they were given for exactly if it has them in
the order in which the first row has the columns; so it does if it names the columns in that
order. -/
theorem under_iff_paired (insertion : Insertion) (target : Column) {first : List Assignment}
    (hne : first ≠ []) {more : List (List Assignment)}
    (hnodup : ∀ row ∈ first :: more, (row.map Assignment.column).Nodup)
    (hsame : ∀ row ∈ more, ∀ column,
      column ∈ row.map Assignment.column ↔ column ∈ first.map Assignment.column) :
    let q := empty.run ((first :: more).map (.insertRow insertion target))
    (∀ text, q.render = .ok text ↔ ∃ index columns cells, target.render .index = .ok index ∧
      List.Forall₂ (fun a text => a.column.render .column = .ok text) first columns ∧
      List.Forall₂ (List.Forall₂ fun a text => a.value.render = .ok text) (first :: more) cells ∧
      text = insertion.text index columns (cells.map (bracketed ", "))) ∧
    ∀ k row, (first :: more)[k]? = some row →
      ((∀ column value, q.Under k column value ↔ ⟨column, value⟩ ∈ row) ↔
        ∃ arranged : List Assignment, arranged.Perm row ∧
          arranged.map Assignment.column = first.map Assignment.column ∧
          arranged.map Assignment.value = row.map Assignment.value) := by
  intro q
  rw [List.forall_mem_cons] at hnodup
  have hrows : ∀ row ∈ more, row ≠ [] := by
    rintro row hmem rfl
    obtain ⟨a, ha⟩ := List.exists_mem_of_ne_nil first hne
    exact List.not_mem_nil ((hsame [] hmem a.column).2 (List.mem_map_of_mem ha))
  have hq : q.Gathers insertion target first (first :: more) :=
    (Gathers.start insertion target hne).run hne hrows
  refine ⟨fun text => hq.render_iff, fun k row hrow => ?_⟩
  constructor
  · intro hpaired
    obtain ⟨arranged, hperm, hcolumns⟩ : ∃ arranged : List Assignment, arranged.Perm row ∧
        arranged.map Assignment.column = first.map Assignment.column := by
      rcases List.mem_cons.1 (List.mem_of_getElem? hrow) with rfl | hmem
      · exact ⟨row, .refl row, rfl⟩
      · exact exists_arranged hnodup.1 (hnodup.2 row hmem) (hsame row hmem)
    have hlength : arranged.length = first.length := by simpa using congrArg List.length hcolumns
    have hlength' : row.length = first.length := hperm.length_eq ▸ hlength
    refine ⟨arranged, hperm, hcolumns, (eq_of_mem_zip hnodup.1 ?_ ?_ ?_).symm⟩
    · simpa using hlength'
    · simpa using hlength
    · intro column value hmem
      have hpair : ⟨column, value⟩ ∈ row := (hpaired column value).1 ((hq.under_iff hrow).2 hmem)
      rw [← hcolumns, mem_zip_map_iff]
      exact hperm.mem_iff.2 hpair
  · rintro ⟨arranged, hperm, hcolumns, hvalues⟩ column value
    rw [hq.under_iff hrow, ← hcolumns, ← hvalues, mem_zip_map_iff]
    exact hperm.mem_iff

/-- A row for two columns. -/
def ownRow : List Assignment := [⟨.name "id", .int 1⟩, ⟨.name "gid", .int 10⟩]

/-- A row for the same columns in the other order, with one value for both. -/
def evenRow : List Assignment := [⟨.name "gid", .int 7⟩, ⟨.name "id", .int 7⟩]

/-- A row for the same columns in the other order. -/
def swappedRow : List Assignment := [⟨.name "gid", .int 20⟩, ⟨.name "id", .int 2⟩]

/-- A row in another order keeps its values where they are equal. -/
theorem under_even :
    ownRow ≠ [] ∧
    (∀ row ∈ [ownRow, evenRow], (row.map Assignment.column).Nodup) ∧
    (∀ row ∈ [evenRow], ∀ column,
      column ∈ row.map Assignment.column ↔ column ∈ ownRow.map Assignment.column) ∧
    (empty.run ([ownRow, evenRow].map (.insertRow .insert (.name "rt")))).render =
      .ok "INSERT INTO `rt` (`id`, `gid`) VALUES (1, 10), (7, 7)" ∧
    ∀ column value, (empty.run ([ownRow, evenRow].map (.insertRow .insert (.name "rt")))).Under 1
      column value ↔ ⟨column, value⟩ ∈ evenRow := by
  have hne : ownRow ≠ [] := List.cons_ne_nil _ _
  have hnodup : ∀ row ∈ [ownRow, evenRow], (row.map Assignment.column).Nodup := by
    simp [ownRow, evenRow]
  have hsame : ∀ row ∈ [evenRow], ∀ column,
      column ∈ row.map Assignment.column ↔ column ∈ ownRow.map Assignment.column := by
    rintro _ (_ | _) column
    · exact (List.reverse_perm [Column.name "id", .name "gid"]).mem_iff
    · contradiction
  obtain ⟨hrender, hpaired⟩ := under_iff_paired .insert (.name "rt") hne hnodup hsame
  refine ⟨hne, hnodup, hsame, (hrender _).2 ?_, (hpaired 1 evenRow rfl).2 ?_⟩
  · refine ⟨"`rt`", ["`id`", "`gid`"], [["1", "10"], ["7", "7"]], rfl, ?_, ?_, rfl⟩
    · exact .cons rfl (.cons rfl .nil)
    · exact .cons (.cons rfl (.cons rfl .nil)) (.cons (.cons rfl (.cons rfl .nil)) .nil)
  · exact ⟨evenRow.reverse, List.reverse_perm _, rfl, rfl⟩

/-- A row in another order does not keep its values in general: the second row has 2 for `id`, and
20 stands there. -/
theorem under_swapped :
    ownRow ≠ [] ∧ swappedRow ≠ [] ∧
    (∀ row ∈ [ownRow, swappedRow], (row.map Assignment.column).Nodup) ∧
    (∀ column,
      column ∈ swappedRow.map Assignment.column ↔ column ∈ ownRow.map Assignment.column) ∧
    (empty.run ([ownRow, swappedRow].map (.insertRow .insert (.name "rt")))).render =
      .ok "INSERT INTO `rt` (`id`, `gid`) VALUES (1, 10), (20, 2)" ∧
    ⟨.name "id", .int 2⟩ ∈ swappedRow ∧
    ¬ ∀ column value,
      (empty.run ([ownRow, swappedRow].map (.insertRow .insert (.name "rt")))).Under 1 column
        value → ⟨column, value⟩ ∈ swappedRow := by
  refine ⟨List.cons_ne_nil _ _, List.cons_ne_nil _ _, ?_, ?_, rfl, by simp [swappedRow],
    fun h => ?_⟩
  · simp [ownRow, swappedRow]
  · exact fun column => (List.reverse_perm [Column.name "id", .name "gid"]).mem_iff
  · have hunder : (empty.run ([ownRow, swappedRow].map (.insertRow .insert (.name "rt")))).Under 1
        (.name "id") (.int 20) := ⟨_, _, rfl, rfl, List.mem_cons_self⟩
    have hmem := h _ _ hunder
    simp [swappedRow] at hmem

end Query

end SearchQL
