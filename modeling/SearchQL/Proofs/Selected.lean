import Mathlib.Data.List.Forall2
import SearchQL.Proofs.Unescaped

/-!
# Selected columns

Columns are selected by their texts. Each text is written once, where it stands first, so a column
whose text was already written adds nothing, of whatever kind it is. A column without a text is
missed all the same, wherever it stands.

* `Firsts` says what is kept of texts, and `Firsts.concat` what a further text does.
* `Clauses.selection_eq_columns` takes the columns off a selection.
* `Query.columns_once` is the result.
-/

namespace SearchQL

/-! ## The first of each text -/

/-- A text that stands at a place of a list, and at no place in front of it. -/
structure FirstAt (texts : List String) (i : Nat) (text : String) : Prop where
  here : texts[i]? = some text
  earlier : ∀ j < i, texts[j]? ≠ some text

/-- What is kept of texts if each stays where it stands first and nowhere else. -/
structure Firsts (texts kept : List String) : Prop where
  nodup : kept.Nodup
  mem_iff : ∀ text, text ∈ kept ↔ text ∈ texts
  sublist : kept.Sublist texts
  places : ∃ places : List Nat, places.Pairwise (· < ·) ∧
    (∀ i, i ∈ places ↔ ∃ text, FirstAt texts i text) ∧ List.Forall₂ (FirstAt texts) places kept

variable {texts kept : List String} {text next : String} {i : Nat}

theorem FirstAt.lt_length (h : FirstAt texts i text) : i < texts.length :=
  (List.getElem?_eq_some_iff.1 h.here).1

/-- A further text stands first at the end of the list, unless it stands in the list already. -/
theorem firstAt_concat : FirstAt (texts ++ [next]) i text ↔
    FirstAt texts i text ∨ i = texts.length ∧ text = next ∧ next ∉ texts := by
  have hbefore {j : Nat} (hj : j < texts.length) : (texts ++ [next])[j]? = texts[j]? :=
    List.getElem?_append_left hj
  constructor
  · intro h
    have hi : i ≤ texts.length := by simpa [Nat.lt_succ_iff] using h.lt_length
    rcases Nat.lt_or_eq_of_le hi with hi | rfl
    · refine .inl ⟨hbefore hi ▸ h.here, fun j hj => ?_⟩
      rw [← hbefore (Nat.lt_trans hj hi)]
      exact h.earlier j hj
    · have htext : next = text := by simpa using h.here
      subst htext
      refine .inr ⟨rfl, rfl, fun hmem => ?_⟩
      obtain ⟨j, hj, heq⟩ := List.mem_iff_getElem.1 hmem
      exact h.earlier j hj (by rw [hbefore hj, List.getElem?_eq_getElem hj, heq])
  · rintro (h | ⟨rfl, rfl, hmem⟩)
    · refine ⟨(hbefore h.lt_length).trans h.here, fun j hj => ?_⟩
      rw [hbefore (Nat.lt_trans hj h.lt_length)]
      exact h.earlier j hj
    · refine ⟨List.getElem?_concat_length, fun j hj heq => hmem ?_⟩
      rw [hbefore hj] at heq
      exact List.mem_of_getElem? heq

theorem Firsts.nil : Firsts [] [] where
  nodup := .nil
  mem_iff _ := .rfl
  sublist := .slnil
  places := ⟨[], .nil, fun i => ⟨nofun, fun ⟨_, h⟩ => absurd h.lt_length (Nat.not_lt_zero i)⟩, .nil⟩

/-- A further text is kept at the end, unless it is kept already. -/
theorem Firsts.concat (h : Firsts texts kept) (next : String) :
    Firsts (texts ++ [next]) (if next ∈ kept then kept else kept ++ [next]) := by
  obtain ⟨hnodup, hmem, hsublist, places, hascending, hplaces, hkept⟩ := h
  have hkept' : List.Forall₂ (FirstAt (texts ++ [next])) places kept :=
    hkept.imp fun i text h => firstAt_concat.2 (.inl h)
  split
  case isTrue hnext =>
    have htexts : next ∈ texts := (hmem next).1 hnext
    refine ⟨hnodup, fun text => ?_, hsublist.trans (List.sublist_append_left ..), places,
      hascending, fun i => ?_, hkept'⟩
    · rw [hmem, List.mem_append, List.mem_singleton]
      exact ⟨.inl, fun h => h.elim id fun h => h ▸ htexts⟩
    · rw [hplaces]
      simp [firstAt_concat, htexts]
  case isFalse hnext =>
    have htexts : next ∉ texts := fun h => hnext ((hmem next).2 h)
    have hlt : ∀ i ∈ places, i < texts.length := fun i hi =>
      have ⟨_, hfirst⟩ := (hplaces i).1 hi
      hfirst.lt_length
    have hlast : FirstAt (texts ++ [next]) texts.length next :=
      firstAt_concat.2 (.inr ⟨rfl, rfl, htexts⟩)
    refine ⟨?_, fun text => ?_, hsublist.append (.refl [next]), places ++ [texts.length], ?_,
      fun i => ?_, ?_⟩
    · refine List.nodup_append.2 ⟨hnodup, List.pairwise_singleton .., fun text hmem => ?_⟩
      rw [List.forall_mem_singleton]
      rintro rfl
      exact hnext hmem
    · rw [List.mem_append, hmem, List.mem_append]
    · exact List.pairwise_append.2 ⟨hascending, List.pairwise_singleton .., by simpa using hlt⟩
    · rw [List.mem_append, hplaces, List.mem_singleton]
      simp [firstAt_concat, htexts, exists_or]
    · exact List.rel_append hkept' (.cons hlast .nil)

/-- Taking out what stands already is a walk from the left that leaves out what was written. -/
theorem eraseDups_concat (texts : List String) (next : String) :
    (texts ++ [next]).eraseDups =
      if next ∈ texts.eraseDups then texts.eraseDups else texts.eraseDups ++ [next] := by
  by_cases hnext : next ∈ texts
  · simp [List.eraseDups_append, List.removeAll, hnext]
  · simp [List.eraseDups_append, List.removeAll, hnext, List.eraseDups_cons]

/-- Of all texts the first of each is kept. -/
theorem firsts_eraseDups (texts : List String) : Firsts texts texts.eraseDups := by
  induction texts using List.reverseRecOn with
  | nil => exact .nil
  | append_singleton texts next ih =>
    rw [eraseDups_concat]
    exact ih.concat next

theorem eraseDups_eq_nil_iff : texts.eraseDups = [] ↔ texts = [] := by
  simp [List.eq_nil_iff_forall_not_mem]

/-- Texts that stand in the list already may follow, and nothing changes. -/
theorem eraseDups_append_of_mem {texts' : List String} (h : ∀ text ∈ texts', text ∈ texts) :
    (texts ++ texts').eraseDups = texts.eraseDups := by
  have hnone : texts'.removeAll texts = [] := by simpa [List.removeAll] using h
  rw [List.eraseDups_append, hnone, List.eraseDups_nil, List.append_nil]

/-! ## Selections without their columns -/

namespace Clauses

/-- What stands behind the columns of a selection. -/
def behindColumns (c : Clauses) : Except Error String := do
  let indexes ← c.indexes
  let filter ← c.selectionFilter
  let behind ← c.behindFilter
  return listed " FROM " indexes ++ filter ++ behind

/-- The beginning of a selection, up to its columns. -/
def heading (distinct : Bool) : String := "SELECT " ++ if distinct then "DISTINCT " else ""

/-- A selection is its columns and what stands behind them. The columns are looked at first. -/
theorem selection_eq_columns (c : Clauses) : c.selection = do
    let columns ← c.columns
    let behind ← c.behindColumns
    return heading c.distinct ++ selected columns ++ behind := by
  rw [selection_eq, behindColumns]
  rcases c.columns with e | columns
  · rfl
  rcases c.indexes with e | indexes
  · rfl
  rcases c.selectionFilter with e | filter
  · rfl
  rcases c.behindFilter with e | behind
  · rfl
  refine congrArg Except.ok ?_
  simp only [heading, String.append_assoc]

theorem selected_append_of_mem {texts' : List String} (h : ∀ text ∈ texts', text ∈ texts) :
    selected (texts ++ texts') = selected texts := by
  have hnil : texts ++ texts' = [] ↔ texts = [] := by
    rw [List.append_eq_nil_iff, and_iff_left_iff_imp]
    rintro rfl
    exact List.eq_nil_iff_forall_not_mem.2 fun text hmem =>
      List.not_mem_nil (h text hmem)
  simp only [selected, hnil, eraseDups_append_of_mem h]

end Clauses

/-! ## Columns -/

theorem Column.renderAll_append (place : Place) (columns columns' : List Column) :
    Column.renderAll place (columns ++ columns') =
      do return (← Column.renderAll place columns) ++ (← Column.renderAll place columns') := by
  induction columns with
  | nil =>
    rw [List.nil_append, Column.renderAll]
    cases Column.renderAll place columns' <;> rfl
  | cons column columns ih =>
    rw [List.cons_append, Column.renderAll, Column.renderAll, ih]
    cases column.render place with
    | error e => rfl
    | ok text =>
      cases Column.renderAll place columns with
      | error e => rfl
      | ok texts => cases Column.renderAll place columns' <;> rfl

/-- The texts of columns cannot be made because of the first column without one. -/
theorem Column.renderAll_eq_error_iff {place : Place} {columns : List Column} {e : Error} :
    Column.renderAll place columns = .error e ↔
      ∃ before column after, columns = before ++ column :: after ∧
        (∀ earlier ∈ before, Succeeds (earlier.render place)) ∧ column.render place = .error e :=
  error_list_iff (r := Column.renderAll place) rfl fun _ _ => rfl

/-- A column without a text is missed wherever it stands. -/
theorem Column.exists_renderAll_eq_error {place : Place} {columns : List Column} {column : Column}
    {e : Error} (hmem : column ∈ columns) (he : column.render place = .error e) :
    ∃ e', Column.renderAll place columns = .error e' := by
  rw [← not_succeeds_iff, Column.succeeds_renderAll]
  intro hall
  obtain ⟨text, htext⟩ := hall column hmem
  cases he.symm.trans htext

/-- The texts of columns are the texts that one of them has. -/
theorem Column.mem_of_renderAll {place : Place} {columns : List Column} {texts : List String}
    (h : Column.renderAll place columns = .ok texts) {text : String} :
    text ∈ texts ↔ ∃ column ∈ columns, column.render place = .ok text := by
  have htexts := Column.renderAll_eq_ok_iff.1 h
  clear h
  induction htexts with
  | nil => simp
  | cons hcolumn _ ih => simp [hcolumn, ih, eq_comm]

/-- The texts of columns that share each text with others are among the texts of the others. -/
theorem Column.exists_renderAll_of_shared {place : Place} {columns extra : List Column}
    {texts : List String} (hcolumns : Column.renderAll place columns = .ok texts)
    (h : ∀ column ∈ extra, ∃ text, column.render place = .ok text ∧
      ∃ column' ∈ columns, column'.render place = .ok text) :
    ∃ texts', Column.renderAll place extra = .ok texts' ∧ ∀ text ∈ texts', text ∈ texts := by
  have hsucceeds : ∀ column ∈ extra, Succeeds (column.render place) := fun column hmem =>
    have ⟨text, htext, _⟩ := h column hmem
    ⟨text, htext⟩
  obtain ⟨texts', hextra⟩ := (Column.succeeds_renderAll place extra).2 hsucceeds
  refine ⟨texts', hextra, fun text hmem => ?_⟩
  obtain ⟨column, hcolumn, hrender⟩ := (Column.mem_of_renderAll hextra).1 hmem
  obtain ⟨text', htext', hshared⟩ := h column hcolumn
  obtain rfl : text = text' := Except.ok.inj (hrender.symm.trans htext')
  exact (Column.mem_of_renderAll hcolumns).2 hshared

/-! ## The result -/

namespace Query

variable {q : Query}

theorem behindColumns_select (columns : List Column) (q : Query) :
    (q.select columns).clauses.behindColumns = q.clauses.behindColumns := by
  cases q
  rfl

theorem selects_select (columns : List Column) (q : Query) :
    (q.select columns).kind.any Kind.selects = true := by
  by_cases hkind : q.kind = some .multiSelect
  · simp [select, hkind, Kind.selects]
  · simp [select, hkind, Kind.selects]

/-- The columns that are there already may be given again, with others behind them. -/
theorem columns_select_append (columns : List Column) (q : Query) :
    (q.select (q.columns ++ columns)).columns = q.columns ++ columns := by
  rw [select]
  by_cases hnil : q.columns ++ columns = []
  · obtain ⟨hcolumns, rfl⟩ := List.append_eq_nil_iff.1 hnil
    simp [hcolumns]
  · simp [hnil]

/-- The text of a selection, from the texts of its columns and what stands behind them. -/
theorem render_eq_columns (hkind : q.kind.any Kind.selects = true) : q.render = do
    let columns ← Column.renderAll .column q.columns
    let behind ← q.clauses.behindColumns
    return Clauses.heading q.distinct ++ Clauses.selected columns ++ behind := by
  rw [render_eq_selection hkind, Clauses.selection_eq_columns, columns_clauses, distinct_clauses]

/-- Further columns change nothing if all their texts are there already. -/
theorem render_select_append (hkind : q.kind.any Kind.selects = true) {extra : List Column}
    (h : ∀ texts, Column.renderAll .column q.columns = .ok texts →
      ∃ texts', Column.renderAll .column extra = .ok texts' ∧ ∀ text ∈ texts', text ∈ texts) :
    (q.select (q.columns ++ extra)).render = q.render := by
  have hdistinct : (q.select (q.columns ++ extra)).distinct = q.distinct := rfl
  rw [render_eq_columns (selects_select _ q), render_eq_columns hkind, columns_select_append,
    behindColumns_select, hdistinct, Column.renderAll_append]
  cases hcolumns : Column.renderAll .column q.columns with
  | error e => rfl
  | ok texts =>
    obtain ⟨texts', hextra, hmem⟩ := h texts hcolumns
    rw [hextra]
    exact congrArg (fun columns => q.clauses.behindColumns >>= fun behind =>
      Except.ok (Clauses.heading q.distinct ++ columns ++ behind))
      (Clauses.selected_append_of_mem hmem)

/-- **Of each text among the columns the first stays, and nothing else changes.** If all columns of
a selection have texts, those that are written are all different, are the texts of the columns, and
stand at the places of their first occurrences, in order; behind them stands what does not depend on
the columns. So further columns with texts that are there already change nothing, nor does the whole
list once more. If a column has no text, the selection fails with the error of the first such
column. -/
theorem columns_once (hkind : q.kind.any Kind.selects = true) :
    (∀ texts, List.Forall₂ (fun column text => column.render .column = .ok text) q.columns texts →
      ∃ kept, kept.Nodup ∧ (∀ text, text ∈ kept ↔ text ∈ texts) ∧ kept.Sublist texts ∧
        (∃ places : List Nat, places.Pairwise (· < ·) ∧
          (∀ i, i ∈ places ↔ ∃ text, FirstAt texts i text) ∧
          List.Forall₂ (FirstAt texts) places kept) ∧
        q.render = q.clauses.behindColumns.map fun behind =>
          "SELECT " ++ (if q.distinct then "DISTINCT " else "") ++
            (if kept = [] then "*" else joinWith ", " kept) ++ behind) ∧
    (∀ columns, (q.select columns).clauses.behindColumns = q.clauses.behindColumns) ∧
    (∀ extra, (∀ column ∈ extra, ∃ text, column.render .column = .ok text ∧
        ∃ column' ∈ q.columns, column'.render .column = .ok text) →
      (q.select (q.columns ++ extra)).render = q.render) ∧
    (q.select (q.columns ++ q.columns)).render = q.render ∧
    ((∃ column ∈ q.columns, ∃ e, column.render .column = .error e) →
      ∃ before column after e, q.columns = before ++ column :: after ∧
        (∀ earlier ∈ before, ∃ text, earlier.render .column = .ok text) ∧
        column.render .column = .error e ∧ q.render = .error e) := by
  refine ⟨fun texts htexts => ?_, fun columns => behindColumns_select columns q, fun extra h => ?_,
    ?_, fun ⟨column, hmem, e, he⟩ => ?_⟩
  · obtain ⟨hnodup, hmem, hsublist, hplaces⟩ := firsts_eraseDups texts
    refine ⟨texts.eraseDups, hnodup, hmem, hsublist, hplaces, ?_⟩
    rw [render_eq_columns hkind, Column.renderAll_eq_ok_iff.2 htexts]
    have hnil : texts.eraseDups = [] ↔ texts = [] := eraseDups_eq_nil_iff
    simp only [hnil]
    rfl
  · exact render_select_append hkind fun texts htexts =>
      Column.exists_renderAll_of_shared htexts h
  · exact render_select_append hkind fun texts htexts => ⟨texts, htexts, fun _ h => h⟩
  · obtain ⟨e, he⟩ := Column.exists_renderAll_eq_error hmem he
    obtain ⟨before, column, after, hcolumns, hbefore, hcolumn⟩ :=
      Column.renderAll_eq_error_iff.1 he
    refine ⟨before, column, after, e, hcolumns, hbefore, hcolumn, ?_⟩
    rw [render_eq_columns hkind, he]
    rfl

/-- Columns of all kinds, of which only the first, the third and the fifth have texts of their
own. -/
def colliding : Query :=
  empty.run [.select [.name "id", .template (.ofText "`id`"), .aliased (.name "id") "n",
    .template (.ofText "`id` AS `n`"), .query (ofKind .select), .name "id",
    .template (.ofText "(SELECT *)")], .distinct true, .index (.name "rt")]

/-- Texts that columns of different kinds share, and two columns without a text. -/
theorem columns_once_colliding :
    let texts := ["`id`", "`id`", "`id` AS `n`", "`id` AS `n`", "(SELECT *)", "`id`", "(SELECT *)"]
    let extra := [Column.template (.ofText "(SELECT *)")]
    let faulty := colliding.select
      [.name "id", .aliased (.query empty) "n", .template ⟨"", [("x", .float .nan)]⟩]
    (∃ kept, kept.Nodup ∧ (∀ text, text ∈ kept ↔ text ∈ texts) ∧ kept.Sublist texts ∧
      .ok ("SELECT DISTINCT " ++ joinWith ", " kept ++ " FROM `rt`") = colliding.render) ∧
    colliding.render = .ok "SELECT DISTINCT `id`, `id` AS `n`, (SELECT *) FROM `rt`" ∧
    (colliding.select (colliding.columns ++ extra)).render = colliding.render ∧
    (colliding.select (colliding.columns ++ colliding.columns)).render = colliding.render ∧
    faulty.render = .error .unsupportedKind := by
  intro texts extra faulty
  obtain ⟨hfirsts, -, hextra, htwice, -⟩ := columns_once (q := colliding) rfl
  obtain ⟨-, -, -, -, hfaulty⟩ := columns_once (q := faulty) rfl
  have htexts : Column.renderAll .column colliding.columns = .ok texts := rfl
  obtain ⟨kept, hnodup, hmem, hsublist, -, hrender⟩ :=
    hfirsts texts (Column.renderAll_eq_ok_iff.1 htexts)
  have hne : kept ≠ [] := List.ne_nil_of_mem ((hmem "`id`").2 List.mem_cons_self)
  refine ⟨⟨kept, hnodup, hmem, hsublist, ?_⟩, rfl, hextra extra ?_, htwice, ?_⟩
  · rw [hrender, if_neg hne]
    rfl
  · intro column hcolumn
    obtain rfl := List.mem_singleton.1 hcolumn
    exact ⟨"(SELECT *)", rfl, .query (ofKind .select), List.mem_of_getElem? (i := 4) rfl, rfl⟩
  · obtain ⟨before, column, after, e, hcolumns, hbefore, hcolumn, he⟩ :=
      hfaulty ⟨.aliased (.query empty) "n", List.mem_of_getElem? (i := 1) rfl, _, rfl⟩
    have hfirst : Column.renderAll .column faulty.columns = .error e :=
      Column.renderAll_eq_error_iff.2 ⟨before, column, after, hcolumns, hbefore, hcolumn⟩
    have hsecond : Column.renderAll .column faulty.columns = .error .unsupportedKind := rfl
    cases hfirst.symm.trans hsecond
    exact he

end Query

end SearchQL
