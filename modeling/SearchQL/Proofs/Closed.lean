import SearchQL.Proofs.Built
import SearchQL.Proofs.Grouping
import SearchQL.Proofs.Parts
import SearchQL.Proofs.Sealed
import SearchQL.Proofs.Structure

/-!
# Plain queries have sealed clauses

In a query without trusted text all that stands in a clause is quoted, a number, a fixed word or
between brackets. So no clause has a keyword of its own, and its literals, names and brackets are
closed, whatever the data is.

* `Block` is what the induction carries for values and conditions.
* `Clauses.Closed` says that all clauses are sealed, and `Clauses.Closed.statement` that a statement
  over such clauses is sealed by brackets.
* `Query.Built.closed` says that plain queries that can be built have such clauses.
-/

namespace SearchQL

open Outline

/-! ## Values and conditions -/

/-- A sealed text without white space at its ends. -/
structure Block (s : String) : Prop where
  sealed : Sealed s
  edged : Edged s

namespace Block

theorem literal (s : String) : Block (Literal.encode s) := ⟨.literal s, .literal s⟩

theorem parenthesised {s : String} (h : Enclosed s) : Block (parenthesised s) :=
  ⟨.parenthesised h, .parenthesised s⟩

theorem bracketed (sep : String) {texts : List String} (h : ∀ text ∈ texts, Block text)
    (hsep : Separates sep := by decide) : Block (bracketed sep texts) :=
  ⟨.bracketed sep (fun text htext => (h text htext).sealed) hsep, .parenthesised _⟩

theorem joinWith (sep : String) {texts : List String} (hne : texts ≠ [])
    (h : ∀ text ∈ texts, Block text) (hsep : Separates sep := by decide) :
    Block (joinWith sep texts) :=
  ⟨.joinWith sep (fun text htext => (h text htext).sealed) hsep,
    .joinWith sep hne fun text htext => (h text htext).edged⟩

theorem between {s t sep : String} (hs : Block s) (hsep : Separates sep) (ht : Block t) :
    Block (s ++ sep ++ t) :=
  ⟨hsep.between hs.sealed ht.sealed, hs.edged.append sep ht.edged⟩

end Block

/-- What the texts of a column at a place are like. There may be none before an operator. -/
def Place.Holds : Place → String → Prop
  | .predicate, s => s = "" ∨ Block s
  | _, s => Sealed s

namespace Place.Holds

theorem sealed {place : Place} {s : String} (h : place.Holds s) : Sealed s := by
  cases place with
  | column => exact h
  | index => exact h
  | predicate =>
    rcases h with rfl | h
    · exact .word "" (by decide)
    · exact h.sealed

theorem of_block (place : Place) {s : String} (h : Block s) : place.Holds s := by
  cases place with
  | column => exact h.sealed
  | index => exact h.sealed
  | predicate => exact .inr h

theorem name (place : Place) (name : String) : place.Holds (place.name name) := by
  cases place with
  | column => exact Sealed.dotted name
  | index => exact Sealed.segment name
  | predicate =>
    by_cases hname : name = ""
    · exact .inl (by simp [Place.name, hname])
    · have htext : Place.predicate.name name = Identifier.dotted name := by simp [Place.name, hname]
      rw [htext]
      exact .inr ⟨.dotted name, .dotted name⟩

theorem label {place : Place} {s : String} (h : place.Holds s) (label : String) :
    place.Holds (s ++ place.label label) := by
  have has : Separates " AS " := by decide
  have haliasing : Sealed s → Sealed (s ++ Identifier.aliasing label) := fun h => by
    rw [Identifier.aliasing, ← String.append_assoc]
    exact has.between h (.segment label)
  cases place with
  | column => exact haliasing h
  | index => exact haliasing h
  | predicate => simpa [Place.label] using h

end Place.Holds

theorem Yields.sealed {place : Place} {x : Except Error String} (h : Yields place.Holds x) :
    Yields Sealed x :=
  h.imp fun _ => Place.Holds.sealed

namespace Operator

theorem separates_symbol : ∀ op ∈ named,
    Block op.symbol ∧ Separates (" " ++ op.symbol ++ " ") := by
  have hall : ∀ op ∈ named, Unmarked op.symbol ∧ Passes 0 op.symbol ∧ Edged op.symbol ∧
      Separates (" " ++ op.symbol ++ " ") := by decide
  intro op hop
  obtain ⟨hbare, hpasses, hedged, hsep⟩ := hall op hop
  exact ⟨⟨.word _ hbare hpasses, hedged⟩, hsep⟩

/-- Around a named operator only the blank behind an empty column name is trimmed. -/
theorem block_compose {op : Operator} (hop : op ∈ named) {left right : Except Error String}
    (hleft : Yields (Place.Holds .predicate) left) (hright : Yields Block right) :
    Yields Block (op.compose left right) := by
  refine hleft.bind fun s hs => hright.bind fun t ht => .ok ?_
  obtain ⟨hsymbol, hsep⟩ := separates_symbol op hop
  rcases hs with rfl | hs
  · have hblank : Separates " " := by decide
    have hblock := hsymbol.between hblank ht
    have htext : "" ++ " " ++ op.symbol ++ " " ++ t = " " ++ (op.symbol ++ " " ++ t) := by
      simp [String.append_assoc]
    rw [htext, hblock.edged.trim_blank_append]
    exact hblock
  · have hblock := hs.between hsep ht
    have htext : s ++ " " ++ op.symbol ++ " " ++ t = s ++ (" " ++ op.symbol ++ " ") ++ t := by
      simp [String.append_assoc]
    rw [htext, hblock.edged.trim_eq]
    exact hblock

/-- A range has both of its bounds. -/
theorem block_operand (op : Operator) {count : Nat} {x : Except Error (List String)}
    (hcount : ∀ texts, x = .ok texts → texts.length = count) (h : Yields (∀ t ∈ ·, Block t) x) :
    Yields Block (op.operand count x) := by
  unfold Operator.operand
  split
  · split
    · rename_i hcount'
      intro text htext
      cases x with
      | error e => cases htext
      | ok texts =>
        cases htext
        refine .joinWith " AND " ?_ (h texts rfl)
        rintro rfl
        simpa [hcount'] using hcount [] rfl
    · exact .error _
  · split
    · exact h.map fun _ htexts => .bracketed "," htexts
    · exact h.map fun _ htexts => .bracketed ", " htexts

end Operator

namespace Condition

/-- The text of a group is sealed, whatever its brackets are. -/
theorem sealed_renderGroup (label : String) {g : Group Condition} (hg : g.Sound)
    (h : ∀ logic c, .clause logic c ∈ g.entries → Yields Block c.render) :
    Yields Sealed (renderGroup label g) := by
  intro text htext
  obtain ⟨hdepth, hall⟩ := (succeeds_renderGroup label g).1 ⟨text, htext⟩
  obtain ⟨tree, htree⟩ := Forest.exists_flatten (hg.balanced hdepth)
  have hrender : ∀ logic c, .clause logic c ∈ g.entries → c.render = .ok c.text :=
    fun logic c hmem => by
      obtain ⟨s, hs⟩ := hall logic c hmem
      rw [Condition.text, hs]
  have hblocks : tree.All fun c => Block c.text := by
    rw [Forest.all_iff, htree]
    exact fun logic c hmem => h logic c hmem _ (hrender logic c hmem)
  have hne : (tree.map Condition.text).All (· ≠ "") :=
    .map (hblocks.imp fun _ hc => hc.edged.ne_empty)
  have hsealed : (tree.map Condition.text).All Sealed := .map (hblocks.imp fun _ hc => hc.sealed)
  have hdepth' : ¬ g.depth ≠ 0 := by simpa using hdepth
  rw [renderGroup, Group.balancedText, if_neg hdepth', renderEntries_eq_map hrender, ← htree,
    ← Forest.flatten_map] at htext
  obtain rfl : Group.layOut false false (tree.map Condition.text).flatten = text :=
    Except.ok.inj htext
  rw [Forest.layOut_flatten hne]
  exact (Forest.sealed_text hsealed false).1

theorem sealed_renderClause (scope : Scope) {g : Group Condition} (hg : g.Sound)
    (h : ∀ logic c, .clause logic c ∈ g.entries → Yields Block c.render) :
    ∀ x ∈ renderClause scope g, Yields Sealed x := by
  intro x hx
  rw [renderClause_eq] at hx
  split at hx
  · cases hx
  · cases hx
    exact sealed_renderGroup scope.keyword hg h

end Condition

/-! ## Statements between brackets -/

namespace Clauses

/-- All clauses are sealed, and there are no options and no raw text. A facet is a statement, as is
a query whose answer is inserted, and these are sealed by brackets only. -/
structure Closed (c : Clauses) : Prop where
  columns : Yields (∀ t ∈ ·, Sealed t) c.columns
  indexes : Yields (∀ t ∈ ·, Sealed t) c.indexes
  search : ∀ s ∈ c.search, Sealed s
  filters : ∀ x ∈ c.filters, Yields Sealed x
  groupBy : Yields (∀ t ∈ ·, Sealed t) c.groupBy
  having : ∀ x ∈ c.having, Yields Sealed x
  orderBy : Yields (∀ t ∈ ·, Sealed t) c.orderBy
  options : c.options = []
  facets : Yields (∀ t ∈ ·, Enclosed t) c.facets
  target : ∀ x ∈ c.target, Yields Sealed x
  fields : Yields (∀ t ∈ ·, Sealed t) c.fields
  input : Yields Enclosed c.input
  assignments : Yields (∀ t ∈ ·, Sealed t) c.assignments
  raw : c.raw = none

namespace Closed

theorem listed (keyword : String) {parts : List String} (h : ∀ t ∈ parts, Sealed t)
    (hkeyword : Enclosed keyword) : Enclosed (listed keyword parts) := by
  unfold Clauses.listed
  split
  · exact .word "" (by decide)
  · exact hkeyword.append (.joinWith (.word ", " (by decide)) fun t ht => (h t ht).enclosed)

theorem conditions (keyword : String) {group : Option (Except Error String)}
    (h : ∀ x ∈ group, Yields Sealed x) (hkeyword : Enclosed keyword) :
    Yields Enclosed (conditions keyword group) := by
  cases group with
  | none => exact .ok (.word "" (by decide))
  | some x => exact (h x rfl).map fun _ ht => hkeyword.append ht.enclosed

theorem number (n : Nat) : Sealed (toString n) := Sealed.ofInt n

theorem limitText (limit : Option Nat) : Enclosed (limitText limit) := by
  cases limit with
  | none => exact .word "" (by decide)
  | some n => exact .append (.word " LIMIT " (by decide)) (number n).enclosed

theorem window (limit offset : Option Nat) : Enclosed (window limit offset) := by
  cases limit with
  | none => exact limitText none
  | some n =>
    cases offset with
    | none => exact limitText (some n)
    | some m =>
      have hoffset := (Enclosed.word " LIMIT " (by decide)).append (number m).enclosed
      exact (hoffset.append (.word ", " (by decide))).append (number n).enclosed

theorem selected {texts : List String} (h : ∀ t ∈ texts, Sealed t) : Sealed (selected texts) := by
  unfold Clauses.selected
  split
  · exact .word "*"
  · exact .joinWith ", " fun t ht => h t (by simpa using ht)

theorem facetText {facets : List String} (h : ∀ t ∈ facets, Enclosed t) :
    Enclosed (facetText facets) := by
  refine .joinWith (.word "" (by decide)) fun t ht => ?_
  obtain ⟨facet, hfacet, rfl⟩ := List.mem_map.1 ht
  exact .append (.word " FACET " (by decide)) (h facet hfacet)

variable {c : Clauses}

theorem selectionFilter (h : c.Closed) : Yields Enclosed c.selectionFilter := by
  unfold Clauses.selectionFilter
  split
  · exact conditions " WHERE " h.filters (.word " WHERE " (by decide))
  · rename_i argument hargument
    refine (conditions " AND " h.filters (.word " AND " (by decide))).map fun _ hrest => ?_
    have hmatch : Enclosed ("(" ++ argument ++ ")") :=
      (Sealed.parenthesised (h.search argument hargument).enclosed).enclosed
    have htext : " WHERE MATCH(" ++ argument ++ ")" =
        " WHERE MATCH" ++ ("(" ++ argument ++ ")") := by
      simp [← String.append_assoc]
    rw [htext]
    exact (Enclosed.append (.word " WHERE MATCH" (by decide)) hmatch).append hrest

theorem selection (h : c.Closed) : Yields Enclosed c.selection := by
  refine h.columns.bind fun _ hcolumns => h.indexes.bind fun _ hindexes => ?_
  refine h.selectionFilter.bind fun _ hfilter => h.groupBy.bind fun _ hgroup => ?_
  refine (conditions " HAVING " h.having (.word " HAVING " (by decide))).bind fun _ hhaving => ?_
  refine h.orderBy.bind fun _ horder => h.facets.bind fun _ hfacets => .ok ?_
  have hhead : Enclosed ("SELECT " ++ (if c.distinct then "DISTINCT " else "")) := by
    cases c.distinct with
    | true => exact .append (.word "SELECT " (by decide)) (.word "DISTINCT " (by decide))
    | false => exact .append (.word "SELECT " (by decide)) (.word "" (by decide))
  have hoptions : Enclosed (Clauses.listed " OPTION " c.options) := by
    rw [h.options]
    exact .word "" (by decide)
  have hfrom := (hhead.append (selected hcolumns).enclosed).append
    (listed " FROM " hindexes (.word " FROM " (by decide)))
  have hwhere := (hfrom.append hfilter).append
    (listed " GROUP BY " hgroup (.word " GROUP BY " (by decide)))
  have hby := (hwhere.append hhaving).append
    (listed " ORDER BY " horder (.word " ORDER BY " (by decide)))
  exact ((hby.append (window c.limit c.offset)).append hoptions).append (facetText hfacets)

theorem insertion (h : c.Closed) (keyword : String) (hkeyword : Enclosed keyword) :
    Yields Enclosed (c.insertion keyword) := by
  unfold Clauses.insertion
  split
  · exact .error _
  · rename_i target htarget
    refine h.fields.bind fun fields hfields => (h.target target htarget).bind fun text htext => ?_
    refine h.input.bind fun input hinput => .ok ?_
    have hlist := Sealed.parenthesised
      (Enclosed.joinWith (.word ", " (by decide)) fun t ht => (hfields t ht).enclosed)
    have hhead := (hkeyword.append (.word " " (by decide))).append htext.enclosed
    have hopened := (hhead.append (.word " " (by decide))).append hlist.enclosed
    have hall := (hopened.append (.word " " (by decide))).append hinput
    have hopen : " (" = " " ++ "(" := rfl
    have hclose : ") " = ")" ++ " " := rfl
    rw [hopen, hclose]
    simpa only [String.append_assoc] using hall

theorem changeTail (h : c.Closed) : Yields Enclosed c.changeTail := by
  refine (conditions " WHERE " h.filters (.word " WHERE " (by decide))).bind fun _ hfilter => ?_
  refine h.orderBy.bind fun _ horder => .ok ?_
  exact (hfilter.append (listed " ORDER BY " horder (.word " ORDER BY " (by decide)))).append
    (limitText c.limit)

theorem update (h : c.Closed) : Yields Enclosed c.update := by
  unfold Clauses.update
  split
  case h_1 => exact .error _
  case h_2 => exact .error _
  case h_3 target htarget _ =>
    refine (h.target target htarget).bind fun text htext => ?_
    refine h.assignments.bind fun texts htexts => h.changeTail.bind fun tail htail => .ok ?_
    have hhead := Enclosed.append (.word "UPDATE " (by decide)) htext.enclosed
    have hlist := Enclosed.joinWith (.word ", " (by decide)) fun t ht => (htexts t ht).enclosed
    have hset := (hhead.append (.word " SET " (by decide))).append hlist
    exact hset.append htail

theorem deletion (h : c.Closed) : Yields Enclosed c.deletion := by
  unfold Clauses.deletion
  split
  · exact .error _
  · rename_i target htarget
    refine (h.target target htarget).bind fun text htext => ?_
    refine h.changeTail.bind fun tail htail => .ok ?_
    exact (Enclosed.append (.word "DELETE FROM " (by decide)) htext.enclosed).append htail

/-- A statement of any kind over sealed clauses is sealed by brackets. -/
theorem statement (h : c.Closed) (kind : Option Kind) : Yields Enclosed (c.statement kind) := by
  rcases kind with _ | kind
  · exact .error _
  · cases kind with
    | raw =>
      change Yields Enclosed c.rawText
      rw [rawText, h.raw]
      exact .error _
    | select => exact h.selection
    | multiSelect => exact h.selection
    | insert => exact h.insertion "INSERT INTO" (.word "INSERT INTO" (by decide))
    | replace => exact h.insertion "REPLACE INTO" (.word "REPLACE INTO" (by decide))
    | update => exact h.update
    | delete => exact h.deletion

end Closed

end Clauses

/-! ## Plain parts -/

/-- A test that goes through a list. -/
theorem all_iff_forall {α : Type} {p : α → Bool} {r : List α → Bool} (hnil : r [] = true)
    (hcons : ∀ a as, r (a :: as) = (p a && r as)) (as : List α) :
    r as = true ↔ ∀ a ∈ as, p a = true := by
  induction as with
  | nil => simp [hnil]
  | cons a as ih => rw [hcons, Bool.and_eq_true, ih, List.forall_mem_cons]

theorem Value.allPlain_iff (values : List Value) :
    Value.allPlain values = true ↔ ∀ value ∈ values, value.isPlain = true :=
  all_iff_forall rfl (fun _ _ => rfl) values

theorem Value.rowsPlain_iff (rows : List (List Value)) :
    Value.rowsPlain rows = true ↔ ∀ row ∈ rows, ∀ value ∈ row, value.isPlain = true := by
  simp only [← Value.allPlain_iff]
  exact all_iff_forall rfl (fun _ _ => rfl) rows

theorem Column.allPlain_iff (columns : List Column) :
    Column.allPlain columns = true ↔ ∀ column ∈ columns, column.isPlain = true :=
  all_iff_forall rfl (fun _ _ => rfl) columns

theorem Column.optionPlain_iff (target : Option Column) :
    Column.optionPlain target = true ↔ ∀ column ∈ target, column.isPlain = true := by
  cases target with
  | none => simp [optionPlain]
  | some column => simp [optionPlain]

theorem Facet.allPlain_iff (facets : List Facet) :
    Facet.allPlain facets = true ↔ ∀ facet ∈ facets, facet.isPlain = true :=
  all_iff_forall rfl (fun _ _ => rfl) facets

theorem OrderKey.allPlain_iff (keys : List OrderKey) :
    OrderKey.allPlain keys = true ↔ ∀ key ∈ keys, key.column.isPlain = true :=
  all_iff_forall (r := OrderKey.allPlain) rfl (fun ⟨_, _⟩ _ => rfl) keys

theorem Assignment.allPlain_iff (assignments : List Assignment) :
    Assignment.allPlain assignments = true ↔
      ∀ a ∈ assignments, a.column.isPlain = true ∧ a.value.isPlain = true := by
  simp only [← Bool.and_eq_true]
  exact all_iff_forall (r := Assignment.allPlain) rfl (fun ⟨_, _⟩ _ => rfl) assignments

theorem Condition.plain_iff {c : Condition} :
    c.isPlain = true ↔
      c.column.isPlain = true ∧ c.operator ∈ Operator.named ∧ c.value.isPlain = true := by
  cases c
  simp [isPlain, and_assoc]

theorem Condition.groupPlain_iff (g : Group Condition) :
    Condition.groupPlain g = true ↔
      ∀ logic c, .clause logic c ∈ g.entries → c.isPlain = true := by
  obtain ⟨entries, depth⟩ := g
  rw [groupPlain]
  induction entries with
  | nil => simp [entriesPlain]
  | cons entry entries ih =>
    cases entry with
    | opened logic => simpa [entriesPlain] using ih
    | closed => simpa [entriesPlain] using ih
    | clause logic c =>
      rw [entriesPlain, Bool.and_eq_true, ih, Entry.forall_clause_cons]

/-- What a plain query holds is plain. -/
structure Query.Plain (q : Query) : Prop where
  columns : ∀ column ∈ q.columns, column.isPlain = true
  indexes : ∀ column ∈ q.indexes, column.isPlain = true
  groupBy : ∀ column ∈ q.groupBy, column.isPlain = true
  having : ∀ logic c, .clause logic c ∈ q.having.entries → c.isPlain = true
  options : q.options = []
  facets : ∀ facet ∈ q.facets, facet.isPlain = true
  target : ∀ column ∈ q.target, column.isPlain = true
  fields : ∀ column ∈ q.fields, column.isPlain = true
  input : q.input.isPlain = true
  assignments : ∀ a ∈ q.assignments, a.column.isPlain = true ∧ a.value.isPlain = true
  raw : q.raw = none
  filters : ∀ logic c, .clause logic c ∈ q.filters.entries → c.isPlain = true
  orderBy : ∀ key ∈ q.orderBy, key.column.isPlain = true

theorem Query.plain_of_isPlain {q : Query} (h : q.isPlain = true) : q.Plain := by
  cases q
  simp only [isPlain, Bool.and_eq_true, Column.allPlain_iff, Column.optionPlain_iff,
    Facet.allPlain_iff, OrderKey.allPlain_iff, Assignment.allPlain_iff, Condition.groupPlain_iff,
    List.isEmpty_iff, Option.isNone_iff_eq_none] at h
  obtain ⟨⟨⟨⟨⟨⟨⟨⟨⟨⟨⟨⟨⟨columns, indexes⟩, -⟩, groupBy⟩, having⟩, options⟩, facets⟩, target⟩, fields⟩,
    input⟩, assignments⟩, raw⟩, filters⟩, orderBy⟩ := h
  exact ⟨columns, indexes, groupBy, having, options, facets, target, fields, input, assignments,
    raw, filters, orderBy⟩

/-! ## All levels -/

theorem Value.yields_renderAll {P : String → Prop} {values : List Value}
    (h : ∀ value ∈ values, Yields P value.render) :
    Yields (∀ t ∈ ·, P t) (Value.renderAll values) :=
  yields_list (f := Value.render) rfl (fun _ _ => rfl) h

/-- A row of blocks between brackets. -/
theorem Value.yields_renderRows {rows : List (List Value)}
    (h : ∀ row ∈ rows, ∀ value ∈ row, Yields Block value.render) :
    Yields (∀ t ∈ ·, Sealed t) (Value.renderRows rows) := by
  refine yields_list (f := fun row => (renderAll row).map (bracketed ", ")) rfl
    (fun row rows => ?_) fun row hrow => ?_
  · rw [renderRows]
    cases renderAll row <;> rfl
  · exact (yields_renderAll (h row hrow)).map fun _ htexts => (Block.bracketed ", " htexts).sealed

theorem Column.yields_renderAll {P : String → Prop} {place : Place} {columns : List Column}
    (h : ∀ column ∈ columns, Yields P (column.render place)) :
    Yields (∀ t ∈ ·, P t) (Column.renderAll place columns) :=
  yields_list (f := Column.render place) rfl (fun _ _ => rfl) h

/-- A direction is a word of its own. -/
theorem OrderKey.yields_renderAll {keys : List OrderKey}
    (h : ∀ key ∈ keys, Yields Sealed (key.column.render .column)) :
    Yields (∀ t ∈ ·, Sealed t) (OrderKey.renderAll keys) := by
  refine yields_list (f := render) rfl renderAll_cons fun key hmem => ?_
  refine (h key hmem).map fun t ht => ?_
  have hblank : Separates " " := by decide
  have hword : Sealed key.direction.word := by
    cases key.direction with
    | ascending => exact .word "ASC"
    | descending => exact .word "DESC"
  exact hblank.between ht hword

theorem Assignment.yields_renderAll {assignments : List Assignment}
    (hcolumns : ∀ a ∈ assignments, Yields Sealed (a.column.render .column))
    (hvalues : ∀ a ∈ assignments, Yields Block a.value.render) :
    Yields (∀ t ∈ ·, Sealed t) (Assignment.renderAll assignments) := by
  refine yields_list (f := render) rfl renderAll_cons fun a hmem => ?_
  have hequals : Separates " = " := by decide
  exact (hcolumns a hmem).bind fun _ hs => (hvalues a hmem).bind fun _ ht =>
    .ok (hequals.between hs ht.sealed)

theorem Binary64.block_render (x : Binary64) : Yields Block x.render := by
  unfold Binary64.render
  split
  · exact .ok ⟨.fixed x, .fixed x⟩
  · exact .error _

/-- The text of a value is a block, and so are those of its members, if it is a list. -/
structure Value.Blocks (value : Value) : Prop where
  text : Yields Block value.render
  members : ∀ items ∈ value.items?, ∀ member ∈ items, Yields Block member.render

theorem Value.Blocks.list {items : List Value} (h : ∀ item ∈ items, Yields Block item.render) :
    Blocks (.list items) where
  text := (yields_renderAll h).map fun _ htexts => .bracketed ", " htexts
  members := by
    rintro _ ⟨⟩
    exact h

theorem Condition.block_render {c : Condition} (hop : c.operator ∈ Operator.named)
    (hcolumn : Yields (Place.Holds .predicate) (c.column.render .predicate))
    (hvalue : c.value.Blocks) : Yields Block c.render := by
  obtain ⟨column, op, value⟩ := c
  cases value with
  | list items =>
    have hitems := Value.yields_renderAll (hvalue.members items rfl)
    exact op.block_compose hop hcolumn (op.block_operand (fun _ => Value.length_renderAll) hitems)
  | _ => exact Operator.block_compose (Operator.before_named hop _) hcolumn hvalue.text

/-- The texts of all parts of a query are sealed. -/
structure Query.PartsSealed (q : Query) : Prop where
  columns : ∀ column ∈ q.columns, Yields Sealed (column.render .column)
  indexes : ∀ column ∈ q.indexes, Yields Sealed (column.render .index)
  groupBy : ∀ column ∈ q.groupBy, Yields Sealed (column.render .column)
  having : ∀ logic c, .clause logic c ∈ q.having.entries → Yields Block c.render
  facets : ∀ facet ∈ q.facets, Yields Enclosed facet.render
  target : ∀ column ∈ q.target, Yields Sealed (column.render .index)
  fields : ∀ column ∈ q.fields, Yields Sealed (column.render .column)
  input : Yields Enclosed q.input.render
  assigned : ∀ a ∈ q.assignments, Yields Sealed (a.column.render .column)
  assigning : ∀ a ∈ q.assignments, Yields Block a.value.render
  filters : ∀ logic c, .clause logic c ∈ q.filters.entries → Yields Block c.render
  orderBy : ∀ key ∈ q.orderBy, Yields Sealed (key.column.render .column)

/-- Clauses over sealed parts are sealed. The brackets of the groups are those of a query that can
be built, so that they are closed wherever there is a text. -/
theorem Query.PartsSealed.closed {q : Query} (h : q.PartsSealed) (hq : q.Reachable)
    (hplain : q.Plain) : q.clauses.Closed where
  columns := by simpa using Column.yields_renderAll h.columns
  indexes := by simpa using Column.yields_renderAll h.indexes
  search := by
    intro argument hargument
    rw [Query.search_clauses] at hargument
    split at hargument <;> cases hargument
    exact .literal _
  filters := by
    rw [Query.filters_clauses]
    exact Condition.sealed_renderClause .filters (hq.sound .filters) h.filters
  groupBy := by simpa using Column.yields_renderAll h.groupBy
  having := by
    rw [Query.having_clauses]
    exact Condition.sealed_renderClause .having (hq.sound .having) h.having
  orderBy := by simpa using OrderKey.yields_renderAll h.orderBy
  options := by rw [Query.options_clauses, hplain.options]
  facets := by
    rw [Query.facets_clauses]
    exact yields_list (f := Facet.render) rfl (fun _ _ => rfl) h.facets
  target := by
    intro x hx
    rw [Query.target_clauses] at hx
    obtain ⟨column, hcolumn, rfl⟩ := Option.map_eq_some_iff.1 hx
    exact h.target column hcolumn
  fields := by simpa using Column.yields_renderAll h.fields
  input := by simpa using h.input
  assignments := by simpa using Assignment.yields_renderAll h.assigned h.assigning
  raw := by rw [Query.raw_clauses, hplain.raw, Option.map_none]

-- The induction is on how the parts are built, so that members of lists and nested queries are
-- smaller, and a nested query comes with the brackets of its own groups.
mutual

/-- The texts of plain values have no keywords and no white space at their ends. -/
theorem Value.Built.blocks {value : Value} :
    value.Built → value.isPlain = true → value.Blocks
  | .null, _ => ⟨.ok ⟨.word "NULL", by decide⟩, nofun⟩
  | .bool true, _ => ⟨.ok (.literal "1"), nofun⟩
  | .bool false, _ => ⟨.ok (.literal "0"), nofun⟩
  | .int n, _ => ⟨.ok ⟨.ofInt n, .ofInt n⟩, nofun⟩
  | .float x, _ => ⟨x.block_render, nofun⟩
  | .text s, _ => ⟨.ok (.literal s), nofun⟩
  | .list h, hplain => by
    rw [Value.isPlain, Value.allPlain_iff] at hplain
    exact .list fun item hmem => ((h item hmem).blocks (hplain item hmem)).text
  | .query h, hplain => by
    rw [Value.isPlain] at hplain
    exact ⟨((h.closed hplain).statement _).map fun _ => Block.parenthesised, nofun⟩
  | .template _, hplain => by simp [Value.isPlain] at hplain

theorem Column.Built.holds (place : Place) {column : Column} :
    column.Built → column.isPlain = true → Yields place.Holds (column.render place)
  | .name name, _ => .ok (.name place name)
  | .template _, hplain => by simp [Column.isPlain] at hplain
  | .query h, hplain => by
    rw [Column.isPlain] at hplain
    rw [Column.render_query]
    exact ((h.closed hplain).statement _).map fun _ ht => .of_block place (.parenthesised ht)
  | .aliased h label, hplain => by
    rw [Column.isPlain] at hplain
    rw [Column.render]
    exact (h.holds place hplain).map fun _ ht => ht.label label

theorem Condition.Built.block {c : Condition} :
    c.Built → c.isPlain = true → Yields Block c.render
  | .intro column value, hplain => by
    obtain ⟨hcolumn, hop, hvalue⟩ := Condition.plain_iff.1 hplain
    exact Condition.block_render hop (column.holds .predicate hcolumn) (value.blocks hvalue)

theorem Facet.Built.enclosed {facet : Facet} :
    facet.Built → facet.isPlain = true → Yields Enclosed facet.render
  | .body _, hplain => by simp [Facet.isPlain] at hplain
  | .template _, hplain => by simp [Facet.isPlain] at hplain
  | .query h, hplain => by
    rw [Facet.isPlain] at hplain
    exact (h.closed hplain).statement _

theorem Input.Built.enclosed {input : Input} :
    input.Built → input.isPlain = true → Yields Enclosed input.render
  | @Input.Built.rows rows h, hplain => by
    rw [Input.isPlain, Value.rowsPlain_iff] at hplain
    have hrows : Yields (∀ t ∈ ·, Sealed t) (Value.renderRows rows) :=
      Value.yields_renderRows fun row hrow value hmem =>
        ((h row hrow value hmem).blocks (hplain row hrow value hmem)).text
    rw [Input.render]
    exact hrows.map fun _ htexts => .append (.word "VALUES " (by decide))
      (.joinWith (.word ", " (by decide)) fun t ht => (htexts t ht).enclosed)
  | .query h, hplain => by
    rw [Input.isPlain] at hplain
    exact (h.closed hplain).statement _

/-- The clauses of a plain query are sealed. -/
theorem Query.Built.closed {q : Query} : q.Built → q.isPlain = true → q.clauses.Closed
  | .intro reachable columns indexes groupBy having facets target fields input assigned assigning
      raw filters orderBy, hplain => by
    have plain := Query.plain_of_isPlain hplain
    exact Query.PartsSealed.closed
      { columns := fun column h =>
          ((columns column h).holds .column (plain.columns column h)).sealed
        indexes := fun column h => ((indexes column h).holds .index (plain.indexes column h)).sealed
        groupBy := fun column h =>
          ((groupBy column h).holds .column (plain.groupBy column h)).sealed
        having := fun logic c h => (having logic c h).block (plain.having logic c h)
        facets := fun facet h => (facets facet h).enclosed (plain.facets facet h)
        target := fun column h => ((target column h).holds .index (plain.target column h)).sealed
        fields := fun column h => ((fields column h).holds .column (plain.fields column h)).sealed
        input := input.enclosed plain.input
        assigned := fun a h => ((assigned a h).holds .column (plain.assignments a h).1).sealed
        assigning := fun a h => ((assigning a h).blocks (plain.assignments a h).2).text
        filters := fun logic c h => (filters logic c h).block (plain.filters logic c h)
        orderBy := fun key h => ((orderBy key h).holds .column (plain.orderBy key h)).sealed }
      reachable plain

end

end SearchQL
