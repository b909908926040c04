import SearchQL.Proofs.Closed

/-!
# The keywords of a selection

No data can forge a clause of a selection, swallow one or change their order. Whoever looks for
keywords outside of literals, quoted names and brackets finds the clauses that the query has, each
once and in order, and between the keywords the texts of the clauses.

* `Outline.Sections` says that a text is read as clauses, with a rule for each way of putting
  clauses together.
* `Texts` are the texts of the clauses of a query; `Texts.Of.selection` puts them together, and
  `Texts.Of.sections` says how the whole is read.
* `Query.outline_selection` is the result.
-/

namespace SearchQL

namespace Outline

/-! ## Cutting -/

/-- The lexemes of a clause behind a blank. -/
def sectionLexemes (s : List Char × List Char) : List Lexeme :=
  .plain ' ' :: .head s.1 :: .plain ' ' :: s.2.map .plain

theorem begins_sections (ss : List (List Char × List Char)) :
    begins (ss.flatMap sectionLexemes) = false := by
  cases ss with
  | nil => rfl
  | cons s ss => rfl

/-- A text without keywords is not cut. -/
theorem cut_plain {rest : List Lexeme} (h : begins rest = false) (cs : List Char) :
    cut (cs.map .plain ++ rest) = (cs ++ (cut rest).1, (cut rest).2) := by
  induction cs with
  | nil => rfl
  | cons c cs ih =>
    have hbegins : begins (cs.map .plain ++ rest) = false := by
      cases cs with
      | nil => exact h
      | cons d cs => rfl
    rw [List.map_cons, List.cons_append, cut, ih, hbegins]
    simp

/-- A keyword with a text without keywords behind it. -/
theorem cut_head (word body : List Char) {rest : List Lexeme} (h : begins rest = false) :
    cut (.head word :: (.plain ' ' :: body.map .plain ++ rest)) =
      ([], (word, body ++ (cut rest).1) :: (cut rest).2) := by
  have hbody := cut_plain h (' ' :: body)
  rw [List.map_cons] at hbody
  rw [cut, hbody]
  simp

theorem cut_sections (ss : List (List Char × List Char)) :
    cut (ss.flatMap sectionLexemes) = ([], ss) := by
  induction ss with
  | nil => rfl
  | cons s ss ih =>
    have hcut := cut_head s.1 s.2 (begins_sections ss)
    rw [ih, List.append_nil] at hcut
    rw [List.flatMap_cons, sectionLexemes, List.cons_append, List.cons_append, cut, hcut]
    simp [begins]

/-! ## Clauses -/

/-- The keywords behind SELECT, each with its first word and with what is left of it. -/
def titles : List (String × List Char × List Char) :=
  [("DISTINCT", "DISTINCT".toList, []), ("FROM", "FROM".toList, []), ("WHERE", "WHERE".toList, []),
    ("GROUP BY", "GROUP".toList, "BY ".toList), ("HAVING", "HAVING".toList, []),
    ("ORDER BY", "ORDER".toList, "BY ".toList), ("LIMIT", "LIMIT".toList, [])]

theorem titled_title : ∀ t ∈ titles, ∀ body : String,
    titled t.2.1 (t.2.2 ++ body.toList) = (t.1, body) := by
  intro t ht body
  simp only [titles, List.mem_cons, List.not_mem_nil, or_false] at ht
  rcases ht with rfl | rfl | rfl | rfl | rfl | rfl | rfl <;> simp [titled]

/-- A clause with its keyword, if it is there. -/
def clause? (keyword : String) (there : Bool) (text : String) : List (String × String) :=
  if there then [(keyword, text)] else []

/-- A text that is read as these clauses. -/
structure Sections (s : String) (clauses : List (String × String)) : Prop where
  starts : Starts s
  reads : ∃ ss : List (List Char × List Char), Reads 0 s (ss.flatMap sectionLexemes) ∧
    ss.map (fun s => titled s.1 s.2) = clauses

namespace Sections

theorem nil : Sections "" [] := ⟨nofun, [], by decide, rfl⟩

theorem append {s t : String} {clauses clauses' : List (String × String)}
    (hs : Sections s clauses) (ht : Sections t clauses') :
    Sections (s ++ t) (clauses ++ clauses') := by
  obtain ⟨hstarts, ss, hreads, rfl⟩ := hs
  obtain ⟨hstarts', ts, hreads', rfl⟩ := ht
  refine ⟨hstarts.append hstarts', ss ++ ts, ?_, List.map_append⟩
  rw [List.flatMap_append]
  exact hreads.append hreads' (.inr (.inr hstarts'))

/-- A keyword and its clause. -/
theorem keyword (title : String) {body : String} (hbody : Sealed body)
    (h : title ∈ titles.map Prod.fst := by decide) :
    Sections (" " ++ title ++ " " ++ body) [(title, body)] := by
  obtain ⟨⟨title, word, rest⟩, hmem, rfl⟩ := List.mem_map.1 h
  have hall : ∀ t ∈ titles, Reads 0 (" " ++ t.1 ++ " ") (sectionLexemes t.2) := by decide
  have hblank : isWord ' ' = false := by decide
  have hends : Ends (" " ++ title ++ " ") := by
    intro c hc
    obtain rfl : ' ' = c := by simpa [List.getLast?_cons] using hc
    exact hblank
  refine ⟨?_, [(word, rest ++ body.toList)], ?_, ?_⟩
  · intro c hc
    obtain rfl : ' ' = c := by simpa using hc
    exact hblank
  · have hreads := (hall _ hmem).append (hbody 0) (.inr (.inl hends))
    simpa [sectionLexemes] using hreads
  · rw [List.map_singleton, titled_title _ hmem]

/-- A keyword and its clause, or nothing. -/
theorem optional (title : String) {absent : Bool} {body : String}
    (hbody : absent = false → Sealed body) (h : title ∈ titles.map Prod.fst := by decide) :
    Sections (if absent then "" else " " ++ title ++ " " ++ body)
      (clause? title (!absent) body) := by
  cases absent with
  | true => exact nil
  | false => exact keyword title (hbody rfl) h

theorem listed (title : String) {absent : Bool} {parts : List String}
    (habsent : parts.isEmpty = absent) (hparts : ∀ part ∈ parts, Sealed part)
    (h : title ∈ titles.map Prod.fst := by decide) :
    Sections (Clauses.listed (" " ++ title ++ " ") parts)
      (clause? title (!absent) (joinWith ", " parts)) := by
  have htext : Clauses.listed (" " ++ title ++ " ") parts =
      if absent then "" else " " ++ title ++ " " ++ joinWith ", " parts := by
    subst habsent
    simp [Clauses.listed]
  rw [htext]
  exact optional title (fun _ => .joinWith ", " hparts) h

end Sections

/-- The outline of a statement: SELECT, with nothing or with its clause, and further clauses. -/
theorem outline_of_sections {lead body text : String} {clauses : List (String × String)}
    (hlead : lead = "" ∧ body = "" ∨ lead = " " ++ body ∧ Sealed body)
    (h : Sections text clauses) :
    outline ("SELECT" ++ lead ++ text) = ("SELECT", body) :: clauses := by
  obtain ⟨hstarts, ss, hreads, rfl⟩ := h
  have hselect : Reads 0 "SELECT" [.head "SELECT".toList] := by decide
  have htitle : titled "SELECT".toList body.toList = ("SELECT", body) := by simp [titled]
  suffices hcut : cut (lexemes (.between 0) ("SELECT" ++ lead ++ text).toList) =
      ([], ("SELECT".toList, body.toList) :: ss) by
    rw [outline, hcut]
    exact congrArg (· :: ss.map fun s => titled s.1 s.2) htitle
  rcases hlead with ⟨rfl, rfl⟩ | ⟨rfl, hbody⟩
  -- In front of DISTINCT the clause of SELECT is empty, and SELECT and DISTINCT share one blank.
  · have hall := hselect.append hreads (.inr (.inr hstarts))
    rw [String.append_empty, hall.found, List.singleton_append, cut, cut_sections]
    rfl
  · have hblank : Separates " " := by decide
    have hlead : Passes 0 (" " ++ body) := hblank.append hbody 0
    have hall := (hselect.append hlead (.inr (.inr (hblank.starts_append body)))).append hreads
      (.inr (.inr hstarts))
    have hcut := cut_head "SELECT".toList body.toList (begins_sections ss)
    rw [cut_sections, List.append_nil] at hcut
    rw [hall.found, ← hcut]
    simp

/-- The outline of a selection without repetitions or with them. -/
theorem outline_select (distinct : Bool) {selected tail : String}
    {clauses : List (String × String)} (hselected : Sealed selected) (h : Sections tail clauses) :
    outline ("SELECT " ++ (if distinct then "DISTINCT " else "") ++ selected ++ tail) =
      (if distinct then [("SELECT", ""), ("DISTINCT", selected)] else [("SELECT", selected)]) ++
        clauses := by
  cases distinct with
  | true =>
    have hall := outline_of_sections (.inl ⟨rfl, rfl⟩)
      ((Sections.keyword "DISTINCT" hselected).append h)
    have htext : "SELECT" ++ "" ++ (" " ++ "DISTINCT" ++ " " ++ selected ++ tail) =
        "SELECT " ++ "DISTINCT " ++ selected ++ tail := by
      simp [← String.toList_inj]
    rw [htext] at hall
    exact hall
  | false =>
    have hall := outline_of_sections (.inr ⟨rfl, hselected⟩) h
    have htext : "SELECT" ++ (" " ++ selected) ++ tail =
        "SELECT " ++ "" ++ selected ++ tail := by
      simp [← String.toList_inj]
    rw [htext] at hall
    exact hall

end Outline

open Outline

/-! ## The clauses of a query -/

namespace Condition

/-- The clause of a group is written if the group has entries, and holds the text of the group. -/
theorem conditions_renderClause (keyword : String) (scope : Scope) {g : Group Condition}
    {text : String} (h : renderGroup scope.keyword g = .ok text) :
    Clauses.conditions keyword (renderClause scope g) =
      .ok (if g.isEmpty then "" else keyword ++ text) := by
  rw [renderClause_eq]
  split
  · rfl
  · rw [h]
    rfl

theorem sealed_of_renderClause (scope : Scope) {g : Group Condition}
    (h : ∀ x ∈ renderClause scope g, Yields Sealed x) (hne : g.isEmpty = false) {text : String}
    (htext : renderGroup scope.keyword g = .ok text) : Sealed text :=
  h _ (by rw [renderClause_eq, hne]; rfl) text htext

/-- A sound group that has a clause or none has a text by itself. -/
theorem exists_renderGroup (scope : Scope) {g : Group Condition} (hg : g.Sound)
    (h : ∀ x ∈ renderClause scope g, Succeeds x) :
    ∃ text, renderGroup scope.keyword g = .ok text :=
  (succeeds_renderGroup _ g).2 ((succeeds_renderClause scope hg).1 h)

end Condition

namespace Query

/-- What a selection has to satisfy: the full-text search, the conditions, or both. -/
def restriction (q : Query) (filters : String) : String :=
  joinWith " AND "
    ((if q.searches.isEmpty then [] else ["MATCH(" ++ Search.argument q.searches ++ ")"]) ++
      if q.filters.isEmpty then [] else [filters])

/-- The numbers behind LIMIT. -/
def range (q : Query) : String :=
  match q.limit, q.offset with
  | some limit, some offset => toString offset ++ ", " ++ toString limit
  | some limit, none => toString limit
  | none, _ => ""

theorem selectionFilter_eq (q : Query) {filters : String}
    (h : Condition.renderGroup "WHERE" q.filters = .ok filters) :
    q.clauses.selectionFilter =
      .ok (if q.searches.isEmpty && q.filters.isEmpty then ""
        else " WHERE " ++ q.restriction filters) := by
  have hclause := fun keyword => Condition.conditions_renderClause keyword .filters h
  unfold Clauses.selectionFilter restriction
  rw [search_clauses, filters_clauses]
  cases hsearches : q.searches.isEmpty <;> cases hfilters : q.filters.isEmpty <;>
    simp [hclause, hfilters, Except.map, ← String.toList_inj]

theorem render_eq_selection {q : Query} (hkind : q.kind.any Kind.selects = true) :
    q.render = q.clauses.selection := by
  rw [render]
  cases hk : q.kind with
  | none => simp [hk] at hkind
  | some kind => cases kind <;> first | rfl | simp [hk, Kind.selects] at hkind

theorem sealed_restriction {q : Query} {filters : String}
    (h : q.filters.isEmpty = false → Sealed filters) : Sealed (q.restriction filters) := by
  refine .joinWith " AND " fun part hpart => ?_
  rcases List.mem_append.1 hpart with hpart | hpart
  · split at hpart
    case isTrue => cases hpart
    case isFalse =>
      obtain rfl := List.mem_singleton.1 hpart
      have hargument : Sealed (Search.argument q.searches) := .literal _
      have hbrackets : Starts ("(" ++ Search.argument q.searches ++ ")") := by
        simp [Starts, isWord]
      have hmatch := (Sealed.word "MATCH").append (.parenthesised hargument.enclosed)
        (.inr hbrackets)
      have hword : "MATCH(" = "MATCH" ++ "(" := rfl
      rw [hword]
      simpa only [String.append_assoc] using hmatch
  · split at hpart
    case isTrue => cases hpart
    case isFalse hne =>
      obtain rfl := List.mem_singleton.1 hpart
      exact h (by simpa using hne)

theorem sealed_range (q : Query) : Sealed q.range := by
  have hcomma : Separates ", " := by decide
  unfold range
  split
  · exact hcomma.between (Clauses.Closed.number _) (Clauses.Closed.number _)
  · exact Clauses.Closed.number _
  · exact .word ""

theorem window_eq (q : Query) :
    Clauses.window q.limit q.offset = if !q.limit.isSome then "" else " LIMIT " ++ q.range := by
  unfold range
  cases q.limit with
  | none => rfl
  | some limit =>
    cases q.offset with
    | none => rfl
    | some offset => simp [Clauses.window, String.append_assoc]

end Query

/-! ## The texts of the clauses -/

/-- The texts of the clauses of a selection. -/
structure Texts where
  columns : List String
  indexes : List String
  filters : String
  groupBy : List String
  having : String
  orderBy : List String

namespace Texts

variable {q : Query} {t : Texts}

/-- The texts are those of the clauses of this query, each made by itself. -/
structure Of (t : Texts) (q : Query) : Prop where
  columns : Column.renderAll .column q.columns = .ok t.columns
  indexes : Column.renderAll .index q.indexes = .ok t.indexes
  filters : Condition.renderGroup "WHERE" q.filters = .ok t.filters
  groupBy : Column.renderAll .column q.groupBy = .ok t.groupBy
  having : Condition.renderGroup "HAVING" q.having = .ok t.having
  orderBy : OrderKey.renderAll q.orderBy = .ok t.orderBy

/-- What a selection without options and facets has behind its columns. -/
def tail (t : Texts) (q : Query) : String :=
  Clauses.listed " FROM " t.indexes ++
    ((if q.searches.isEmpty && q.filters.isEmpty then ""
      else " WHERE " ++ q.restriction t.filters) ++
    (Clauses.listed " GROUP BY " t.groupBy ++
    ((if q.having.isEmpty then "" else " HAVING " ++ t.having) ++
    (Clauses.listed " ORDER BY " t.orderBy ++ Clauses.window q.limit q.offset))))

/-- A selection with a text has texts of its clauses. -/
theorem exists_of (hq : q.Reachable) (h : Succeeds q.clauses.selection) : ∃ t : Texts, t.Of q := by
  rw [Clauses.succeeds_selection] at h
  simp only [Query.columns_clauses, Query.indexes_clauses, Query.filters_clauses,
    Query.groupBy_clauses, Query.having_clauses, Query.orderBy_clauses] at h
  obtain ⟨⟨columns, hcolumns⟩, ⟨indexes, hindexes⟩, hfilters, ⟨groupBy, hgroupBy⟩, hhaving,
    ⟨orderBy, horderBy⟩, -⟩ := h
  -- A group without entries has no clause, but a text it has all the same: the empty one.
  obtain ⟨filters, hfilters⟩ := Condition.exists_renderGroup .filters (hq.sound .filters) hfilters
  obtain ⟨having, hhaving⟩ := Condition.exists_renderGroup .having (hq.sound .having) hhaving
  exact ⟨⟨columns, indexes, filters, groupBy, having, orderBy⟩, hcolumns, hindexes, hfilters,
    hgroupBy, hhaving, horderBy⟩

/-- A selection without options and facets is SELECT, its columns, and the clauses it has. -/
theorem Of.selection (h : t.Of q) (hoptions : q.options = []) (hfacets : q.facets = []) :
    q.clauses.selection = .ok ("SELECT " ++ (if q.distinct then "DISTINCT " else "") ++
      Clauses.selected t.columns ++ t.tail q) := by
  have hhaving := Condition.conditions_renderClause " HAVING " .having h.having
  have hnofacets : Facet.renderAll [] = .ok [] := rfl
  rw [Clauses.selection, Query.columns_clauses, h.columns, Query.indexes_clauses, h.indexes,
    q.selectionFilter_eq h.filters, Query.groupBy_clauses, h.groupBy, Query.having_clauses,
    hhaving, Query.orderBy_clauses, h.orderBy, Query.facets_clauses, hfacets, hnofacets,
    Query.options_clauses, hoptions, Query.distinct_clauses, Query.limit_clauses,
    Query.offset_clauses]
  refine congrArg Except.ok ?_
  simp [tail, Clauses.facetText, Clauses.listed, String.append_assoc]

/-- Behind its columns a selection over sealed clauses is read as these clauses. -/
theorem Of.sections (h : t.Of q) (hclosed : q.clauses.Closed) :
    Sections (t.tail q)
      (clause? "FROM" (!q.indexes.isEmpty) (joinWith ", " t.indexes) ++
        (clause? "WHERE" (!(q.searches.isEmpty && q.filters.isEmpty)) (q.restriction t.filters) ++
        (clause? "GROUP BY" (!q.groupBy.isEmpty) (joinWith ", " t.groupBy) ++
        (clause? "HAVING" (!q.having.isEmpty) t.having ++
        (clause? "ORDER BY" (!q.orderBy.isEmpty) (joinWith ", " t.orderBy) ++
        clause? "LIMIT" q.limit.isSome q.range))))) := by
  have hfilters : q.filters.isEmpty = false → Sealed t.filters := fun hne =>
    Condition.sealed_of_renderClause .filters (by simpa using hclosed.filters) hne h.filters
  have hhaving : q.having.isEmpty = false → Sealed t.having := fun hne =>
    Condition.sealed_of_renderClause .having (by simpa using hclosed.having) hne h.having
  have hfrom := Sections.listed "FROM" (Column.isEmpty_of_renderAll h.indexes)
    (hclosed.indexes t.indexes (by rw [Query.indexes_clauses, h.indexes]))
  have hwhere := Sections.optional "WHERE" fun
    (_ : (q.searches.isEmpty && q.filters.isEmpty) = false) => Query.sealed_restriction hfilters
  have hgroup := Sections.listed "GROUP BY" (Column.isEmpty_of_renderAll h.groupBy)
    (hclosed.groupBy t.groupBy (by rw [Query.groupBy_clauses, h.groupBy]))
  have hgroups := Sections.optional "HAVING" hhaving
  have horder := Sections.listed "ORDER BY" (OrderKey.isEmpty_of_renderAll h.orderBy)
    (hclosed.orderBy t.orderBy (by rw [Query.orderBy_clauses, h.orderBy]))
  have hlimit := Sections.optional "LIMIT" fun (_ : (!q.limit.isSome) = false) => q.sealed_range
  rw [Bool.not_not] at hlimit
  rw [tail, Query.window_eq]
  exact hfrom.append (hwhere.append (hgroup.append (hgroups.append (horder.append hlimit))))

end Texts

/-! ## The result -/

namespace Query

/-- **No data forges, swallows or moves a clause.** The keywords of a selection outside of literals,
quoted names and brackets are those of the clauses that the query has, each once and in order, and
the text between two of them is the text of the clause by itself. This holds of every plain query
that can be built, whatever its names and texts are and however queries are nested in it. -/
theorem outline_selection {q : Query} (hq : q.Built) (hplain : q.isPlain = true)
    (hkind : q.kind.any Kind.selects = true) (hfacets : q.facets = []) {text : String}
    (htext : q.render = .ok text) :
    ∃ t : Texts, t.Of q ∧ outline text =
      (if q.distinct then [("SELECT", ""), ("DISTINCT", Clauses.selected t.columns)]
        else [("SELECT", Clauses.selected t.columns)]) ++
      (clause? "FROM" (!q.indexes.isEmpty) (joinWith ", " t.indexes) ++
      (clause? "WHERE" (!(q.searches.isEmpty && q.filters.isEmpty)) (q.restriction t.filters) ++
      (clause? "GROUP BY" (!q.groupBy.isEmpty) (joinWith ", " t.groupBy) ++
      (clause? "HAVING" (!q.having.isEmpty) t.having ++
      (clause? "ORDER BY" (!q.orderBy.isEmpty) (joinWith ", " t.orderBy) ++
      clause? "LIMIT" q.limit.isSome q.range))))) := by
  have hclosed := hq.closed hplain
  have hoptions : q.options = [] := (plain_of_isPlain hplain).options
  rw [render_eq_selection hkind] at htext
  obtain ⟨t, ht⟩ := Texts.exists_of hq.reachable ⟨text, htext⟩
  obtain rfl := Except.ok.inj (htext.symm.trans (ht.selection hoptions hfacets))
  have hselected : Sealed (Clauses.selected t.columns) :=
    Clauses.Closed.selected (hclosed.columns t.columns (by rw [columns_clauses, ht.columns]))
  exact ⟨t, ht, outline_select q.distinct hselected (ht.sections hclosed)⟩

/-- A selection from an index whose name is a keyword. -/
def fromLimit : Query := empty.run [.select [], .index (.name "LIMIT"), .limit 1]

/-- A selection with all its clauses, whose names and texts have keywords, quotes and brackets, and
which selects a query. -/
def forging : Query :=
  empty.run [.select [.aliased (.query fromLimit) "` FROM `", .name "x.*"], .distinct true,
    .index (.name "rt WHERE 1"), .search ⟨none, .text "' LIMIT ("⟩, .openBracket .filters .and,
    .condition .filters .or ⟨.name ") GROUP BY (", .inList, .list [.text "') HAVING (", .int 1]⟩,
    .closeBracket false, .groupBy [.name "ORDER"], .condition .having .and ⟨.name "", .is, .null⟩,
    .order ⟨.name "SELECT", .descending⟩, .limit 10, .offset 5]

theorem fromLimit_built : fromLimit.Built := by
  have hindexes : ∀ column ∈ fromLimit.indexes, column.Built := fun column h =>
    List.mem_singleton.1 h ▸ .name "LIMIT"
  exact .intro (Reachable.empty.run _) nofun hindexes nofun nofun nofun nofun nofun (.rows nofun)
    nofun nofun nofun nofun nofun

theorem forging_built : forging.Built := by
  have hcolumns : ∀ column ∈ forging.columns, column.Built := fun column h => by
    rcases List.mem_pair.1 h with rfl | rfl
    · exact .aliased (.query fromLimit_built) _
    · exact .name _
  have hindexes : ∀ column ∈ forging.indexes, column.Built := fun column h =>
    List.mem_singleton.1 h ▸ .name _
  have hgroupBy : ∀ column ∈ forging.groupBy, column.Built := fun column h =>
    List.mem_singleton.1 h ▸ .name _
  have hhaving : ∀ logic c, .clause logic c ∈ forging.having.entries → c.Built :=
    fun logic c h => by
      cases List.mem_singleton.1 h
      exact .intro (.name "") .null
  have hfilters : ∀ logic c, .clause logic c ∈ forging.filters.entries → c.Built :=
    fun logic c h => by
      have hentries : forging.filters.entries = [.opened .and, .clause .or
        ⟨.name ") GROUP BY (", .inList, .list [.text "') HAVING (", .int 1]⟩, .closed] := rfl
      rw [hentries] at h
      obtain ⟨-, rfl⟩ : logic = .or ∧ c = _ := by simpa using h
      refine .intro (.name _) (.list fun value hvalue => ?_)
      rcases List.mem_pair.1 hvalue with rfl | rfl
      · exact .text _
      · exact .int 1
  have horderBy : ∀ key ∈ forging.orderBy, key.column.Built := fun key h =>
    List.mem_singleton.1 h ▸ .name _
  exact .intro (Reachable.empty.run _) hcolumns hindexes hgroupBy hhaving nofun nofun nofun
    (.rows nofun) nofun nofun nofun hfilters horderBy

theorem outline_selection_forging :
    forging.Built ∧ forging.isPlain = true ∧ ∃ text, forging.render = .ok text ∧
      (outline text).map Prod.fst =
        ["SELECT", "DISTINCT", "FROM", "WHERE", "GROUP BY", "HAVING", "ORDER BY", "LIMIT"] := by
  have hplain : forging.isPlain = true := by decide +kernel
  have hrender : ∃ text, forging.render = .ok text := ⟨_, rfl⟩
  obtain ⟨text, htext⟩ := hrender
  obtain ⟨_, -, houtline⟩ := outline_selection forging_built hplain rfl rfl htext
  refine ⟨forging_built, hplain, text, htext, ?_⟩
  rw [houtline]
  rfl

end Query

end SearchQL
