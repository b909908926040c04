import SearchQL.Proofs.Keywords
import SearchQL.Proofs.Words
import SearchQL.Query.Build

/-!
# Cleaned texts need no escaping

A cleaned text has word characters and spaces in it and nothing else. None of these is an operator
of a full-text query, and none is escaped in a literal. So a cleaned text stands in a statement as
it is, and searching for it puts it between the quotes of MATCH.

* `Literal.escaped` are the characters that are escaped in a literal.
* `SearchText.IsPlain` says which characters a cleaned text has.
* `Clauses.selection_eq` takes the conditions out of a selection, and `Clauses.Searched` says where
  a search stands in it.
* `SearchText.clean_unescaped` is the result.
-/

namespace SearchQL

/-! ## Characters that stand for themselves -/

/-- A text is written as it is if each of its characters is. -/
theorem flatMap_of_kept {written : Char → List Char} {cs : List Char}
    (h : ∀ c ∈ cs, written c = [c]) : cs.flatMap written = cs := by
  rw [List.flatMap_congr h, List.flatMap_singleton']

namespace Literal

/-- The characters that are escaped in a literal. -/
def escaped : List Char := ['\\', '\'', '"', '\x00', '\n', '\r', '\x1a']

/-- A text without such characters is written as it is. -/
theorem escape_of_not_mem {cs : List Char} (h : ∀ c ∈ cs, c ∉ escaped) : escape cs = cs := by
  refine flatMap_of_kept fun c hc => ?_
  have hne := h c hc
  simp only [escaped, List.mem_cons, List.not_mem_nil, or_false, not_or] at hne
  simp [escapeChar, hne]

end Literal

namespace FullText

/-- A text without operators is written as it is. -/
theorem escape_of_not_mem {cs : List Char} (h : ∀ c ∈ cs, c ∉ operators) : escape cs = cs :=
  flatMap_of_kept fun c hc => if_neg (h c hc)

end FullText

namespace SearchText

/-- A text of word characters and spaces. -/
def IsPlain (text : String) : Prop := ∀ c ∈ text.toList, isWord c = true ∨ c = ' '

theorem IsNormal.isPlain {text : String} (h : IsNormal text) : IsPlain text := by
  obtain ⟨runs, hruns, rfl⟩ := h
  intro c hc
  rcases mem_joinWith hc with hspace | ⟨run, hrun, hmem⟩
  · exact .inr (List.mem_singleton.1 hspace)
  · exact .inl ((hruns run hrun).1.2 c hmem)

/-- What is escaped, in a literal or in a full-text query, is neither a word character nor a
space. -/
theorem not_plain_of_escaped :
    ((Literal.escaped ++ FullText.operators).all fun c => !isWord c && c != ' ') = true := by
  decide +kernel

theorem IsPlain.not_mem {text : String} (h : IsPlain text) :
    ∀ c ∈ text.toList, c ∉ Literal.escaped ++ FullText.operators := by
  intro c hc hescaped
  have hnot := List.all_eq_true.1 not_plain_of_escaped c hescaped
  rcases h c hc with hword | rfl
  · simp [hword] at hnot
  · simp at hnot

/-- A full-text query matches a plain text with the text itself. -/
theorem IsPlain.fullText_encode {text : String} (h : IsPlain text) :
    FullText.encode text = text := by
  have hnone : ∀ c ∈ text.toList, c ∉ FullText.operators := fun c hc hmem =>
    h.not_mem c hc (List.mem_append_right _ hmem)
  rw [FullText.encode, FullText.escape_of_not_mem hnone, String.ofList_toList]

/-- The literal of a plain text is the text between quotes. -/
theorem IsPlain.literal_encode {text : String} (h : IsPlain text) :
    Literal.encode text = "'" ++ text ++ "'" := by
  have hnone : ∀ c ∈ text.toList, c ∉ Literal.escaped := fun c hc hmem =>
    h.not_mem c hc (List.mem_append_left _ hmem)
  rw [← String.toList_inj, Literal.toList_encode, Literal.escape_of_not_mem hnone]
  simp

end SearchText

/-! ## The search in a selection -/

namespace Clauses

/-- A keyword and what it introduces, or nothing. -/
def introduced (keyword : String) : Option String → String
  | none => ""
  | some text => keyword ++ text

/-- The conditions of a selection, without a keyword. -/
def restriction? (c : Clauses) : Except Error (Option String) :=
  match c.filters with
  | none => .ok none
  | some text => text.map some

theorem conditions_filters (keyword : String) (c : Clauses) :
    conditions keyword c.filters = c.restriction?.map (introduced keyword) := by
  rw [restriction?]
  rcases c.filters with _ | e | text <;> rfl

/-- What stands behind the conditions of a selection. -/
def behindFilter (c : Clauses) : Except Error String := do
  let groupBy ← c.groupBy
  let having ← conditions " HAVING " c.having
  let orderBy ← c.orderBy
  let facets ← c.facets
  return listed " GROUP BY " groupBy ++ having ++ listed " ORDER BY " orderBy ++
    window c.limit c.offset ++ listed " OPTION " c.options ++ facetText facets

/-- A selection is its columns and indexes, its conditions, and what stands behind them. -/
theorem selection_eq (c : Clauses) : c.selection = do
    let columns ← c.columns
    let indexes ← c.indexes
    let filter ← c.selectionFilter
    let behind ← c.behindFilter
    return "SELECT " ++ (if c.distinct then "DISTINCT " else "") ++ selected columns ++
      listed " FROM " indexes ++ filter ++ behind := by
  rw [selection, behindFilter]
  rcases c.columns with e | columns
  · rfl
  rcases c.indexes with e | indexes
  · rfl
  rcases c.selectionFilter with e | filter
  · rfl
  rcases c.groupBy with e | groupBy
  · rfl
  rcases conditions " HAVING " c.having with e | having
  · rfl
  rcases c.orderBy with e | orderBy
  · rfl
  rcases c.facets with e | facets
  · rfl
  refine congrArg Except.ok ?_
  simp only [String.append_assoc]

/-- How a selection that searches, `searching`, goes with the one that does not, `plain`: the search
is the first of its conditions, or the only one, and all else is as it was. -/
def Searched (argument : String) (plain searching : Except Error String) : Prop :=
  (∀ e, plain = .error e → searching = .error e) ∧
  ∀ text, plain = .ok text → ∃ before restriction after,
    text = before ++ introduced " WHERE " restriction ++ after ∧
    searching = .ok (before ++ (" WHERE MATCH(" ++ argument ++ ")" ++
      introduced " AND " restriction) ++ after)

namespace Searched

variable {argument : String}

theorem intro (before : String) (restriction : Option String) (after : String) :
    Searched argument (.ok (before ++ introduced " WHERE " restriction ++ after))
      (.ok (before ++ (" WHERE MATCH(" ++ argument ++ ")" ++ introduced " AND " restriction) ++
        after)) :=
  ⟨nofun, fun _ htext => ⟨before, restriction, after, (Except.ok.inj htext).symm, rfl⟩⟩

/-- A clause that both have is looked at first in both. -/
theorem bind {α : Type} {x : Except Error α} {plain searching : α → Except Error String}
    (h : ∀ a, Searched argument (plain a) (searching a)) :
    Searched argument (x >>= plain) (x >>= searching) := by
  cases x with
  | error e => exact ⟨fun _ he => he, nofun⟩
  | ok a => exact h a

end Searched

/-- A search stands in front of the conditions of a selection. -/
theorem searched_selection {c : Clauses} (hc : c.search = none) (argument : String) :
    Searched argument c.selection { c with search := some argument }.selection := by
  have hplain : c.selectionFilter = c.restriction? >>= fun restriction =>
      .ok (introduced " WHERE " restriction) := by
    rw [selectionFilter, hc, conditions_filters]
    rfl
  have hsearching : { c with search := some argument }.selectionFilter =
      c.restriction? >>= fun restriction =>
        .ok (" WHERE MATCH(" ++ argument ++ ")" ++ introduced " AND " restriction) := by
    have hfilter : { c with search := some argument }.selectionFilter =
        (conditions " AND " c.filters).map (" WHERE MATCH(" ++ argument ++ ")" ++ ·) := rfl
    rw [hfilter, conditions_filters]
    cases c.restriction? <;> rfl
  have hbehind : { c with search := some argument }.behindFilter = c.behindFilter := rfl
  rw [selection_eq, selection_eq, hplain, hsearching, hbehind]
  refine .bind fun columns => .bind fun indexes => ?_
  rw [bind_assoc, bind_assoc]
  exact .bind fun restriction => .bind fun behind => .intro _ restriction behind

end Clauses

/-! ## The result -/

namespace SearchText

/-- The query that also searches for the words of a text. -/
def addTo (s : SearchText) (q : Query) : Query := q.addSearch ⟨none, .text s.text⟩

/-- The argument of MATCH for a text that needs no escaping. -/
theorem argument_of_isPlain {text : String} (h : IsPlain text) :
    Search.argument [⟨none, .text text⟩] = "'" ++ text ++ "'" := by
  have hencode : Search.encode ⟨none, .text text⟩ = text := h.fullText_encode
  rw [Search.argument, List.map_singleton, hencode, joinWith_singleton, h.literal_encode]

theorem clauses_addTo (s : SearchText) {q : Query} (hq : q.searches = []) :
    (s.addTo q).clauses =
      { q.clauses with search := some (Search.argument [⟨none, .text s.text⟩]) } := by
  cases q with
  | mk _ _ _ _ searches =>
    obtain rfl : searches = [] := hq
    rfl

/-- **A cleaned text needs no escaping anywhere.** It is written as it is in a full-text query, and
between single quotes in a literal. So a selection that searches for it alone has exactly the
cleaned text between the quotes of MATCH, and nothing else of the selection is changed by it. -/
theorem clean_unescaped (text : String) :
    (Term.text (clean text)).encode = clean text ∧
    Literal.encode (clean text) = "'" ++ clean text ++ "'" ∧
    (∀ q : Query, q.searches = [⟨none, .text (ofText text).text⟩] →
      q.clauses.search = some ("'" ++ clean text ++ "'")) ∧
    ∀ q : Query, q.kind.any Kind.selects = true → q.searches = [] →
      Clauses.Searched ("'" ++ clean text ++ "'") q.render ((ofText text).addTo q).render := by
  have hplain : IsPlain (clean text) := (isNormal_clean text).isPlain
  have hargument : Search.argument [⟨none, .text (ofText text).text⟩] =
      "'" ++ clean text ++ "'" := argument_of_isPlain hplain
  refine ⟨hplain.fullText_encode, hplain.literal_encode, fun q hq => ?_, fun q hkind hq => ?_⟩
  · rw [Query.search_clauses, hq, hargument]
    rfl
  · have hnone : q.clauses.search = none := by rw [Query.search_clauses, hq]; rfl
    have hkind' : ((ofText text).addTo q).kind.any Kind.selects = true := hkind
    rw [Query.render_eq_selection hkind, Query.render_eq_selection hkind', clauses_addTo _ hq,
      hargument]
    exact Clauses.searched_selection hnone _

/-- What was typed has quotes, operators and controls in it; what is searched for has none. -/
theorem clean_unescaped_typed :
    let s := ofText "It's \"A\\B\"\n(50% off)"
    let q := Query.selectingFrom (.name "rt")
    Clauses.Searched "'its ab 50 off'" q.render (s.addTo q).render ∧
    (s.addTo q).clauses.search = some "'its ab 50 off'" ∧
    (s.addTo q).render = .ok "SELECT * FROM `rt` WHERE MATCH('its ab 50 off')" := by
  intro s q
  have hclean : clean "It's \"A\\B\"\n(50% off)" = "its ab 50 off" := by decide +kernel
  obtain ⟨-, -, hargument, hsearched⟩ := clean_unescaped "It's \"A\\B\"\n(50% off)"
  rw [hclean] at hargument hsearched
  exact ⟨hsearched q rfl rfl, hargument (s.addTo q) rfl, by decide +kernel⟩

end SearchText

end SearchQL
