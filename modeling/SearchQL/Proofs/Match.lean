import SearchQL.Proofs.Reading
import SearchQL.Proofs.Redact
import SearchQL.Query.Statement

/-!
# Plain text in a full-text search

The argument of MATCH is a literal whose content is a query in a language of its own. Two layers of
backslashes stand around plain text: one of the literal, which a reader of the statement takes off,
and one of the query. What is left between them has no operators but the brackets of the fields.

* `FullText.read` reads a query: each character, and whether it stands behind a backslash.
* `FullText.operatorsOf` are the operators of a query, `FullText.contentOf` what it says.
* `FullText.Spells` relates a piece of a query to both, with rules for putting pieces together.
* `Search.operators_of_argument` is the result.
-/

namespace SearchQL

namespace FullText

/-! ## Reading a query -/

/-- The characters of a query, each with whether a backslash escapes it. -/
def read : List Char → List (Char × Bool)
  | [] => []
  | [c] => [(c, false)]
  | c :: d :: cs => if c = '\\' then (d, true) :: read cs else (c, false) :: read (d :: cs)

/-- Whether a character that was read is an operator. -/
def isOperator (p : Char × Bool) : Bool := !p.2 && decide (p.1 ∈ operators)

/-- The operators of a query, from left to right. -/
def operatorsOf (cs : List Char) : List Char := ((read cs).filter isOperator).map Prod.fst

/-- A query without the backslashes that escape. -/
def contentOf (cs : List Char) : List Char := (read cs).map Prod.fst

theorem read_cons {c : Char} (hc : c ≠ '\\') (cs : List Char) :
    read (c :: cs) = (c, false) :: read cs := by
  cases cs with
  | nil => rfl
  | cons d cs => rw [read, if_neg hc]

theorem read_slash (c : Char) (cs : List Char) : read ('\\' :: c :: cs) = (c, true) :: read cs := by
  rw [read, if_pos rfl]

/-- An escaped text is read as its characters, and none of them is an operator. -/
theorem read_escape_append (cs rest : List Char) :
    read (escape cs ++ rest) = cs.map (fun c => (c, decide (c ∈ operators))) ++ read rest := by
  induction cs with
  | nil => rfl
  | cons c cs ih =>
    have hcons : escape (c :: cs) ++ rest = escapeChar c ++ (escape cs ++ rest) := by simp [escape]
    rw [hcons, escapeChar, List.map_cons, List.cons_append, ← ih]
    by_cases hc : c ∈ operators
    · rw [if_pos hc, decide_eq_true hc, List.cons_append, List.singleton_append, read_slash]
    · have hslash : c ≠ '\\' := by
        rintro rfl
        exact hc (by decide)
      rw [if_neg hc, decide_eq_false hc, List.singleton_append, read_cons hslash]

/-! ## Pieces of a query -/

/-- Whatever follows, a piece of a query is read by itself: its operators are `marks`, and it says
`content`. -/
def Spells (piece : String) (marks : List Char) (content : String) : Prop :=
  ∃ glyphs, (∀ rest, read (piece.toList ++ rest) = glyphs ++ read rest) ∧
    (glyphs.filter isOperator).map Prod.fst = marks ∧ glyphs.map Prod.fst = content.toList

namespace Spells

/-- Characters that escape nothing say what they are. -/
theorem of_bare {s : String} (h : '\\' ∉ s.toList) :
    Spells s (s.toList.filter (· ∈ operators)) s := by
  refine ⟨s.toList.map fun c => (c, false), fun rest => ?_, ?_, ?_⟩
  · revert h
    induction s.toList with
    | nil => exact fun _ => rfl
    | cons c cs ih =>
      intro h
      rw [List.mem_cons, not_or] at h
      rw [List.cons_append, read_cons (Ne.symm h.1), ih h.2]
      rfl
  · rw [List.filter_map, List.map_map]
    exact List.map_id' _
  · rw [List.map_map]
    exact List.map_id' _

/-- Plain text has no operators and says what it is. -/
theorem encode (s : String) : Spells (encode s) [] s := by
  refine ⟨s.toList.map fun c => (c, decide (c ∈ operators)), fun rest => ?_, ?_, ?_⟩
  · rw [toList_encode, read_escape_append]
  · have hnone : ∀ c : Char, isOperator (c, decide (c ∈ operators)) = false := by
      intro c
      simp [isOperator]
    simp [List.filter_map, Function.comp_def, hnone]
  · rw [List.map_map]
    exact List.map_id' _

theorem append {s s' t t' : String} {m m' : List Char} (h : Spells s m t) (h' : Spells s' m' t') :
    Spells (s ++ s') (m ++ m') (t ++ t') := by
  obtain ⟨glyphs, hread, hmarks, hcontent⟩ := h
  obtain ⟨glyphs', hread', hmarks', hcontent'⟩ := h'
  refine ⟨glyphs ++ glyphs', fun rest => ?_, ?_, ?_⟩
  · rw [String.toList_append, List.append_assoc, hread, hread', List.append_assoc]
  · rw [List.filter_append, List.map_append, hmarks, hmarks']
  · rw [List.map_append, hcontent, hcontent', String.toList_append]

/-- Pieces with a separator between them that has no operator. -/
theorem joinWith {α : Type} {sep : String} (hsep : Spells sep [] sep) {piece content : α → String}
    {marks : α → List Char} {xs : List α} (h : ∀ x ∈ xs, Spells (piece x) (marks x) (content x)) :
    Spells (joinWith sep (xs.map piece)) (xs.flatMap marks) (joinWith sep (xs.map content)) := by
  induction xs with
  | nil => exact of_bare (s := "") (by decide)
  | cons x xs ih =>
    rw [List.forall_mem_cons] at h
    cases xs with
    | nil => simpa using h.1
    | cons y ys => simpa using (h.1.append hsep).append (ih h.2)

theorem operatorsOf_eq {s content : String} {marks : List Char} (h : Spells s marks content) :
    operatorsOf s.toList = marks ∧ contentOf s.toList = content.toList := by
  obtain ⟨glyphs, hread, hmarks, hcontent⟩ := h
  have hall : FullText.read s.toList = glyphs := by simpa [FullText.read] using hread []
  rw [operatorsOf, contentOf, hall]
  exact ⟨hmarks, hcontent⟩

end Spells

end FullText

/-! ## Searches -/

/-- What a term says. -/
def Term.content : Term → String
  | .text s => s
  | .template t => t.text

namespace Search

open FullText

/-- What a search says: its term, and before it the fields that it is searched in. -/
def content (s : Search) : String :=
  match s.fields with
  | none => s.term.content
  | some fields => "@(" ++ joinWith "," (fields.map Term.content) ++ ") " ++ s.term.content

/-- The operators of a search: those around its fields. -/
def operators (s : Search) : List Char := if s.fields.isSome then ['@', '(', ')'] else []

theorem spells_term {t : Term} (h : t.isPlain = true) : Spells t.encode [] t.content := by
  cases t with
  | text s => exact .encode s
  | template t => cases h

theorem spells_encode {s : Search} (h : s.isPlain = true) :
    Spells s.encode s.operators s.content := by
  obtain ⟨fields, term⟩ := s
  rw [isPlain, Bool.and_eq_true, List.all_eq_true] at h
  obtain ⟨hfields, hterm⟩ := h
  cases fields with
  | none => exact spells_term hterm
  | some fields =>
    have hfields : ∀ field ∈ fields, field.isPlain = true := hfields
    have hopen : Spells "@(" ['@', '('] "@(" := .of_bare (s := "@(") (by decide)
    have hclose : Spells ") " [')'] ") " := .of_bare (s := ") ") (by decide)
    have hcomma : Spells "," [] "," := .of_bare (s := ",") (by decide)
    have hnames := Spells.joinWith hcomma fun field hfield => spells_term (hfields field hfield)
    have hscope := ((hopen.append hnames).append hclose).append (spells_term hterm)
    have hnone : (fields.flatMap fun _ => ([] : List Char)) = [] := by simp
    rw [hnone] at hscope
    exact hscope

/-- **Plain text in a search never forms an operator and is never altered.** The argument of MATCH
is one literal. The operators in what it says are those around the fields of each search, in order,
and without the backslashes before plain text it says the searches as they were given. -/
theorem operators_of_argument (searches : List Search) (h : ∀ s ∈ searches, s.isPlain = true) :
    ∃ query : String,
      Token.split (argument searches) = some [.literal (Literal.escape query.toList)] ∧
      Datum.read (argument searches).toList = some (.text query, []) ∧
      operatorsOf query.toList = searches.flatMap operators ∧
      contentOf query.toList = (joinWith " " (searches.map content)).toList := by
  have hblank : Spells " " [] " " := .of_bare (s := " ") (by decide)
  have hspells := Spells.joinWith hblank fun s hs => spells_encode (h s hs)
  obtain ⟨hoperators, hcontent⟩ := hspells.operatorsOf_eq
  refine ⟨joinWith " " (searches.map encode), ?_, ?_, hoperators, hcontent⟩
  · have hquote : Scan.start.step '\'' = ⟨[], .quoted []⟩ := rfl
    rw [Token.split, argument, Literal.toList_encode, Scan.run_cons, hquote, Scan.run_literal]
    rfl
  · have hliteral := Datum.Reads.literal (joinWith " " (searches.map encode))
    have hread := hliteral.read _ [] (Nat.le_refl _) (by decide)
    rw [List.append_nil] at hread
    exact hread

/-- A field and a term that end in backslashes, an operator in front of a term that is searched for
everywhere, and no fields at all. -/
theorem operators_of_argument_slashed :
    (∀ s ∈ [Search.mk (some [.text "a\\", .text ")"]) (.text "'\\"), ⟨none, .text "-b@"⟩,
      ⟨some [], .text ""⟩], s.isPlain = true) ∧
    ∃ query : String,
      Token.split (argument [⟨some [.text "a\\", .text ")"], .text "'\\"⟩, ⟨none, .text "-b@"⟩,
        ⟨some [], .text ""⟩]) = some [.literal (Literal.escape query.toList)] ∧
      operatorsOf query.toList = ['@', '(', ')', '@', '(', ')'] ∧
      contentOf query.toList = "@(a\\,)) '\\ -b@ @() ".toList := by
  have hplain : ∀ s ∈ [Search.mk (some [.text "a\\", .text ")"]) (.text "'\\"),
      ⟨none, .text "-b@"⟩, ⟨some [], .text ""⟩], s.isPlain = true := by decide
  obtain ⟨query, hsplit, -, hoperators, hcontent⟩ := operators_of_argument _ hplain
  exact ⟨hplain, query, hsplit, hoperators, hcontent⟩

end Search

end SearchQL
