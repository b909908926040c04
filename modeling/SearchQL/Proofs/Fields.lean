import SearchQL.Proofs.Match

/-!
# The fields that a term is searched in

A search in some fields is written with their names in front of its term, and a search in all fields
without. In a query the names hold for everything up to the next names, so a term without names
belongs to the fields of the search before it.

* `FullText.reach` reads a query: each character, and the fields that it is searched in.
* `Search.asGiven` are the characters with the fields that they were given with, and `Search.asRead`
  with those that the searches before them leave them.
* `Search.InOrder` are the searches for which both are the same (`Search.asGiven_eq_asRead_iff`),
  and `Search.gathered` puts other searches into order without changing their text.
* `Search.fields_of_argument` says what the argument of MATCH determines, and `Search.fields_lost`
  are searches whose fields it does not.
-/

namespace SearchQL

namespace FullText

/-! ## Reading the fields -/

/-- Where a reader of a query is, and what it knows of the fields. -/
inductive Cursor where
  /-- In a term that is searched in `fields`, or in all. -/
  | term (fields : Option (List String))
  /-- Behind the mark of fields. -/
  | mark
  /-- Between the brackets of fields, behind `cs`. -/
  | names (cs : List Char)

/-- The names between the brackets of fields. -/
def fieldNames (cs : List Char) : List String :=
  if cs = [] then [] else (pieces ',' cs).map String.ofList

/-- The characters of terms but the spaces, each with the fields that it is searched in. -/
def follow : Cursor → List (Char × Bool) → List (Char × Option (List String))
  | _, [] => []
  | .term fields, p :: ps =>
    if p = ('@', false) then follow .mark ps
    else if p.1 = ' ' then follow (.term fields) ps
    else (p.1, fields) :: follow (.term fields) ps
  | .mark, _ :: ps => follow (.names []) ps
  | .names cs, p :: ps =>
    if p = (')', false) then follow (.term (some (fieldNames cs))) ps
    else follow (.names (cs ++ [p.1])) ps

/-- The characters of a query but the spaces, each with the fields that it is searched in. -/
def reach (cs : List Char) : List (Char × Option (List String)) := follow (.term none) (read cs)

/-- The glyphs of plain text are no marks, so all of it is searched in the same fields. -/
theorem follow_term_plain (fields : Option (List String)) (cs : List Char)
    (ps : List (Char × Bool)) :
    follow (.term fields) (cs.map (fun c => (c, decide (c ∈ operators))) ++ ps) =
      (cs.filter (· ≠ ' ')).map (·, fields) ++ follow (.term fields) ps := by
  induction cs with
  | nil => rfl
  | cons c cs ih =>
    have hmark : (c, decide (c ∈ operators)) ≠ ('@', false) := by
      rintro ⟨⟩
    rw [List.map_cons, List.cons_append, follow, if_neg hmark, ih]
    by_cases hc : c = ' '
    · rw [if_pos hc, List.filter_cons_of_neg (by simpa using hc)]
    · rw [if_neg hc, List.filter_cons_of_pos (by simpa using hc), List.map_cons, List.cons_append]

/-- Plain text between the brackets of fields does not end them. -/
theorem follow_names_plain (cs ds : List Char) (ps : List (Char × Bool)) :
    follow (.names cs) (ds.map (fun c => (c, decide (c ∈ operators))) ++ ps) =
      follow (.names (cs ++ ds)) ps := by
  induction ds generalizing cs with
  | nil => rw [List.append_nil, List.map_nil, List.nil_append]
  | cons d ds ih =>
    have hclose : (d, decide (d ∈ operators)) ≠ (')', false) := by
      rintro ⟨⟩
    rw [List.map_cons, List.cons_append, follow, if_neg hclose, ih, List.append_assoc,
      List.singleton_append]

/-- Names that are not empty and have no comma are read back. -/
theorem fieldNames_joinWith {names : List String}
    (h : ∀ name ∈ names, name ≠ "" ∧ ',' ∉ name.toList) :
    fieldNames (joinWith "," names).toList = names := by
  cases names with
  | nil => rfl
  | cons name names =>
    have hne : (joinWith "," (name :: names)).toList ≠ [] := by
      have hname : name.toList ≠ [] := by simpa using (h name List.mem_cons_self).1
      rw [toList_joinWith_cons]
      exact List.append_ne_nil_of_left_ne_nil hname _
    rw [fieldNames, if_neg hne, pieces_joinWith rfl fun name hmem => (h name hmem).2, List.map_map]
    simp [Function.comp_def]

/-! ## Escaped texts put together -/

theorem encode_append (s t : String) : encode (s ++ t) = encode s ++ encode t := by
  simp [encode, escape]

/-- A separator without operators may be escaped with the parts. -/
theorem joinWith_encode {sep : String} (hsep : encode sep = sep) (parts : List String) :
    joinWith sep (parts.map encode) = encode (joinWith sep parts) := by
  induction parts with
  | nil => rfl
  | cons part parts ih =>
    cases parts with
    | nil => rfl
    | cons next rest =>
      rw [joinWith_cons_cons, encode_append, encode_append, hsep, ← ih, List.map_cons, List.map_cons,
        joinWith_cons_cons]

end FullText

namespace Search

open FullText

/-! ## Searches with names -/

/-- The names of the fields that are searched, or none for all fields. -/
def names? (s : Search) : Option (List String) := s.fields.map (·.map Term.content)

/-- A search for plain text in fields whose names are plain, not empty and free of commas, or in
all fields. -/
def IsNamed (s : Search) : Prop :=
  s.isPlain = true ∧ ∀ names ∈ s.names?, ∀ name ∈ names, name ≠ "" ∧ ',' ∉ name.toList

instance (s : Search) : Decidable s.IsNamed := inferInstanceAs (Decidable (_ ∧ _))

/-- What is searched for, without the spaces. -/
def visible (s : Search) : List Char := s.term.content.toList.filter (· ≠ ' ')

/-- What is searched for, each character with the same fields. -/
def tagged (s : Search) (fields : Option (List String)) : List (Char × Option (List String)) :=
  s.visible.map (·, fields)

/-- The characters of searches, each with the fields that it was given with. -/
def asGiven (searches : List Search) : List (Char × Option (List String)) :=
  searches.flatMap fun s => s.tagged s.names?

/-- The characters of searches behind a search in `fields`, each with the fields of its search or,
for a search in all fields, with those of the search before it. -/
def asRead (fields : Option (List String)) : List Search → List (Char × Option (List String))
  | [] => []
  | s :: searches => s.tagged (s.names?.or fields) ++ asRead (s.names?.or fields) searches

/-- No search in all fields stands behind one in some, unless it is blank. -/
def InOrder (searches : List Search) : Prop :=
  searches.Pairwise fun s t => s.names? ≠ none → t.names? = none → t.visible = []

theorem term_encode_eq {t : Term} (h : t.isPlain = true) :
    t.encode = FullText.encode t.content := by
  cases t with
  | text s => rfl
  | template t => cases h

/-- The names of the fields stand in the text of a search behind one mark and between brackets. -/
theorem encode_eq {s : Search} (h : s.isPlain = true) :
    s.encode = (match s.names? with
      | none => FullText.encode s.term.content
      | some names => "@(" ++ FullText.encode (joinWith "," names) ++ ") " ++
          FullText.encode s.term.content) := by
  obtain ⟨fields, term⟩ := s
  rw [isPlain, Bool.and_eq_true, List.all_eq_true] at h
  obtain ⟨hfields, hterm⟩ := h
  cases fields with
  | none => exact term_encode_eq hterm
  | some fields =>
    have hnames : fields.map Term.encode = (fields.map Term.content).map FullText.encode := by
      rw [List.map_map]
      exact List.map_congr_left fun field hfield => term_encode_eq (hfields field hfield)
    have hcomma : FullText.encode "," = "," := by decide
    change "@(" ++ joinWith "," (fields.map Term.encode) ++ ") " ++ term.encode = _
    rw [hnames, joinWith_encode hcomma, term_encode_eq hterm]
    rfl

/-- A search is read in its own fields, or in those that were read before it. -/
theorem follow_encode {s : Search} (h : s.IsNamed) (fields : Option (List String))
    (rest : List Char) :
    follow (.term fields) (read (s.encode.toList ++ rest)) =
      s.tagged (s.names?.or fields) ++ follow (.term (s.names?.or fields)) (read rest) := by
  obtain ⟨hplain, hnames⟩ := h
  rw [encode_eq hplain]
  cases hs : s.names? with
  | none =>
    rw [toList_encode, read_escape_append, follow_term_plain]
    rfl
  | some names =>
    have htext : ("@(" ++ FullText.encode (joinWith "," names) ++ ") " ++
        FullText.encode s.term.content).toList ++ rest =
        '@' :: '(' :: (escape (joinWith "," names).toList ++
          ')' :: ' ' :: (escape s.term.content.toList ++ rest)) := by
      simp
    rw [htext, read_cons (by decide), read_cons (by decide), read_escape_append,
      read_cons (by decide), read_cons (by decide), read_escape_append, follow, if_pos rfl, follow,
      follow_names_plain, List.nil_append, follow, if_pos rfl,
      fieldNames_joinWith (hnames names hs), follow, if_neg (by decide), if_pos rfl,
      follow_term_plain]
    rfl

/-! ## Searches one behind the other -/

/-- The texts of searches, with a space in front of each. -/
def spaced (searches : List Search) : List Char := searches.flatMap fun s => ' ' :: s.encode.toList

theorem spaced_cons (s : Search) (searches : List Search) :
    spaced (s :: searches) = ' ' :: (s.encode.toList ++ spaced searches) := rfl

theorem toList_joinWith_encode (searches : List Search) :
    (joinWith " " (searches.map encode)).toList = (spaced searches).tail := by
  cases searches with
  | nil => rfl
  | cons s searches =>
    have hblank : " ".toList = [' '] := rfl
    rw [List.map_cons, toList_joinWith_cons, List.flatMap_map, hblank, spaced_cons, List.tail_cons]
    rfl

theorem follow_spaced {searches : List Search} (h : ∀ s ∈ searches, s.IsNamed)
    (fields : Option (List String)) :
    follow (.term fields) (read (spaced searches)) = asRead fields searches := by
  induction searches generalizing fields with
  | nil => rfl
  | cons s searches ih =>
    rw [List.forall_mem_cons] at h
    rw [spaced_cons, read_cons (by decide), follow, if_neg (by decide), if_pos rfl,
      follow_encode h.1, ih h.2, asRead]

/-- Every search is read in its own fields, or in those of the search before it. -/
theorem reach_joinWith {searches : List Search} (h : ∀ s ∈ searches, s.IsNamed) :
    reach (joinWith " " (searches.map encode)).toList = asRead none searches := by
  rw [toList_joinWith_encode, ← follow_spaced h]
  cases searches with
  | nil => rfl
  | cons s searches =>
    rw [spaced_cons, List.tail_cons, read_cons (by decide), follow, if_neg (by decide), if_pos rfl,
      reach]

/-! ## Searches in order -/

theorem asGiven_cons (s : Search) (searches : List Search) :
    asGiven (s :: searches) = s.tagged s.names? ++ asGiven searches := rfl

theorem tagged_eq_tagged_iff {s : Search} {fields fields' : Option (List String)}
    (h : fields ≠ fields') : s.tagged fields = s.tagged fields' ↔ s.visible = [] := by
  unfold tagged
  cases s.visible with
  | nil => simp
  | cons c cs => simp [h]

/-- A search has as many characters in all fields as in some. -/
theorem tagged_append_eq_iff {s : Search} {fields fields' : Option (List String)}
    {rest rest' : List (Char × Option (List String))} :
    s.tagged fields ++ rest = s.tagged fields' ++ rest' ↔
      s.tagged fields = s.tagged fields' ∧ rest = rest' := by
  have hlength : (s.tagged fields).length = (s.tagged fields').length := by simp [tagged]
  constructor
  · intro h
    exact List.append_inj h hlength
  · rintro ⟨h, rfl⟩
    rw [h]

/-- Behind a search in some fields no search in all fields is read as it was given, unless it is
blank. -/
theorem asGiven_eq_asRead_some_iff {names : List String} {searches : List Search} :
    asGiven searches = asRead (some names) searches ↔
      ∀ t ∈ searches, t.names? = none → t.visible = [] := by
  induction searches generalizing names with
  | nil => simp [asGiven, asRead]
  | cons s searches ih =>
    rw [asGiven_cons, asRead, tagged_append_eq_iff, List.forall_mem_cons]
    cases hs : s.names? with
    | none =>
      have hother : (none : Option (List String)) ≠ some names := nofun
      simp [ih, tagged_eq_tagged_iff hother]
    | some own => simp [ih]

/-- Searches are read as they were given exactly if they are in order. -/
theorem asGiven_eq_asRead_iff {searches : List Search} :
    asGiven searches = asRead none searches ↔ InOrder searches := by
  unfold InOrder
  induction searches with
  | nil => simp [asGiven, asRead]
  | cons s searches ih =>
    rw [asGiven_cons, asRead, tagged_append_eq_iff, List.pairwise_cons]
    cases hs : s.names? with
    | none => simp [ih]
    | some own =>
      have hlater : (∀ t ∈ searches, t.names? = none → t.visible = []) →
          searches.Pairwise fun s t => s.names? ≠ none → t.names? = none → t.visible = [] :=
        fun h => List.pairwise_of_forall_mem_list fun s _ t ht _ => h t ht
      simp only [Option.some_or, asGiven_eq_asRead_some_iff, true_and, ne_eq, reduceCtorEq,
        not_false_eq_true, forall_const]
      exact ⟨fun h => ⟨h, hlater h⟩, And.left⟩

/-! ## Searches put into order -/

/-- A search for two terms in the same fields. -/
def followedBy (s t : Search) : Search :=
  ⟨s.fields, .text (s.term.content ++ " " ++ t.term.content)⟩

/-- A search in some fields, which takes over the searches in all fields behind it. -/
def gatherFrom (s : Search) : List Search → List Search
  | [] => [s]
  | t :: searches =>
    match t.names? with
    | none => gatherFrom (s.followedBy t) searches
    | some _ => s :: gatherFrom t searches

/-- Searches in which none in all fields stands behind one in some. -/
def gathered : List Search → List Search
  | [] => []
  | s :: searches =>
    match s.names? with
    | none => s :: gathered searches
    | some _ => gatherFrom s searches

theorem names?_followedBy (s t : Search) : (s.followedBy t).names? = s.names? := rfl

theorem isPlain_followedBy {s : Search} (h : s.isPlain = true) (t : Search) :
    (s.followedBy t).isPlain = true := by
  rw [isPlain, Bool.and_eq_true] at h ⊢
  exact ⟨h.1, rfl⟩

theorem encode_followedBy {s t : Search} (hs : s.isPlain = true) (hnames : s.names? ≠ none)
    (ht : t.isPlain = true) (hnone : t.names? = none) :
    (s.followedBy t).encode = s.encode ++ " " ++ t.encode := by
  obtain ⟨names, hsome⟩ := Option.ne_none_iff_exists'.1 hnames
  have hblank : FullText.encode " " = " " := by decide
  have hboth : FullText.encode (s.followedBy t).term.content =
      FullText.encode s.term.content ++ " " ++ FullText.encode t.term.content := by
    rw [followedBy, Term.content, encode_append, encode_append, hblank]
  rw [encode_eq (isPlain_followedBy hs t), names?_followedBy, encode_eq hs, hsome, encode_eq ht,
    hnone, hboth]
  simp only [String.append_assoc]

/-- What follows a search in some fields is taken over without a change of the text. -/
theorem spaced_gatherFrom {s : Search} {searches : List Search} (hnames : s.names? ≠ none)
    (hs : s.isPlain = true) (h : ∀ t ∈ searches, t.isPlain = true) :
    spaced (gatherFrom s searches) = spaced (s :: searches) := by
  induction searches generalizing s with
  | nil => rfl
  | cons t searches ih =>
    rw [List.forall_mem_cons] at h
    rw [gatherFrom]
    cases ht : t.names? with
    | none =>
      have hboth : (s.followedBy t).names? ≠ none := hnames
      rw [ih hboth (isPlain_followedBy hs t) h.2, spaced_cons, encode_followedBy hs hnames h.1 ht]
      simp [spaced_cons]
    | some own =>
      have hown : t.names? ≠ none := Option.ne_none_iff_exists'.2 ⟨own, ht⟩
      rw [spaced_cons, ih hown h.1 h.2, spaced_cons s]

theorem isNamed_gatherFrom {s : Search} {searches : List Search} (hs : s.IsNamed)
    (h : ∀ t ∈ searches, t.IsNamed) : ∀ t ∈ gatherFrom s searches, t.IsNamed := by
  induction searches generalizing s with
  | nil => simpa [gatherFrom] using hs
  | cons t searches ih =>
    rw [List.forall_mem_cons] at h
    rw [gatherFrom]
    cases t.names? with
    | none => exact ih ⟨isPlain_followedBy hs.1 t, hs.2⟩ h.2
    | some own => exact List.forall_mem_cons.2 ⟨hs, ih h.1 h.2⟩

theorem names?_gatherFrom {s : Search} {searches : List Search} (hnames : s.names? ≠ none) :
    ∀ t ∈ gatherFrom s searches, t.names? ≠ none := by
  induction searches generalizing s with
  | nil => simpa [gatherFrom] using hnames
  | cons t searches ih =>
    rw [gatherFrom]
    cases ht : t.names? with
    | none =>
      have hboth : (s.followedBy t).names? ≠ none := hnames
      exact ih hboth
    | some own =>
      have hown : t.names? ≠ none := Option.ne_none_iff_exists'.2 ⟨own, ht⟩
      exact List.forall_mem_cons.2 ⟨hnames, ih hown⟩

theorem spaced_gathered {searches : List Search} (h : ∀ s ∈ searches, s.isPlain = true) :
    spaced (gathered searches) = spaced searches := by
  induction searches with
  | nil => rfl
  | cons s searches ih =>
    rw [List.forall_mem_cons] at h
    rw [gathered]
    cases hs : s.names? with
    | none => rw [spaced_cons, ih h.2, spaced_cons]
    | some own =>
      have hown : s.names? ≠ none := Option.ne_none_iff_exists'.2 ⟨own, hs⟩
      exact spaced_gatherFrom hown h.1 h.2

/-- Searches have the same argument when they are put into order. -/
theorem argument_gathered {searches : List Search} (h : ∀ s ∈ searches, s.isPlain = true) :
    argument (gathered searches) = argument searches := by
  have htext : joinWith " " ((gathered searches).map encode) =
      joinWith " " (searches.map encode) := by
    rw [← String.toList_inj, toList_joinWith_encode, spaced_gathered h, toList_joinWith_encode]
  rw [argument, htext, argument]

theorem isNamed_gathered {searches : List Search} (h : ∀ s ∈ searches, s.IsNamed) :
    ∀ s ∈ gathered searches, s.IsNamed := by
  induction searches with
  | nil => exact h
  | cons s searches ih =>
    rw [List.forall_mem_cons] at h
    rw [gathered]
    cases s.names? with
    | none => exact List.forall_mem_cons.2 ⟨h.1, ih h.2⟩
    | some own => exact isNamed_gatherFrom h.1 h.2

theorem inOrder_gathered (searches : List Search) : InOrder (gathered searches) := by
  unfold InOrder
  induction searches with
  | nil => exact .nil
  | cons s searches ih =>
    rw [gathered]
    cases hs : s.names? with
    | none => exact List.pairwise_cons.2 ⟨fun t _ h => absurd hs h, ih⟩
    | some own =>
      have hown : s.names? ≠ none := Option.ne_none_iff_exists'.2 ⟨own, hs⟩
      exact List.pairwise_of_forall_mem_list fun _ _ t ht _ h =>
        absurd h (names?_gatherFrom hown t ht)

/-! ## What the argument determines -/

/-- The argument of MATCH says in which fields each character is read. -/
theorem reach_argument {searches : List Search} (h : ∀ s ∈ searches, s.IsNamed) :
    ∃ query : String, Datum.read (argument searches).toList = some (.text query, []) ∧
      reach query.toList = asRead none searches := by
  have hliteral := Datum.Reads.literal (joinWith " " (searches.map encode))
  have hread := hliteral.read _ [] (Nat.le_refl _) (by decide)
  rw [List.append_nil] at hread
  exact ⟨_, hread, reach_joinWith h⟩

theorem asRead_eq_of_argument_eq {searches others : List Search}
    (h : ∀ s ∈ searches, s.IsNamed) (h' : ∀ s ∈ others, s.IsNamed)
    (hargument : argument others = argument searches) :
    asRead none others = asRead none searches := by
  obtain ⟨query, hquery, hreach⟩ := reach_argument h
  obtain ⟨query', hquery', hreach'⟩ := reach_argument h'
  rw [hargument, hquery] at hquery'
  cases hquery'
  rw [← hreach, ← hreach']

/-- **The argument of MATCH determines in which fields each character is read**, and these are the
fields that it was given with exactly if the searches are in order. Among the searches with one
argument those in order agree on the fields that they were given with, and no others agree with
them; there always are some in order. -/
theorem fields_of_argument {searches : List Search} (h : ∀ s ∈ searches, s.IsNamed) :
    (∃ query : String, Datum.read (argument searches).toList = some (.text query, []) ∧
      reach query.toList = asRead none searches) ∧
    (asGiven searches = asRead none searches ↔ InOrder searches) ∧
    (∀ others : List Search, (∀ s ∈ others, s.IsNamed) → argument others = argument searches →
      asRead none others = asRead none searches ∧
      (InOrder searches → (asGiven others = asGiven searches ↔ InOrder others))) ∧
    (¬ InOrder searches → ∃ others : List Search, (∀ s ∈ others, s.IsNamed) ∧ InOrder others ∧
      argument others = argument searches ∧ asGiven others ≠ asGiven searches) := by
  have hread {others : List Search} (h' : ∀ s ∈ others, s.IsNamed)
      (hargument : argument others = argument searches) :
      asRead none others = asRead none searches := asRead_eq_of_argument_eq h h' hargument
  refine ⟨reach_argument h, asGiven_eq_asRead_iff, fun others h' hargument => ?_, fun hnot => ?_⟩
  · refine ⟨hread h' hargument, fun horder => ?_⟩
    rw [asGiven_eq_asRead_iff.2 horder, ← hread h' hargument, asGiven_eq_asRead_iff]
  · have hargument : argument (gathered searches) = argument searches :=
      argument_gathered fun s hs => (h s hs).1
    refine ⟨gathered searches, isNamed_gathered h, inOrder_gathered searches, hargument, ?_⟩
    rw [asGiven_eq_asRead_iff.2 (inOrder_gathered searches), hread (isNamed_gathered h) hargument]
    exact fun heq => hnot (asGiven_eq_asRead_iff.1 heq.symm)

/-- A term in all fields in front of a blank one in two fields and one in no field. -/
def mixed : List Search :=
  [⟨none, .text "-a b"⟩, ⟨some [.text "t@)", .text "u"], .text " "⟩, ⟨some [], .text "c"⟩]

/-- Whatever has the argument of searches in order and is in order, was given with their fields. -/
theorem fields_of_argument_mixed :
    (∀ s ∈ mixed, s.IsNamed) ∧ InOrder mixed ∧
    argument mixed = "'\\\\-a b @(t\\\\@\\\\),u)   @() c'" ∧
    asGiven mixed = [('-', none), ('a', none), ('b', none), ('c', some [])] ∧
    ∀ others : List Search, (∀ s ∈ others, s.IsNamed) → argument others = argument mixed →
      InOrder others → asGiven others = [('-', none), ('a', none), ('b', none), ('c', some [])] := by
  have hnamed : ∀ s ∈ mixed, s.IsNamed := by decide
  have horder : InOrder mixed := by
    simp [InOrder, mixed, names?]
  obtain ⟨-, -, hothers, -⟩ := fields_of_argument hnamed
  have hgiven : asGiven mixed = [('-', none), ('a', none), ('b', none), ('c', some [])] := by decide
  refine ⟨hnamed, horder, by decide, hgiven, fun others h hargument horder' => ?_⟩
  rw [((hothers others h hargument).2 horder).2 horder', hgiven]

/-- A term in one field and one in all fields have the text of a term of two words in the one
field. -/
theorem fields_lost :
    let apart : List Search := [⟨some [.text "title"], .text "foo"⟩, ⟨none, .text "bar"⟩]
    let together : List Search := [⟨some [.text "title"], .text "foo bar"⟩]
    (∀ s ∈ apart, s.IsNamed) ∧ (∀ s ∈ together, s.IsNamed) ∧
    argument apart = "'@(title) foo bar'" ∧ argument together = "'@(title) foo bar'" ∧
    ('b', none) ∈ asGiven apart ∧ ('b', some ["title"]) ∈ asGiven together ∧
    asGiven apart ≠ asGiven together := by
  decide

end Search

end SearchQL
