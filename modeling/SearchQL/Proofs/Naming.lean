import Mathlib.Data.List.Induction
import SearchQL.Proofs.Path
import SearchQL.Proofs.Series
import SearchQL.Query.Render

/-!
# Names and second names are read back

The text of a column or of an index is taken apart again: the pieces of its name, the second name,
and what stands behind. A dot inside back-ticks belongs to a piece, so the reader tells a name with
two pieces from a name that was quoted as a whole and has a dot in it.

* `Naming` is what is read, and `Naming.read` the reader.
* `Naming.Follows` says what may stand behind, and `Naming.read_labelled` that a text is read there.
* `Column.named` gives a column second names one after the other, of which the last one stays.
* `Column.naming_of_text` is the result.
-/

namespace SearchQL

/-! ## The reader -/

/-- What the text of a column or of an index says. -/
structure Naming where
  segments : List String
  label : Option String
deriving DecidableEq, Repr

/-- What is read of a quoted name is taken off the text. -/
theorem Path.length_lt_of_readContent {cs name rest : List Char}
    (h : readContent cs = some (name, rest)) : rest.length < cs.length := by
  fun_induction readContent cs generalizing name rest with
  | case1 => cases h
  | case2 =>
    cases h
    simp
  | case3 => cases h
  | case4 cs ih =>
    obtain ⟨⟨content, rest'⟩, hread, heq⟩ := Option.bind_eq_some_iff.1 h
    cases heq
    have hlt := ih hread
    simp only [List.length_cons]
    omega
  | case5 =>
    cases h
    simp
  | case6 c d cs hc ih =>
    obtain ⟨⟨content, rest'⟩, hread, heq⟩ := Option.bind_eq_some_iff.1 h
    cases heq
    have hlt := ih hread
    simp only [List.length_cons] at hlt ⊢
    omega

namespace Naming

open Identifier

/-- A piece: a bare star, or a name between back-ticks. -/
def readPiece : List Char → Option (String × List Char)
  | [] => none
  | c :: cs =>
    if c = '*' then some ("*", cs)
    else (Path.readSegment (c :: cs)).map fun (name, rest) => (String.ofList name, rest)

theorem length_lt_of_readPiece {cs rest : List Char} {piece : String}
    (h : readPiece cs = some (piece, rest)) : rest.length < cs.length := by
  cases cs with
  | nil => cases h
  | cons c cs =>
    by_cases hstar : c = '*'
    · rw [readPiece, if_pos hstar] at h
      cases h
      exact Nat.lt_succ_self _
    · rw [readPiece, if_neg hstar] at h
      obtain ⟨⟨name, rest⟩, hread, heq⟩ := Option.map_eq_some_iff.1 h
      cases heq
      by_cases htick : c = tick
      · rw [Path.readSegment, if_pos htick] at hread
        exact Nat.lt_succ_of_lt (Path.length_lt_of_readContent hread)
      · rw [Path.readSegment, if_neg htick] at hread
        cases hread

/-- Pieces with dots between them. -/
def readPieces (cs : List Char) : Option (List String × List Char) :=
  match _h : readPiece cs with
  | none => none
  | some (piece, []) => some ([piece], [])
  | some (piece, c :: rest) =>
    if c = '.' then (readPieces rest).map fun (pieces, rest) => (piece :: pieces, rest)
    else some ([piece], c :: rest)
termination_by cs.length
decreasing_by
  have hlt := length_lt_of_readPiece _h
  simp only [List.length_cons] at hlt
  omega

/-- A second name, if one follows. -/
def readLabel (cs : List Char) : Option String × List Char :=
  match (Series.expect " AS " cs).bind Path.readSegment with
  | some (label, rest) => (some (String.ofList label), rest)
  | none => (none, cs)

/-- A name with an optional second name, and what stands behind. -/
def read (cs : List Char) : Option (Naming × List Char) :=
  (readPieces cs).map fun (segments, rest) => (⟨segments, (readLabel rest).1⟩, (readLabel rest).2)

/-! ## What is read -/

/-- What stands behind a piece tells whether there are more. -/
theorem readPieces_eq {cs rest : List Char} {piece : String}
    (h : readPiece cs = some (piece, rest)) :
    readPieces cs =
      match rest with
      | [] => some ([piece], [])
      | c :: rest =>
        if c = '.' then (readPieces rest).map fun (pieces, rest) => (piece :: pieces, rest)
        else some ([piece], c :: rest) := by
  rw [readPieces]
  split
  case h_1 hnone =>
    rw [h] at hnone
    cases hnone
  case h_2 hend =>
    rw [h] at hend
    cases hend
    rfl
  case h_3 hmore =>
    rw [h] at hmore
    cases hmore
    rfl

/-- The last piece is the one with no dot behind it. -/
theorem readPieces_last {cs rest : List Char} {piece : String}
    (h : readPiece cs = some (piece, rest)) (hrest : ∀ c ∈ rest.head?, c ≠ '.') :
    readPieces cs = some ([piece], rest) := by
  rw [readPieces_eq h]
  cases rest with
  | nil => rfl
  | cons c rest => exact if_neg (hrest c rfl)

/-- Behind a dot stands one more piece. -/
theorem readPieces_dot {cs rest : List Char} {piece : String}
    (h : readPiece cs = some (piece, '.' :: rest)) :
    readPieces cs = (readPieces rest).map fun (pieces, rest) => (piece :: pieces, rest) := by
  rw [readPieces_eq h]
  exact if_pos rfl

/-- A name that is quoted as a whole is one piece. -/
theorem readPiece_segment (name : String) {rest : List Char} (hrest : ∀ c ∈ rest.head?, c ≠ tick) :
    readPiece ((Identifier.segment name).toList ++ rest) = some (name, rest) := by
  have hread := Path.readSegment_segment name hrest
  have htext : (Identifier.segment name).toList ++ rest =
      tick :: (escape name.toList ++ tick :: rest) := by
    simp [Identifier.segment, segmentChars]
  have htick : tick ≠ '*' := by decide
  rw [htext] at hread ⊢
  rw [readPiece, if_neg htick, hread, Option.map_some]
  simp only [String.ofList_toList]

theorem readPiece_pieceChars (piece : List Char) {rest : List Char}
    (hrest : ∀ c ∈ rest.head?, c ≠ tick) :
    readPiece (pieceChars piece ++ rest) = some (String.ofList piece, rest) := by
  unfold pieceChars
  split
  case isTrue hstar =>
    rw [hstar, List.singleton_append, readPiece, if_pos rfl]
  case isFalse =>
    have hread := readPiece_segment (String.ofList piece) hrest
    rwa [Identifier.segment, String.toList_ofList, String.toList_ofList] at hread

theorem readPieces_pieces (piece : List Char) (pieces : List (List Char)) {rest : List Char}
    (hrest : Path.Follows rest) :
    readPieces (pieceChars piece ++ (pieces.flatMap fun p => '.' :: pieceChars p) ++ rest) =
      some ((piece :: pieces).map String.ofList, rest) := by
  induction pieces generalizing piece with
  | nil =>
    have hpiece := readPiece_pieceChars piece fun c hc => (hrest c hc).2
    rw [List.flatMap_nil, List.append_nil]
    exact readPieces_last hpiece fun c hc => (hrest c hc).1
  | cons next pieces ih =>
    have hdot : '.' ≠ tick := by decide
    let more := pieceChars next ++ (pieces.flatMap fun p => '.' :: pieceChars p) ++ rest
    have hpiece : readPiece (pieceChars piece ++ '.' :: more) =
        some (String.ofList piece, '.' :: more) :=
      readPiece_pieceChars piece (by simpa using hdot)
    rw [List.flatMap_cons, List.append_assoc, List.append_assoc, List.cons_append,
      ← List.append_assoc, readPieces_dot hpiece, ih]
    rfl

/-- What may stand behind a name with or without a second one: nothing that would go on with it. -/
def Follows (rest : List Char) : Prop := Path.Follows rest ∧ ¬ " AS `".toList <+: rest

theorem follows_nil : Follows [] := ⟨nofun, by decide⟩

theorem readLabel_aliasing (label : String) {rest : List Char}
    (hrest : ∀ c ∈ rest.head?, c ≠ tick) :
    readLabel ((aliasing label).toList ++ rest) = (some label, rest) := by
  rw [aliasing, String.toList_append, List.append_assoc, readLabel, Series.expect_append,
    Option.bind_some, Path.readSegment_segment label hrest]
  simp only [String.ofList_toList]

theorem readLabel_of_follows {rest : List Char} (hrest : Follows rest) :
    readLabel rest = (none, rest) := by
  have hnone : (Series.expect " AS " rest).bind Path.readSegment = none := by
    cases hexpect : Series.expect " AS " rest with
    | none => rfl
    | some behind =>
      have hrest' : " AS ".toList ++ behind = rest := List.append_eq_of_isPrefixOf?_eq_some hexpect
      cases behind with
      | nil => rfl
      | cons c cs =>
        have hc : c ≠ tick := by
          rintro rfl
          exact hrest.2 ⟨cs, hrest'⟩
        rw [Option.bind_some, Path.readSegment, if_neg hc]
  rw [readLabel, hnone]

theorem read_of_readPieces {cs rest : List Char} {segments : List String}
    (h : readPieces cs = some (segments, rest)) :
    read cs = some (⟨segments, (readLabel rest).1⟩, (readLabel rest).2) := by
  rw [read, h]
  rfl

/-- The text of an optional second name. -/
def labelText (label : Option String) : String := label.elim "" aliasing

/-- A name that is read as its pieces whatever follows is also read in front of a second name. -/
theorem read_labelled {name : String} {segments : List String}
    (h : ∀ rest, Path.Follows rest → readPieces (name.toList ++ rest) = some (segments, rest))
    (label : Option String) {rest : List Char} (hrest : Follows rest) :
    read ((name ++ labelText label).toList ++ rest) = some (⟨segments, label⟩, rest) := by
  rw [String.toList_append, List.append_assoc]
  cases label with
  | none =>
    have hnone : (labelText none).toList ++ rest = rest := rfl
    rw [hnone, read_of_readPieces (h rest hrest.1), readLabel_of_follows hrest]
  | some label =>
    have hblank : Path.Follows ((labelText (some label)).toList ++ rest) := by
      intro c hc
      obtain rfl : ' ' = c := by simpa [labelText, aliasing] using hc
      decide
    have hlabel : readLabel ((labelText (some label)).toList ++ rest) = (some label, rest) :=
      readLabel_aliasing label fun c hc => (hrest.1 c hc).2
    rw [read_of_readPieces (h _ hblank), hlabel]

end Naming

namespace Place

/-- The pieces of a name at a place: an index has one, whatever stands in its name. -/
def segments : Place → String → List String
  | .index, name => [name]
  | _, name => (pieces '.' name.toList).map String.ofList

/-- The pieces of a name with dots between them are the name. -/
theorem joinWith_segments (place : Place) (name : String) :
    joinWith "." (place.segments name) = name := by
  have hcut : joinWith "." ((pieces '.' name.toList).map String.ofList) = name := by
    obtain ⟨piece, rest, hpieces, hname⟩ := exists_pieces '.' name.toList
    rw [← String.toList_inj, hpieces, List.map_cons, toList_joinWith_cons, ← hname]
    simp [List.flatMap_map]
  cases place with
  | index => rfl
  | _ => exact hcut

theorem readPieces_name {place : Place} (h : place ≠ .predicate) (name : String) {rest : List Char}
    (hrest : Path.Follows rest) :
    Naming.readPieces ((place.name name).toList ++ rest) = some (place.segments name, rest) := by
  cases place with
  | column =>
    obtain ⟨piece, pieces, hpieces, -⟩ := exists_pieces '.' name.toList
    rw [Place.name, Path.toList_dotted hpieces, Naming.readPieces_pieces piece pieces hrest,
      segments, hpieces]
    exact nofun
  | index =>
    have hpiece := Naming.readPiece_segment name fun c hc => (hrest c hc).2
    exact Naming.readPieces_last hpiece fun c hc => (hrest c hc).1
  | predicate => exact absurd rfl h

end Place

namespace Column

/-- The column of a name that was given second names one after the other. -/
def named (name : String) (labels : List String) : Column :=
  labels.foldl (fun column label => column.labelled label) (.name name)

/-- Of the second names the last one stays. -/
theorem named_eq (name : String) (labels : List String) :
    named name labels =
      match labels.getLast? with
      | none => .name name
      | some label => .aliased (.name name) label := by
  induction labels using List.reverseRecOn with
  | nil => rfl
  | append_singleton labels label ih =>
    rw [named, List.foldl_append, List.foldl_cons, List.foldl_nil, ← named, ih,
      List.getLast?_concat]
    cases labels.getLast? <;> rfl

/-- The text of such a column. -/
theorem render_named {place : Place} (h : place ≠ .predicate) (name : String)
    (labels : List String) :
    (named name labels).render place =
      .ok (place.name name ++ Naming.labelText labels.getLast?) := by
  rw [named_eq]
  cases labels.getLast? with
  | none => simp [render, Naming.labelText]
  | some label =>
    have hlabel : place.label label = Identifier.aliasing label := by
      cases place with
      | predicate => exact absurd rfl h
      | _ => rfl
    rw [render, render, hlabel]
    rfl

/-- Texts of columns or indexes that are the same have the same name and the same second name. -/
theorem eq_of_render_named {place place' : Place} (h : place ≠ .predicate)
    (h' : place' ≠ .predicate) {name name' : String} {labels labels' : List String}
    (heq : (named name labels).render place = (named name' labels').render place') :
    name = name' ∧ labels.getLast? = labels'.getLast? := by
  rw [render_named h, render_named h', Except.ok.injEq] at heq
  have hread := Naming.read_labelled (fun _ => Place.readPieces_name h name) labels.getLast?
    Naming.follows_nil
  rw [heq, Naming.read_labelled (fun _ => Place.readPieces_name h' name') labels'.getLast?
    Naming.follows_nil] at hread
  simp only [Option.some.injEq, Prod.mk.injEq, Naming.mk.injEq, and_true] at hread
  obtain ⟨hsegments, hlabels⟩ := hread
  refine ⟨?_, hlabels.symm⟩
  rw [← place.joinWith_segments name, ← place'.joinWith_segments name', hsegments]

/-- **A name and its last second name are read back.** From the text of a column the reader takes
the pieces between the dots of its name, from the text of an index the whole name as one piece, and
from both the second name that was given last; what stands behind is left. So names or second names
that differ have texts that differ. -/
theorem naming_of_text (name : String) (labels : List String) {rest : List Char}
    (hrest : Naming.Follows rest) :
    ∃ segments : List String,
      segments ≠ [] ∧ (∀ s ∈ segments, '.' ∉ s.toList) ∧ joinWith "." segments = name ∧
      (named name labels).render .column = .ok (Identifier.encode name labels.getLast?) ∧
      Naming.read ((Identifier.encode name labels.getLast?).toList ++ rest) =
        some (⟨segments, labels.getLast?⟩, rest) ∧
      (∃ text, (named name labels).render .index = .ok text ∧
        Naming.read (text.toList ++ rest) = some (⟨[name], labels.getLast?⟩, rest)) ∧
      ∀ (place place' : Place) (name' : String) (labels' : List String),
        place ≠ .predicate → place' ≠ .predicate →
        (named name labels).render place = (named name' labels').render place' →
        name = name' ∧ labels.getLast? = labels'.getLast? := by
  have hcolumn : Place.column ≠ .predicate := nofun
  have hindex : Place.index ≠ .predicate := nofun
  have htext : Identifier.encode name labels.getLast? =
      Place.column.name name ++ Naming.labelText labels.getLast? := by
    cases labels.getLast? with
    | none => exact String.append_empty.symm
    | some label => rfl
  have hread (place : Place) (h : place ≠ .predicate) :=
    Naming.read_labelled (fun _ => Place.readPieces_name h name) labels.getLast? hrest
  refine ⟨Place.column.segments name, ?_, ?_, Place.column.joinWith_segments name, ?_, ?_,
    ⟨_, render_named hindex name labels, hread .index hindex⟩,
    fun place place' name' labels' h h' => eq_of_render_named h h'⟩
  · simpa [Place.segments] using pieces_ne_nil '.' name.toList
  · intro s hs
    obtain ⟨piece, hpiece, rfl⟩ := List.mem_map.1 hs
    rw [String.toList_ofList]
    exact not_mem_of_mem_pieces hpiece
  · rw [render_named hcolumn, htext]
  · rw [htext]
    exact hread .column hcolumn

/-- A name with a back-tick and a star, under a second name that looks like the end of one. -/
theorem naming_of_text_ticked :
    Naming.Follows " AS b".toList ∧
    (named "t`.*" ["x", "y` AS `"]).render .column = .ok "`t```.* AS `y`` AS ```" ∧
    Naming.read "`t```.* AS `y`` AS ``` AS b".toList =
      some (⟨["t`", "*"], some "y` AS `"⟩, " AS b".toList) ∧
    Naming.read "`t``.*` AS `y`` AS ``` AS b".toList =
      some (⟨["t`.*"], some "y` AS `"⟩, " AS b".toList) := by
  have hfollows : Naming.Follows " AS b".toList := by
    constructor
    · intro c hc
      obtain rfl : ' ' = c := by simpa using hc
      decide
    · decide
  obtain ⟨segments, hne, hdots, hname, hrender, hread, ⟨text, htext, hindex⟩, -⟩ :=
    naming_of_text "t`.*" ["x", "y` AS `"] hfollows
  obtain ⟨first, rest, rfl⟩ := List.exists_cons_of_ne_nil hne
  have hcut : pieces '.' (joinWith "." (first :: rest)).toList =
      (first :: rest).map String.toList :=
    pieces_joinWith rfl hdots
  have hsegments : first :: rest = ["t`", "*"] := by
    refine List.map_injective_iff.2 (fun _ _ => String.toList_inj.1) ?_
    rw [← hcut, hname]
    rfl
  rw [hsegments] at hread
  obtain rfl : "`t``.*` AS `y`` AS ```" = text := Except.ok.inj htext
  exact ⟨hfollows, hrender, hread, hindex⟩

end Column

end SearchQL
