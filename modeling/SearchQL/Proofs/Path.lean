import SearchQL.Text.Identifier

/-!
# Dotted names are read back

A name is written as a path of pieces between dots. A piece is a star or stands between back-ticks,
and inside it a back-tick is written twice.

* `Path.readPiece`, `Path.readTicked` and `Path.readDot` are the reader; it gives the name and what
  stands behind it.
* `Path.readPiece_dotted` says that a name is read back.
* `Path.readSegment` is the reader for a name that is quoted as a whole, dots included, and
  `Path.readSegment_segment` says that such a name is read back.
-/

namespace SearchQL.Path

open Identifier

/-! ## The reader -/

mutual

/-- A path, from the beginning of a piece. -/
def readPiece : List Char → Option (List Char × List Char)
  | [] => none
  | c :: cs =>
    if c = '*' then do
      let (name, rest) ← readDot cs
      some ('*' :: name, rest)
    else if c = tick then readTicked cs
    else none

/-- A path, from inside a piece between back-ticks. -/
def readTicked : List Char → Option (List Char × List Char)
  | [] => none
  | [c] => if c = tick then some ([], []) else none
  | c :: d :: cs =>
    if c = tick then
      if d = tick then do
        let (name, rest) ← readTicked cs
        some (tick :: name, rest)
      else readDot (d :: cs)
    else do
      let (name, rest) ← readTicked (d :: cs)
      some (c :: name, rest)

/-- A path, from behind a piece. -/
def readDot : List Char → Option (List Char × List Char)
  | [] => some ([], [])
  | c :: cs =>
    if c = '.' then do
      let (name, rest) ← readPiece cs
      some ('.' :: name, rest)
    else some ([], c :: cs)

end

/-! ## What is read -/

/-- A continuation that no name runs on into. -/
def Follows (rest : List Char) : Prop := ∀ c ∈ rest.head?, c ≠ '.' ∧ c ≠ tick

theorem readDot_of_follows {rest : List Char} (hrest : Follows rest) :
    readDot rest = some ([], rest) := by
  cases rest with
  | nil => rw [readDot]
  | cons c cs => rw [readDot, if_neg (hrest c rfl).1]

/-- The content of a piece is read up to its closing back-tick. -/
theorem readTicked_escape (cs : List Char) {rest : List Char} (hrest : ∀ c ∈ rest.head?, c ≠ tick) :
    readTicked (escape cs ++ tick :: rest) =
      (readDot rest).map fun (name, rest) => (cs ++ name, rest) := by
  induction cs with
  | nil =>
    have hnil : escape [] = [] := rfl
    rw [hnil, List.nil_append]
    cases rest with
    | nil =>
      rw [readTicked, readDot]
      rfl
    | cons c cs =>
      rw [readTicked, if_pos rfl, if_neg (hrest c rfl)]
      simp
  | cons c cs ih =>
    have hcons : escape (c :: cs) = escapeChar c ++ escape cs := rfl
    obtain ⟨d, ds, hds⟩ : ∃ d ds, escape cs ++ tick :: rest = d :: ds :=
      List.exists_cons_of_ne_nil (by simp)
    by_cases hc : c = tick
    · have hchar : escapeChar c = [tick, tick] := by rw [escapeChar, if_pos hc]
      rw [hcons, hchar, List.append_assoc, List.cons_append, List.singleton_append, readTicked,
        if_pos rfl, if_pos rfl, ih, hc]
      cases readDot rest <;> rfl
    · have hchar : escapeChar c = [c] := by rw [escapeChar, if_neg hc]
      rw [hcons, hchar, List.append_assoc, List.singleton_append, hds, readTicked, if_neg hc, ← hds,
        ih]
      cases readDot rest <;> rfl

/-- A piece is read up to the dot behind it. -/
theorem readPiece_pieceChars (piece : List Char) {rest : List Char}
    (hrest : ∀ c ∈ rest.head?, c ≠ tick) :
    readPiece (pieceChars piece ++ rest) =
      (readDot rest).map fun (name, rest) => (piece ++ name, rest) := by
  unfold pieceChars
  split
  · rename_i hstar
    rw [hstar, List.singleton_append, readPiece, if_pos rfl]
    cases readDot rest <;> rfl
  · have htick : tick ≠ '*' := by decide
    rw [segmentChars, List.cons_append, List.append_assoc, List.singleton_append, readPiece,
      if_neg htick, if_pos rfl, readTicked_escape piece hrest]

theorem readPiece_pieces (piece : List Char) (pieces : List (List Char)) {rest : List Char}
    (hrest : Follows rest) :
    readPiece (pieceChars piece ++ (pieces.flatMap fun p => '.' :: pieceChars p) ++ rest) =
      some (piece ++ pieces.flatMap ('.' :: ·), rest) := by
  induction pieces generalizing piece with
  | nil =>
    have hticks : ∀ c ∈ rest.head?, c ≠ tick := fun c hc => (hrest c hc).2
    rw [List.flatMap_nil, List.append_nil, readPiece_pieceChars piece hticks,
      readDot_of_follows hrest]
    rfl
  | cons next pieces ih =>
    have hdot : '.' ≠ tick := by decide
    have hih := ih next
    rw [List.append_assoc] at hih
    rw [List.flatMap_cons, List.append_assoc, List.append_assoc, List.cons_append,
      readPiece_pieceChars piece (by simpa using hdot), readDot, if_pos rfl, hih]
    simp

/-- The text of a name has a dot before each piece but the first. -/
theorem toList_dotted {name : String} {piece : List Char} {rest : List (List Char)}
    (h : pieces '.' name.toList = piece :: rest) :
    (dotted name).toList = pieceChars piece ++ rest.flatMap fun p => '.' :: pieceChars p := by
  rw [dotted, h, List.map_cons, toList_joinWith_cons]
  simp [List.flatMap_map]

/-- A name is read back, and the reading stops where its text ends. -/
theorem readPiece_dotted (name : String) {rest : List Char} (hrest : Follows rest) :
    readPiece ((dotted name).toList ++ rest) = some (name.toList, rest) := by
  obtain ⟨piece, pieces, hpieces, hname⟩ := exists_pieces '.' name.toList
  rw [toList_dotted hpieces, readPiece_pieces piece pieces hrest, hname]

/-- The text of a name begins with a star or a back-tick. -/
theorem exists_head_dotted (name : String) :
    ∃ c cs, (dotted name).toList = c :: cs ∧ (c = '*' ∨ c = tick) := by
  obtain ⟨piece, pieces, hpieces, -⟩ := exists_pieces '.' name.toList
  obtain ⟨cs, htext⟩ : ∃ cs, (dotted name).toList = pieceChars piece ++ cs :=
    ⟨_, toList_dotted hpieces⟩
  unfold pieceChars at htext
  split at htext
  · rename_i hstar
    exact ⟨'*', cs, by rw [htext, hstar]; rfl, .inl rfl⟩
  · exact ⟨tick, _, by rw [htext, segmentChars, List.cons_append], .inr rfl⟩

/-! ## Names quoted as a whole -/

/-- The content of a quoted name behind its opening back-tick. -/
def readContent : List Char → Option (List Char × List Char)
  | [] => none
  | [c] => if c = tick then some ([], []) else none
  | c :: d :: cs =>
    if c = tick then
      if d = tick then do
        let (name, rest) ← readContent cs
        some (tick :: name, rest)
      else some ([], d :: cs)
    else do
      let (name, rest) ← readContent (d :: cs)
      some (c :: name, rest)

/-- A name quoted as a whole. -/
def readSegment : List Char → Option (List Char × List Char)
  | [] => none
  | c :: cs => if c = tick then readContent cs else none

/-- The content of a name is read up to its closing back-tick. -/
theorem readContent_escape (cs : List Char) {rest : List Char} (hrest : ∀ c ∈ rest.head?, c ≠ tick) :
    readContent (escape cs ++ tick :: rest) = some (cs, rest) := by
  induction cs with
  | nil =>
    have hnil : escape [] = [] := rfl
    rw [hnil, List.nil_append]
    cases rest with
    | nil => rw [readContent, if_pos rfl]
    | cons c cs => rw [readContent, if_pos rfl, if_neg (hrest c rfl)]
  | cons c cs ih =>
    have hcons : escape (c :: cs) = escapeChar c ++ escape cs := rfl
    obtain ⟨d, ds, hds⟩ : ∃ d ds, escape cs ++ tick :: rest = d :: ds :=
      List.exists_cons_of_ne_nil (by simp)
    by_cases hc : c = tick
    · have hchar : escapeChar c = [tick, tick] := by rw [escapeChar, if_pos hc]
      rw [hcons, hchar, List.append_assoc, List.cons_append, List.singleton_append, readContent,
        if_pos rfl, if_pos rfl, ih, hc]
      rfl
    · have hchar : escapeChar c = [c] := by rw [escapeChar, if_neg hc]
      rw [hcons, hchar, List.append_assoc, List.singleton_append, hds, readContent, if_neg hc,
        ← hds, ih]
      rfl

/-- A name that is quoted as a whole is read back, and the reading stops where its text ends. -/
theorem readSegment_segment (name : String) {rest : List Char}
    (hrest : ∀ c ∈ rest.head?, c ≠ tick) :
    readSegment ((Identifier.segment name).toList ++ rest) = some (name.toList, rest) := by
  have htext : (Identifier.segment name).toList ++ rest =
      tick :: (escape name.toList ++ tick :: rest) := by
    simp [Identifier.segment, segmentChars]
  rw [htext, readSegment, if_pos rfl, readContent_escape name.toList hrest]

end SearchQL.Path
