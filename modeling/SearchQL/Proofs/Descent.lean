import SearchQL.Proofs.Forest

/-!
# Reading a tree back

A reader by recursive descent for items joined by AND and OR, where an item is a bracket, with a
row of items or nothing in it, or else a clause. How a clause is read is a parameter, so that the
reader knows nothing but brackets and joints.

* `Forest.readItems` reads items that are there, `Forest.readRow` a row that may be empty, and
  `Forest.read` a whole text.
* `Forest.forget` is what a tree loses by being written: the logic of the first item of each row.
* `Forest.read_text` says that nothing else is lost.
-/

namespace SearchQL

namespace Forest

variable {α β : Type}

/-! ## The reader -/

/-- The joint in front of a further item. -/
def readJoint : List Char → Option (Logic × List Char)
  | ' ' :: 'A' :: 'N' :: 'D' :: ' ' :: cs => some (.and, cs)
  | ' ' :: 'O' :: 'R' :: ' ' :: cs => some (.or, cs)
  | _ => none

/-- A row of items, read by `items` if there are any. A joined row is over where no joint stands,
and a row that is not joined is over at the end of the text or where a bracket is closed. -/
def readRow (joined : Bool)
    (items : Option Logic → List Char → Option (Forest (Option Logic) β × List Char))
    (cs : List Char) : Option (Forest (Option Logic) β × List Char) :=
  if joined then
    match readJoint cs with
    | some (logic, cs) => items (some logic) cs
    | none => some (.nil, cs)
  else
    match cs.head? with
    | none | some ')' => some (.nil, cs)
    | _ => items none cs

/-- The text behind a closing bracket. -/
def readClosing : List Char → Option (List Char)
  | ')' :: cs => some cs
  | _ => none

/-- One item and all that are joined to it, of which the first gets the given joint. -/
def readItems (clause : List Char → Option (β × List Char)) :
    Nat → Option Logic → List Char → Option (Forest (Option Logic) β × List Char)
  | bound + 1, joint, c :: cs =>
    if c = '(' then do
      let (inner, rest) ← readRow false (readItems clause bound) cs
      let rest ← readClosing rest
      let (more, rest) ← readRow true (readItems clause bound) rest
      some (.bracket joint inner more, rest)
    else do
      let (item, rest) ← clause (c :: cs)
      let (more, rest) ← readRow true (readItems clause bound) rest
      some (.clause joint item more, rest)
  | _, _, _ => none

/-- The tree of a whole text. -/
def read (clause : List Char → Option (β × List Char)) (cs : List Char) :
    Option (Forest (Option Logic) β) :=
  match readRow false (readItems clause cs.length) cs with
  | some (tree, []) => some tree
  | _ => none

/-! ## What is read -/

/-- The tree without the logic of the first item of each row. -/
def forget (joined : Bool) : Forest Logic α → Forest (Option Logic) α
  | .nil => .nil
  | .clause logic item rest =>
    .clause (if joined then some logic else none) item (rest.forget true)
  | .bracket logic inner rest =>
    .bracket (if joined then some logic else none) (inner.forget false) (rest.forget true)

/-- A row is over in front of this text. -/
def EndsRow (rest : List Char) : Prop := ∀ c ∈ rest.head?, c = ')'

/-- A clause is over in front of this text. -/
def EndsClause (rest : List Char) : Prop := ∀ c ∈ rest.head?, c = ')' ∨ c = ' '

/-- A text is read as a clause, and cannot be taken for a bracket. -/
structure ReadsClause (clause : List Char → Option (β × List Char)) (text : String) (b : β) :
    Prop where
  exists_head : ∃ c cs, text.toList = c :: cs ∧ c ≠ '(' ∧ c ≠ ')'
  read : ∀ rest, EndsClause rest → clause (text.toList ++ rest) = some (b, rest)

variable {items : Option Logic → List Char → Option (Forest (Option Logic) β × List Char)}

theorem readRow_end (joined : Bool) {rest : List Char} (hrest : EndsRow rest) :
    readRow joined items rest = some (.nil, rest) := by
  cases rest with
  | nil => cases joined <;> rfl
  | cons c cs =>
    obtain rfl : c = ')' := hrest c rfl
    cases joined <;> rfl

/-- An item is read behind its joint, which is left out at the start of a row. -/
theorem readRow_joint (joined : Bool) (logic : Logic) {c : Char} (hc : c ≠ ')') (cs : List Char) :
    readRow joined items ((Group.joint joined false logic).toList ++ c :: cs) =
      items (if joined then some logic else none) (c :: cs) := by
  cases joined with
  | true => cases logic <;> rfl
  | false => simp [readRow, Group.joint, hc]

/-- Behind an item comes a joint, or the row is over. -/
theorem endsClause_text (row : Forest Logic String) {rest : List Char} (hrest : EndsRow rest) :
    EndsClause ((row.text true).toList ++ rest) := by
  intro c hc
  cases row with
  | nil => exact .inl (hrest c (by simpa [text] using hc))
  | clause logic t rest => exact .inr (by simpa [text, Group.joint, eq_comm] using hc)
  | bracket logic inner rest => exact .inr (by simpa [text, Group.joint, eq_comm] using hc)

section

variable {clause : List Char → Option (β × List Char)} {write : α → String} {out : α → β}

/-- The items of a row are read, and the reading stops where the row ends. The induction is on the
row, and goes into a bracket with the closing bracket and what is behind it as the rest. -/
theorem readRow_text {row : Forest Logic α}
    (hrow : row.All fun a => ReadsClause clause (write a) (out a)) (joined : Bool) (bound : Nat)
    {rest : List Char} (hrest : EndsRow rest)
    (hbound : ((row.map write).text joined).toList.length ≤ bound) :
    readRow joined (readItems clause bound) (((row.map write).text joined).toList ++ rest) =
      some ((row.map out).forget joined, rest) := by
  induction row generalizing joined bound rest with
  | nil => simpa [map, text, forget] using readRow_end joined hrest
  | clause logic a more ih =>
    obtain ⟨ha, hmore⟩ := hrow
    obtain ⟨c, cs, htext, hopen, hclose⟩ := ha.exists_head
    simp only [map, text, String.toList_append, List.length_append, htext,
      List.length_cons] at hbound
    obtain ⟨bound, rfl⟩ : ∃ b, bound = b + 1 := ⟨bound - 1, by omega⟩
    have hread := ha.read (((more.map write).text true).toList ++ rest)
      (endsClause_text _ hrest)
    have hrow := ih hmore true bound hrest (by omega)
    rw [htext, List.cons_append] at hread
    simp only [map, text, String.toList_append, List.append_assoc, htext, List.cons_append]
    rw [readRow_joint joined logic hclose, readItems, if_neg hopen, hread]
    simp only [Option.bind_eq_bind, Option.bind_some, hrow]
    rfl
  | bracket logic inner more ihinner ihmore =>
    obtain ⟨hinner, hmore⟩ := hrow
    simp only [map, text, String.toList_append, List.length_append] at hbound
    have hopen : "(".toList.length = 1 := rfl
    obtain ⟨bound, rfl⟩ : ∃ b, bound = b + 1 := ⟨bound - 1, by omega⟩
    have hclosing : EndsRow (')' :: (((more.map write).text true).toList ++ rest)) := by
      simp [EndsRow]
    have hread := ihinner hinner false bound hclosing (by omega)
    have hrow := ihmore hmore true bound hrest (by omega)
    have htext : (((bracket logic inner more).map write).text joined).toList ++ rest =
        (Group.joint joined false logic).toList ++ '(' ::
          (((inner.map write).text false).toList ++
            ')' :: (((more.map write).text true).toList ++ rest)) := by
      simp [map, text]
    rw [htext, readRow_joint joined logic (by decide), readItems, if_pos rfl, hread]
    simp only [Option.bind_eq_bind, Option.bind_some, readClosing, hrow]
    rfl

/-- The text of a tree is read as the tree, without the logic of the first item of each row. -/
theorem read_text {tree : Forest Logic α}
    (h : tree.All fun a => ReadsClause clause (write a) (out a)) :
    read clause ((tree.map write).text false).toList = some ((tree.map out).forget false) := by
  have hend : EndsRow [] := nofun
  have hread := readRow_text h false _ hend (Nat.le_refl _)
  rw [List.append_nil] at hread
  rw [read, hread]

end

end Forest

end SearchQL
