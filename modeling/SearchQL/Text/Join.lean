/-!
# Joined lists

Statement text is mostly lists of rendered parts with a separator between neighbours.

* `joinWith sep parts` writes `sep` between every two neighbours and nowhere else
  (`joinWith_cons_cons`, `toList_joinWith_cons`); no parts give the empty text.
* `pieces sep cs` cuts a list of characters at every `sep`, keeping empty pieces, so that there is
  one piece more than there are separators; `pieces_joinWith` says what it cuts apart again.
-/

namespace SearchQL

/-! ## Joining -/

/-- The texts of `parts` in order, with `sep` between neighbours. -/
def joinWith (sep : String) : List String → String
  | [] => ""
  | [part] => part
  | part :: next :: rest => part ++ sep ++ joinWith sep (next :: rest)

@[simp] theorem joinWith_nil (sep : String) : joinWith sep [] = "" := rfl

@[simp] theorem joinWith_singleton (sep part : String) : joinWith sep [part] = part := rfl

@[simp] theorem joinWith_cons_cons (sep part next : String) (rest : List String) :
    joinWith sep (part :: next :: rest) = part ++ sep ++ joinWith sep (next :: rest) := rfl

/-- Behind the first part every part has the separator in front of it. -/
theorem toList_joinWith_cons (sep part : String) (rest : List String) :
    (joinWith sep (part :: rest)).toList =
      part.toList ++ rest.flatMap fun next => sep.toList ++ next.toList := by
  induction rest generalizing part with
  | nil => simp
  | cons next rest ih =>
    rw [joinWith_cons_cons, String.toList_append, String.toList_append, ih, List.flatMap_cons,
      List.append_assoc, List.append_assoc]

/-! ## Cutting -/

/-- The stretches of `cs` between the characters equal to `sep`; empty stretches count. -/
def pieces (sep : Char) : List Char → List (List Char)
  | [] => [[]]
  | c :: cs =>
    if c = sep then [] :: pieces sep cs
    else
      match pieces sep cs with
      | [] => [[c]]
      | piece :: rest => (c :: piece) :: rest

/-- There is always a first piece. -/
theorem pieces_ne_nil (sep : Char) (cs : List Char) : pieces sep cs ≠ [] := by
  cases cs with
  | nil => simp [pieces]
  | cons c cs =>
    by_cases h : c = sep
    · simp [pieces, h]
    · simp only [pieces, h, if_false]
      split <;> simp

/-- The pieces with the separator between them are what was cut. -/
theorem exists_pieces (sep : Char) (cs : List Char) :
    ∃ piece rest, pieces sep cs = piece :: rest ∧ piece ++ rest.flatMap (sep :: ·) = cs := by
  induction cs with
  | nil => exact ⟨[], [], rfl, rfl⟩
  | cons c cs ih =>
    obtain ⟨piece, rest, hpieces, hcs⟩ := ih
    by_cases h : c = sep
    · refine ⟨[], piece :: rest, by simp [pieces, h, hpieces], ?_⟩
      rw [List.nil_append, List.flatMap_cons, List.cons_append, hcs, h]
    · exact ⟨c :: piece, rest, by simp [pieces, h, hpieces], by rw [List.cons_append, hcs]⟩

/-- No separator is left in a piece. -/
theorem not_mem_of_mem_pieces {sep : Char} {cs piece : List Char} (h : piece ∈ pieces sep cs) :
    sep ∉ piece := by
  induction cs generalizing piece with
  | nil =>
    obtain rfl : piece = [] := by simpa [pieces] using h
    exact List.not_mem_nil
  | cons c cs ih =>
    by_cases hc : c = sep
    · rw [pieces, if_pos hc, List.mem_cons] at h
      rcases h with rfl | h
      · exact List.not_mem_nil
      · exact ih h
    · obtain ⟨first, rest, hpieces, -⟩ := exists_pieces sep cs
      rw [pieces, if_neg hc, hpieces, List.mem_cons] at h
      rcases h with rfl | h
      · rw [List.mem_cons, not_or]
        exact ⟨Ne.symm hc, ih (by rw [hpieces]; exact List.mem_cons_self)⟩
      · exact ih (by rw [hpieces]; exact List.mem_cons_of_mem _ h)

theorem pieces_of_not_mem {sep : Char} {cs : List Char} (h : sep ∉ cs) : pieces sep cs = [cs] := by
  induction cs with
  | nil => rfl
  | cons c cs ih =>
    rw [List.mem_cons, not_or] at h
    rw [pieces, if_neg (Ne.symm h.1), ih h.2]

/-- The first piece ends at the first separator. -/
theorem pieces_append {sep : Char} {cs : List Char} (h : sep ∉ cs) (ds : List Char) :
    pieces sep (cs ++ sep :: ds) = cs :: pieces sep ds := by
  induction cs with
  | nil => rw [List.nil_append, pieces, if_pos rfl]
  | cons c cs ih =>
    rw [List.mem_cons, not_or] at h
    rw [List.cons_append, pieces, if_neg (Ne.symm h.1), ih h.2]

/-- Parts that do not have the separator in them are cut apart again. -/
theorem pieces_joinWith {sep : Char} {word part : String} {rest : List String}
    (hword : word.toList = [sep]) (h : ∀ p ∈ part :: rest, sep ∉ p.toList) :
    pieces sep (joinWith word (part :: rest)).toList = (part :: rest).map String.toList := by
  induction rest generalizing part with
  | nil => exact pieces_of_not_mem (h part List.mem_cons_self)
  | cons next rest ih =>
    rw [List.forall_mem_cons] at h
    rw [joinWith_cons_cons, String.toList_append, String.toList_append, hword, List.append_assoc,
      List.singleton_append, pieces_append h.1, ih h.2, List.map_cons, List.map_cons, List.map_cons]

end SearchQL
