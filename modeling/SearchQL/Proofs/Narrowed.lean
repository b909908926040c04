import SearchQL.Proofs.Grouping
import SearchQL.Proofs.Keywords
import SearchQL.Proofs.Precedence

/-!
# The reach of a full-text search

A selection writes its full-text search before its conditions, with AND between them and no bracket
around the conditions. So the search belongs to the first conjunction of the conditions alone, and
an OR behind it lets in documents that the search did not find.

* `Forest.Judges` says that conditions are given truth values.
* `Query.searched` is the search as a clause, and `Query.narrowing` are the pieces of what a
  selection has to satisfy.
* `Query.narrows_of_and` and `Query.exists_evading` say when both are asked for, and when not.
* `Query.search_narrows_iff` says what the search asks for, and when it asks for all of it.
* `Query.search_evaded` is a selection that it does not narrow.
-/

namespace SearchQL

/-! ## Truth values of conditions -/

/-- The conditions of a tree, each of them true or false. -/
def Forest.Judges (conditions : Forest Logic Assertion) (tree : Forest Logic Condition) : Prop :=
  conditions.map Assertion.text = tree.map Condition.text

namespace Forest.Judges

variable {conditions : Forest Logic Assertion} {tree : Forest Logic Condition}

theorem ne_nil (h : conditions.Judges tree) (hne : tree ≠ .nil) : conditions ≠ .nil := by
  rintro rfl
  exact hne (map_eq_nil_iff.1 h.symm)

theorem full (h : conditions.Judges tree) (hfull : tree.Full) : conditions.Full := by
  rwa [← full_map Assertion.text, h, full_map]

theorem joints_eq (h : conditions.Judges tree) : conditions.joints = tree.joints := by
  rw [← joints_map Assertion.text, h, joints_map]

/-- The joints of the items stand in their values. -/
theorem values_tail (h : conditions.Judges tree) :
    conditions.values.tail.map Prod.fst = tree.joints.tail := by
  rw [List.map_tail, values_fst, h.joints_eq]

theorem values_ne_nil (h : conditions.Judges tree) (hne : tree ≠ .nil) : conditions.values ≠ [] :=
  fun hnil => h.ne_nil hne (values_eq_nil_iff.1 hnil)

/-- The pieces are cut from the text of the conditions. -/
theorem spell_eq (h : conditions.Judges tree) :
    Piece.spell (Chain.pieces conditions.items) = (tree.map Condition.text).text false := by
  rw [(spell_items conditions).1, h]

end Forest.Judges

/-- All conditions of a tree may be true. -/
theorem Forest.judges_true (tree : Forest Logic Condition) :
    (tree.map fun c => Assertion.mk c.text true).Judges tree :=
  map_map _ _ tree

namespace Query

/-! ## What a selection has to satisfy -/

/-- The full-text search of a selection, which finds a document or not. -/
def searched (q : Query) (found : Bool) : Assertion :=
  ⟨"MATCH(" ++ Search.argument q.searches ++ ")", found⟩

/-- What a selection with a full-text search has to satisfy, in pieces. -/
def narrowing (q : Query) (found : Bool) (conditions : Forest Logic Assertion) : List Piece :=
  .clause (q.searched found) :: .joint .and :: Chain.pieces conditions.items

/-- The text of what a selection with a full-text search has to satisfy is cut into its pieces. -/
theorem selectionFilter_eq_narrowing {q : Query} (hsearches : q.searches ≠ [])
    (hne : q.filters.isEmpty = false) {conditions : Forest Logic Assertion}
    (h : Condition.renderGroup "WHERE" q.filters =
      .ok (Piece.spell (Chain.pieces conditions.items))) (found : Bool) :
    q.clauses.selectionFilter =
      .ok (" WHERE " ++ Piece.spell (q.narrowing found conditions)) := by
  have hsearched : q.searches.isEmpty = false := List.isEmpty_eq_false_iff.2 hsearches
  have hspell : Piece.spell (q.narrowing found conditions) =
      "MATCH(" ++ Search.argument q.searches ++ ")" ++ " AND " ++
        Piece.spell (Chain.pieces conditions.items) := by
    rw [narrowing, Piece.spell_cons, Piece.spell_cons, ← String.append_assoc]
    rfl
  rw [q.selectionFilter_eq h, restriction, hsearched, hne, hspell]
  rfl

variable {tree : Forest Logic Condition} {conditions : Forest Logic Assertion}

/-- What a selection has to satisfy is read with the search in the first conjunction. -/
theorem truth?_narrowing (q : Query) (found : Bool) (hne : conditions ≠ .nil)
    (hfull : conditions.Full) :
    Piece.truth? (q.narrowing found conditions) = some (Chain.narrowed found conditions.values) :=
  Piece.truth?_and_pieces (q.searched found) (fun hnil => hne (Forest.items_eq_nil_iff.1 hnil))
    (Forest.reads_items hfull)

/-- Conditions without an OR outside of brackets are one conjunction, and the search belongs to
it. -/
theorem narrows_of_and (q : Query) (found : Bool) (h : conditions.Judges tree)
    (hne : tree ≠ .nil) (hfull : tree.Full) (hand : ∀ logic ∈ tree.joints.tail, logic = .and) :
    Piece.truth? (q.narrowing found conditions) =
      (Piece.truth? (Chain.pieces conditions.items)).map (found && ·) := by
  have htail : ∀ x ∈ conditions.values.tail, x.1 = .and := by
    intro x hx
    refine hand x.1 ?_
    rw [← h.values_tail]
    exact List.mem_map_of_mem hx
  rw [q.truth?_narrowing found (h.ne_nil hne) (h.full hfull),
    Forest.truth?_items (h.ne_nil hne) (h.full hfull),
    Chain.narrowed_of_and found (h.values_ne_nil hne) htail]
  rfl

/-- Behind an OR outside of brackets true conditions are enough, and nothing need be found. -/
theorem exists_evading (q : Query) (hne : tree ≠ .nil) (hfull : tree.Full)
    (hor : .or ∈ tree.joints.tail) : ∃ conditions : Forest Logic Assertion,
      conditions.Judges tree ∧ Piece.truth? (q.narrowing false conditions) = some true := by
  have h := Forest.judges_true tree
  have htrue := Forest.values_true (Forest.All.map (Forest.all_iff.2 fun _ _ _ => rfl) :
    (tree.map fun c => Assertion.mk c.text true).All fun a => a.holds = true)
  rw [← h.values_tail] at hor
  obtain ⟨x, hx, hlogic⟩ := List.mem_map.1 hor
  refine ⟨_, h, ?_⟩
  rw [q.truth?_narrowing false (h.ne_nil hne) (h.full hfull),
    Chain.narrowed_of_or false htrue ⟨x, hx, hlogic⟩]

/-- **A full-text search narrows the first conjunction of the conditions.** A document that a
selection lets in satisfies the conditions, and one that is found and satisfies them is let in. The
selection asks for both, whatever the conditions say, exactly if none of them stands behind an OR
outside of brackets. -/
theorem search_narrows_iff {q : Query} (hq : q.Reachable) (hkind : q.kind.any Kind.selects = true)
    (hsearches : q.searches ≠ []) (hne : q.filters.isEmpty = false) (hdepth : q.filters.depth = 0)
    (hclauses : ∀ logic c, .clause logic c ∈ q.filters.entries →
      ∃ text, c.render = .ok text ∧ text ≠ "") :
    ∃ tree : Forest Logic Condition, tree.flatten = q.filters.entries ∧ (tree.Full →
      (∀ found (conditions : Forest Logic Assertion), conditions.Judges tree →
        Condition.renderGroup "WHERE" q.filters =
          .ok (Piece.spell (Chain.pieces conditions.items)) ∧
        (∀ text, q.render = .ok text → ∃ front back,
          text = front ++ " WHERE " ++ Piece.spell (q.narrowing found conditions) ++ back) ∧
        ∃ own whole, Piece.truth? (Chain.pieces conditions.items) = some own ∧
          Piece.truth? (q.narrowing found conditions) = some whole ∧
          (found && own → whole) ∧ (whole → own)) ∧
      ((∀ found (conditions : Forest Logic Assertion), conditions.Judges tree →
          Piece.truth? (q.narrowing found conditions) =
            (Piece.truth? (Chain.pieces conditions.items)).map (found && ·)) ↔
        ∀ logic ∈ tree.joints.tail, logic = .and)) := by
  have hbalanced : Entry.Balanced q.filters.entries := (hq.sound .filters).balanced hdepth
  obtain ⟨tree, htree⟩ := Forest.exists_flatten hbalanced
  have htexts : ∀ logic c, .clause logic c ∈ q.filters.entries → c.render = .ok c.text ∧
      c.text ≠ "" := by
    intro logic c hmem
    obtain ⟨text, hrender, htext⟩ := hclauses logic c hmem
    have heq : c.text = text := by rw [Condition.text, hrender]
    exact heq ▸ ⟨hrender, htext⟩
  have hnil : tree ≠ .nil := by
    rintro rfl
    rw [Group.isEmpty, ← htree] at hne
    cases hne
  refine ⟨tree, htree, fun hfull => ⟨fun found conditions h => ?_, ?_⟩⟩
  · have hown : Condition.renderGroup "WHERE" q.filters =
        .ok (Piece.spell (Chain.pieces conditions.items)) := by
      rw [h.spell_eq, Group.renderGroup_eq_text hdepth htexts htree]
    refine ⟨hown, fun text htext => ?_, _, _,
      Forest.truth?_items (h.ne_nil hnil) (h.full hfull),
      q.truth?_narrowing found (h.ne_nil hnil) (h.full hfull),
      Chain.narrowed_between found (h.values_ne_nil hnil)⟩
    rw [render_eq_selection hkind] at htext
    obtain ⟨front, filter, middle, facets, hfilter, -, rfl⟩ := Clauses.exists_of_selection htext
    rw [selectionFilter_eq_narrowing hsearches hne hown found] at hfilter
    obtain rfl := Except.ok.inj hfilter
    exact ⟨front, middle ++ Clauses.facetText facets, by simp only [String.append_assoc]⟩
  · constructor
    · intro hall logic hmem
      cases logic with
      | and => rfl
      | or =>
        obtain ⟨conditions, h, hevading⟩ := q.exists_evading hnil hfull hmem
        rw [hall false conditions h, Forest.truth?_items (h.ne_nil hnil) (h.full hfull)] at hevading
        cases hevading
    · intro hand found conditions h
      exact q.narrows_of_and found h hnil hfull hand

/-- The condition that a column is equal to a number. -/
def equals (name : String) (n : Int) : Condition := .equal (.name name) (.int n)

/-- A search, and conditions with an OR between brackets. -/
def bracketedSearch : Query :=
  empty.run [.select [], .index (.name "rt"), .search ⟨none, .text "x"⟩,
    .openBracket .filters .or, .condition .filters .or (equals "a" 1),
    .condition .filters .or (equals "b" 2), .closeBracket false,
    .condition .filters .and (equals "c" 3)]

/-- The conditions of `bracketedSearch`, all of them true. -/
def bracketedConditions : Forest Logic Assertion :=
  .bracket .or (.clause .or ⟨"`a` = 1", true⟩ (.clause .or ⟨"`b` = 2", true⟩ .nil))
    (.clause .and ⟨"`c` = 3", true⟩ .nil)

/-- An OR between brackets does not keep the search from all conditions. -/
theorem search_narrows_bracketed :
    bracketedSearch.Reachable ∧ bracketedSearch.kind = some .select ∧
    bracketedSearch.searches ≠ [] ∧ bracketedSearch.filters.isEmpty = false ∧
    bracketedSearch.filters.depth = 0 ∧
    (∀ logic c, .clause logic c ∈ bracketedSearch.filters.entries →
      ∃ text, c.render = .ok text ∧ text ≠ "") ∧
    Condition.renderGroup "WHERE" bracketedSearch.filters =
      .ok (Piece.spell (Chain.pieces bracketedConditions.items)) ∧
    Piece.truth? (bracketedSearch.narrowing false bracketedConditions) =
      (Piece.truth? (Chain.pieces bracketedConditions.items)).map (false && ·) := by
  have hreach : bracketedSearch.Reachable := Reachable.empty.run _
  have hclauses : ∀ logic c, .clause logic c ∈ bracketedSearch.filters.entries →
      ∃ text, c.render = .ok text ∧ text ≠ "" := by
    intro logic c hmem
    have hentries : bracketedSearch.filters.entries =
        [.opened .or, .clause .or (equals "a" 1), .clause .or (equals "b" 2), .closed,
          .clause .and (equals "c" 3)] := rfl
    simp only [hentries, List.mem_cons, List.not_mem_nil, reduceCtorEq, Entry.clause.injEq,
      false_or, or_false] at hmem
    rcases hmem with ⟨-, rfl⟩ | ⟨-, rfl⟩ | ⟨-, rfl⟩
    · exact ⟨"`a` = 1", rfl, by decide⟩
    · exact ⟨"`b` = 2", rfl, by decide⟩
    · exact ⟨"`c` = 3", rfl, by decide⟩
  obtain ⟨tree, htree, hnarrows⟩ := search_narrows_iff hreach rfl (List.cons_ne_nil _ _) rfl rfl
    hclauses
  obtain rfl : tree = .bracket .or (.clause .or (equals "a" 1) (.clause .or (equals "b" 2) .nil))
      (.clause .and (equals "c" 3) .nil) := Forest.flatten_injective (htree.trans rfl)
  obtain ⟨htexts, hand⟩ := hnarrows ⟨nofun, trivial, trivial⟩
  refine ⟨hreach, rfl, List.cons_ne_nil _ _, rfl, rfl, hclauses,
    (htexts false bracketedConditions rfl).1, hand.2 ?_ false bracketedConditions rfl⟩
  simp [Forest.joints]

/-- A search, and conditions with an OR between them. -/
def evading : Query :=
  empty.run [.select [.name "*"], .index (.name "rt"), .search ⟨none, .text "x"⟩,
    .condition .filters .and (equals "a" 1), .condition .filters .or (equals "b" 2)]

/-- The conditions of `evading`, of which the second is true. -/
def evadingConditions : Forest Logic Assertion :=
  .clause .and ⟨"`a` = 1", false⟩ (.clause .or ⟨"`b` = 2", true⟩ .nil)

/-- A condition behind an OR lets in documents that the search does not find. -/
theorem search_evaded :
    evading.Reachable ∧ evading.kind = some .select ∧
    Condition.renderGroup "WHERE" evading.filters =
      .ok (Piece.spell (Chain.pieces evadingConditions.items)) ∧
    evading.render = .ok "SELECT * FROM `rt` WHERE MATCH('x') AND `a` = 1 OR `b` = 2" ∧
    Piece.spell (evading.narrowing false evadingConditions) =
      "MATCH('x') AND `a` = 1 OR `b` = 2" ∧
    Piece.truth? (evading.narrowing false evadingConditions) = some true :=
  ⟨Reachable.empty.run _, rfl, rfl, rfl, rfl, rfl⟩

end Query

end SearchQL
