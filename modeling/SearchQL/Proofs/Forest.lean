import SearchQL.Group
import SearchQL.Proofs.Bracket

/-!
# The tree of a group

The entries of a group whose brackets balance are a row of items: an item is a clause or a bracket,
and inside a bracket there is a row of items again. The text of a group is written from the marks
between the items; it is the text that goes down the tree.

* `Forest` is a row of items, each with its joint to the item before it.
* `Forest.flatten` gives the entries back; `Forest.exists_flatten` and `Forest.flatten_injective`
  say that balanced entries have one tree.
* `Forest.text` is the text of a tree, and `Forest.layOut_flatten` says that a group is written so.
-/

namespace SearchQL

/-- A row of items. Each carries how it is joined to the one before it. -/
inductive Forest (ℓ α : Type) where
  | nil
  /-- A clause and the items behind it. -/
  | clause (joint : ℓ) (item : α) (rest : Forest ℓ α)
  /-- A bracket with the items in it, and the items behind it. -/
  | bracket (joint : ℓ) (inner rest : Forest ℓ α)
deriving DecidableEq, Repr

namespace Forest

open Entry

variable {ℓ α β : Type}

/-! ## Entries -/

/-- The entries of a tree, from left to right. -/
def flatten : Forest Logic α → List (Entry α)
  | .nil => []
  | .clause logic item rest => .clause logic item :: rest.flatten
  | .bracket logic inner rest => .opened logic :: (inner.flatten ++ .closed :: rest.flatten)

@[simp] theorem flatten_nil : (nil : Forest Logic α).flatten = [] := rfl

@[simp] theorem flatten_clause (logic : Logic) (item : α) (rest : Forest Logic α) :
    (clause logic item rest).flatten = .clause logic item :: rest.flatten := rfl

@[simp] theorem flatten_bracket (logic : Logic) (inner rest : Forest Logic α) :
    (bracket logic inner rest).flatten =
      .opened logic :: (inner.flatten ++ .closed :: rest.flatten) := rfl

/-- Rows of items behind closing brackets: what follows a row inside open brackets. -/
def closing (rows : List (Forest Logic α)) : List (Entry α) :=
  rows.flatMap fun row => .closed :: row.flatten

/-- Entries that close `depth` more brackets than they open, and never more, are a row of items and
`depth` rows behind closing brackets. -/
theorem exists_flatten_closing (es : List (Entry α)) (depth : Nat)
    (hall : closes es = opens es + depth)
    (hnever : ∀ fs, fs <+: es → closes fs ≤ opens fs + depth) :
    ∃ (row : Forest Logic α) (rows : List (Forest Logic α)),
      rows.length = depth ∧ es = row.flatten ++ closing rows := by
  induction es generalizing depth with
  | nil =>
    have hdepth : depth = 0 := by simpa [eq_comm] using hall
    exact ⟨nil, [], hdepth.symm, rfl⟩
  | cons e es ih =>
    have htail : ∀ fs, fs <+: es → closes (e :: fs) ≤ opens (e :: fs) + depth := fun fs hfs =>
      hnever _ ((List.prefix_cons_inj e).2 hfs)
    cases e with
    | clause logic item =>
      obtain ⟨row, rows, hlength, hes⟩ := ih depth (by simpa [isOpened, isClosed] using hall)
        fun fs hfs => by simpa [isOpened, isClosed] using htail fs hfs
      exact ⟨clause logic item row, rows, hlength, by rw [hes]; rfl⟩
    | opened logic =>
      obtain ⟨inner, rows, hlength, hes⟩ := ih (depth + 1)
        (by simp [isOpened, isClosed] at hall; omega)
        fun fs hfs => by
          have h := htail fs hfs
          simp [isOpened, isClosed] at h
          omega
      cases rows with
      | nil => simp at hlength
      | cons row rows =>
        refine ⟨bracket logic inner row, rows, by simpa using hlength, ?_⟩
        rw [hes]
        simp [closing]
    | closed =>
      have hpos : 0 < depth := by
        have h := htail [] List.nil_prefix
        simp [isOpened, isClosed] at h
        omega
      obtain ⟨row, rows, hlength, hes⟩ := ih (depth - 1)
        (by simp [isOpened, isClosed] at hall; omega)
        fun fs hfs => by
          have h := htail fs hfs
          simp [isOpened, isClosed] at h
          omega
      refine ⟨nil, row :: rows, by rw [List.length_cons]; omega, ?_⟩
      rw [hes]
      simp [closing]

/-- Balanced entries have a tree. -/
theorem exists_flatten {es : List (Entry α)} (h : Balanced es) :
    ∃ tree : Forest Logic α, tree.flatten = es := by
  obtain ⟨tree, rows, hlength, hes⟩ := exists_flatten_closing es 0 h.closes_eq h.neverBelow
  obtain rfl : rows = [] := List.length_eq_zero_iff.1 hlength
  exact ⟨tree, by rw [hes]; simp [closing]⟩

/-- A row of items ends here: there are no more entries, or a bracket is closed. -/
def Ends (es : List (Entry α)) : Prop := es = [] ∨ ∃ fs, es = .closed :: fs

/-- A row of items can be told from what follows it. -/
theorem flatten_append_injective {row row' : Forest Logic α} {es es' : List (Entry α)}
    (hes : Ends es) (hes' : Ends es') (h : row.flatten ++ es = row'.flatten ++ es') :
    row = row' ∧ es = es' := by
  induction row generalizing row' es es' with
  | nil =>
    cases row' with
    | nil => exact ⟨rfl, h⟩
    | clause => rcases hes with rfl | ⟨fs, rfl⟩ <;> simp at h
    | bracket => rcases hes with rfl | ⟨fs, rfl⟩ <;> simp at h
  | clause logic item rest ih =>
    cases row' with
    | nil => rcases hes' with rfl | ⟨fs, rfl⟩ <;> simp at h
    | clause logic' item' rest' =>
      simp only [flatten_clause, List.cons_append, List.cons.injEq, Entry.clause.injEq] at h
      obtain ⟨⟨rfl, rfl⟩, h⟩ := h
      obtain ⟨rfl, rfl⟩ := ih hes hes' h
      exact ⟨rfl, rfl⟩
    | bracket => simp at h
  | bracket logic inner rest ihinner ihrest =>
    cases row' with
    | nil => rcases hes' with rfl | ⟨fs, rfl⟩ <;> simp at h
    | clause => simp at h
    | bracket logic' inner' rest' =>
      simp only [flatten_bracket, List.cons_append, List.append_assoc, List.cons.injEq,
        Entry.opened.injEq] at h
      obtain ⟨rfl, h⟩ := h
      obtain ⟨rfl, hrest⟩ := ihinner (.inr ⟨_, rfl⟩) (.inr ⟨_, rfl⟩) h
      obtain ⟨rfl, rfl⟩ := ihrest hes hes' (List.cons.inj hrest).2
      exact ⟨rfl, rfl⟩

/-- Entries have at most one tree. -/
theorem flatten_injective {tree tree' : Forest Logic α} (h : tree.flatten = tree'.flatten) :
    tree = tree' := by
  have hends : Ends ([] : List (Entry α)) := .inl rfl
  have happend : tree.flatten ++ [] = tree'.flatten ++ [] := by rw [h]
  exact (flatten_append_injective hends hends happend).1

/-! ## Clauses -/

/-- The tree with every clause replaced. -/
def map (f : α → β) : Forest ℓ α → Forest ℓ β
  | .nil => .nil
  | .clause joint item rest => .clause joint (f item) (rest.map f)
  | .bracket joint inner rest => .bracket joint (inner.map f) (rest.map f)

theorem flatten_map (f : α → β) (tree : Forest Logic α) :
    (tree.map f).flatten = tree.flatten.map (Entry.map f) := by
  induction tree with
  | nil => rfl
  | clause logic item rest ih => simp [map, ih, Entry.map]
  | bracket logic inner rest ihinner ihrest => simp [map, ihinner, ihrest, Entry.map]

/-- Every clause of the tree satisfies `P`. -/
def All (P : α → Prop) : Forest ℓ α → Prop
  | .nil => True
  | .clause _ item rest => P item ∧ rest.All P
  | .bracket _ inner rest => inner.All P ∧ rest.All P

theorem all_iff {P : α → Prop} {tree : Forest Logic α} :
    tree.All P ↔ ∀ logic item, .clause logic item ∈ tree.flatten → P item := by
  induction tree with
  | nil => simp [All]
  | clause logic item rest ih =>
    simp only [All, ih, flatten_clause, List.mem_cons, Entry.clause.injEq]
    constructor
    · rintro ⟨hitem, hrest⟩ logic' item' (⟨rfl, rfl⟩ | hmem)
      · exact hitem
      · exact hrest logic' item' hmem
    · intro h
      exact ⟨h logic item (.inl ⟨rfl, rfl⟩), fun logic' item' hmem => h logic' item' (.inr hmem)⟩
  | bracket logic inner rest ihinner ihrest =>
    simp only [All, ihinner, ihrest, flatten_bracket, List.mem_cons, List.mem_append, reduceCtorEq,
      false_or]
    constructor
    · rintro ⟨hinner, hrest⟩ logic' item' (hmem | hmem)
      · exact hinner logic' item' hmem
      · exact hrest logic' item' hmem
    · intro h
      exact ⟨fun logic' item' hmem => h logic' item' (.inl hmem),
        fun logic' item' hmem => h logic' item' (.inr hmem)⟩

theorem All.imp {P Q : α → Prop} (h : ∀ a, P a → Q a) {tree : Forest ℓ α} (htree : tree.All P) :
    tree.All Q := by
  induction tree with
  | nil => trivial
  | clause joint item rest ih => exact ⟨h item htree.1, ih htree.2⟩
  | bracket joint inner rest ihinner ihrest => exact ⟨ihinner htree.1, ihrest htree.2⟩

theorem All.map {P : β → Prop} {f : α → β} {tree : Forest ℓ α} (h : tree.All fun a => P (f a)) :
    (tree.map f).All P := by
  induction tree with
  | nil => trivial
  | clause joint item rest ih => exact ⟨h.1, ih h.2⟩
  | bracket joint inner rest ihinner ihrest => exact ⟨ihinner h.1, ihrest h.2⟩

/-! ## The text -/

/-- The text of a row of items. The first one is joined to what stands before the row only if
`joined` says so. -/
def text (joined : Bool) : Forest Logic String → String
  | .nil => ""
  | .clause logic t rest => Group.joint joined false logic ++ t ++ rest.text true
  | .bracket logic inner rest =>
    Group.joint joined false logic ++ "(" ++ inner.text false ++ ")" ++ rest.text true

/-- The end of a row is written without regard to what stands before it. -/
theorem layOut_ends {es : List (Entry String)} (hes : Ends es) (started afterOpen : Bool) :
    Group.layOut started afterOpen es = Group.layOut true false es := by
  rcases hes with rfl | ⟨fs, rfl⟩
  · rfl
  · rfl

theorem joint_eq (started afterOpen : Bool) (logic : Logic) :
    Group.joint started afterOpen logic = Group.joint (started && !afterOpen) false logic := by
  simp [Group.joint]

/-- A row of items is written as its text, and the entries behind it as if text stood before them.
No clause may have an empty text, for nothing would tell that it was written. -/
theorem layOut_flatten_append {row : Forest Logic String} (hrow : row.All (· ≠ ""))
    (started afterOpen : Bool) {es : List (Entry String)} (hes : Ends es) :
    Group.layOut started afterOpen (row.flatten ++ es) =
      row.text (started && !afterOpen) ++ Group.layOut true false es := by
  induction row generalizing started afterOpen es with
  | nil => simp [text, layOut_ends hes]
  | clause logic t rest ih =>
    obtain ⟨ht, hrest⟩ := hrow
    have hstarted : (started || t != "") = true := by simp [ht]
    rw [flatten_clause, List.cons_append, Group.layOut, hstarted, ih hrest true false hes,
      joint_eq, text]
    simp [String.append_assoc]
  | bracket logic inner rest ihinner ihrest =>
    obtain ⟨hinner, hrest⟩ := hrow
    rw [flatten_bracket, List.cons_append, Group.layOut, List.append_assoc, List.cons_append,
      ihinner hinner true true (.inr ⟨_, rfl⟩), Group.layOut, ihrest hrest true false hes,
      joint_eq, text]
    simp [String.append_assoc]

/-- The text of a group is the text of its tree. -/
theorem layOut_flatten {tree : Forest Logic String} (h : tree.All (· ≠ "")) :
    Group.layOut false false tree.flatten = tree.text false := by
  have hends : Ends ([] : List (Entry String)) := .inl rfl
  have htext := layOut_flatten_append h false false hends
  rw [List.append_nil] at htext
  rw [htext]
  simp [Group.layOut]

end Forest

end SearchQL
