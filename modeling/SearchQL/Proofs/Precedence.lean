import Mathlib.Data.List.Forall2
import SearchQL.Proofs.Forest

/-!
# The truth of a text with AND and OR

What a text of clauses says, once every clause in it is true or false: brackets are looked into
first, then AND joins neighbours, and OR joins what is left. A clause is one piece of the text, and
nothing in it is looked at.

* `Piece.truth?` is the reader, which goes down from alternatives over conjunctions to operands.
* `Chain.holds` is the truth of operands in a row, each joined to the one before it.
* `Piece.truth?_pieces` says that a row of operands is read so, and `Forest.reads_items` that the
  items of a tree are operands.
-/

namespace SearchQL

/-! ## Pieces of a text -/

/-- A clause that is true or false. -/
structure Assertion where
  text : String
  holds : Bool
deriving DecidableEq, Repr

/-- A piece of the text of a group. -/
inductive Piece where
  | clause (a : Assertion)
  | joint (logic : Logic)
  | opened
  | closed
deriving DecidableEq, Repr

namespace Piece

/-- The text of a piece. -/
def text : Piece → String
  | .clause a => a.text
  | .joint logic => " " ++ logic.word ++ " "
  | .opened => "("
  | .closed => ")"

/-- The text of pieces, one behind the other. -/
def spell : List Piece → String
  | [] => ""
  | p :: ps => p.text ++ spell ps

@[simp] theorem spell_nil : spell [] = "" := rfl

@[simp] theorem spell_cons (p : Piece) (ps : List Piece) : spell (p :: ps) = p.text ++ spell ps :=
  rfl

@[simp] theorem spell_append (ps qs : List Piece) : spell (ps ++ qs) = spell ps ++ spell qs := by
  induction ps with
  | nil => simp
  | cons p ps ih => simp [ih, String.append_assoc]

/-! ## The reader -/

mutual

/-- Conjunctions with OR between them. -/
def readAlternatives : Nat → List Piece → Option (Bool × List Piece)
  | 0, _ => none
  | bound + 1, ps => do
    let (left, rest) ← readConjunction bound ps
    match rest with
    | .joint .or :: rest => do
      let (right, rest) ← readAlternatives bound rest
      some (left || right, rest)
    | rest => some (left, rest)

/-- Operands with AND between them. -/
def readConjunction : Nat → List Piece → Option (Bool × List Piece)
  | 0, _ => none
  | bound + 1, ps => do
    let (left, rest) ← readOperand bound ps
    match rest with
    | .joint .and :: rest => do
      let (right, rest) ← readConjunction bound rest
      some (left && right, rest)
    | rest => some (left, rest)

/-- A clause, or alternatives between brackets. -/
def readOperand : Nat → List Piece → Option (Bool × List Piece)
  | _ + 1, .clause a :: rest => some (a.holds, rest)
  | bound + 1, .opened :: rest =>
    match readAlternatives bound rest with
    | some (inner, .closed :: rest) => some (inner, rest)
    | _ => none
  | _, _ => none

end

/-- Whether a text is true. Every piece costs at most one step down on each level. -/
def truth? (ps : List Piece) : Option Bool :=
  match readAlternatives (3 * ps.length + 2) ps with
  | some (b, []) => some b
  | _ => none

end Piece

/-! ## Operands in a row -/

/-- Operands in a row, each with its joint to the one before it. That of the first is not
written. -/
abbrev Chain (α : Type) := List (Logic × α)

namespace Chain

/-- The pieces of operands behind the first one. -/
def further (chain : Chain (List Piece)) : List Piece :=
  chain.flatMap fun (logic, ps) => .joint logic :: ps

/-- The pieces of operands in a row. -/
def pieces : Chain (List Piece) → List Piece
  | [] => []
  | (_, ps) :: rest => ps ++ further rest

@[simp] theorem pieces_cons (logic : Logic) (ps : List Piece) (rest : Chain (List Piece)) :
    pieces ((logic, ps) :: rest) = ps ++ further rest := rfl

@[simp] theorem further_cons (logic : Logic) (ps : List Piece) (rest : Chain (List Piece)) :
    further ((logic, ps) :: rest) = .joint logic :: (ps ++ further rest) := by
  simp [further]

/-- Whether all operands up to the first that is joined by OR are true. -/
def run : Chain Bool → Bool
  | [] => true
  | (.and, b) :: rest => b && run rest
  | (.or, _) :: _ => true

/-- Whether one of the conjunctions that are joined by OR is true. -/
def others : Chain Bool → Bool
  | [] => false
  | (.and, _) :: rest => others rest
  | (.or, b) :: rest => b && run rest || others rest

/-- The truth of operands in a row: one of the conjunctions between two ORs is true. -/
def holds : Chain Bool → Bool
  | [] => true
  | (_, b) :: rest => b && run rest || others rest

/-- Without an OR there is one conjunction. -/
theorem others_eq_false {chain : Chain Bool} (h : ∀ x ∈ chain, x.1 = .and) :
    others chain = false := by
  induction chain with
  | nil => rfl
  | cons x rest ih =>
    obtain ⟨logic, b⟩ := x
    rw [List.forall_mem_cons] at h
    obtain ⟨rfl, hrest⟩ := h
    rw [others, ih hrest]

theorem run_eq_true {chain : Chain Bool} (h : ∀ x ∈ chain, x.2 = true) : run chain = true := by
  induction chain with
  | nil => rfl
  | cons x rest ih =>
    obtain ⟨logic, b⟩ := x
    rw [List.forall_mem_cons] at h
    obtain ⟨rfl, hrest⟩ := h
    cases logic with
    | and => rw [run, ih hrest, Bool.and_self]
    | or => rfl

/-- True operands of which one is joined by OR. -/
theorem others_eq_true {chain : Chain Bool} (h : ∀ x ∈ chain, x.2 = true)
    (hor : ∃ x ∈ chain, x.1 = .or) : others chain = true := by
  induction chain with
  | nil => simp at hor
  | cons x rest ih =>
    obtain ⟨logic, b⟩ := x
    rw [List.forall_mem_cons] at h
    obtain ⟨rfl, hrest⟩ := h
    cases logic with
    | and => exact ih hrest (by simpa using hor)
    | or => rw [others, run_eq_true hrest, Bool.and_self, Bool.true_or]

/-- The truth of operands in a row behind one more operand and AND: the first conjunction alone has
the operand in it. -/
def narrowed (found : Bool) : Chain Bool → Bool
  | [] => found
  | (_, b) :: rest => found && (b && run rest) || others rest

/-- One more operand before the row asks for more, though not of every conjunction. -/
theorem narrowed_between (found : Bool) {chain : Chain Bool} (hne : chain ≠ []) :
    (found && holds chain → narrowed found chain) ∧ (narrowed found chain → holds chain) := by
  cases chain with
  | nil => exact absurd rfl hne
  | cons x rest =>
    rw [narrowed, holds]
    cases found <;> cases others rest <;> simp

/-- A row that is one conjunction is narrowed as a whole. -/
theorem narrowed_of_and (found : Bool) {chain : Chain Bool} (hne : chain ≠ [])
    (h : ∀ x ∈ chain.tail, x.1 = .and) : narrowed found chain = (found && holds chain) := by
  cases chain with
  | nil => exact absurd rfl hne
  | cons x rest =>
    have hothers : others rest = false := others_eq_false h
    rw [narrowed, holds, hothers, Bool.or_false, Bool.or_false]

/-- A true operand behind an OR makes the row true, whatever stands before it. -/
theorem narrowed_of_or (found : Bool) {chain : Chain Bool} (h : ∀ x ∈ chain, x.2 = true)
    (hor : ∃ x ∈ chain.tail, x.1 = .or) : narrowed found chain = true := by
  cases chain with
  | nil => simp at hor
  | cons x rest =>
    rw [narrowed, others_eq_true (List.forall_mem_cons.1 h).2 hor, Bool.or_true]

theorem holds_eq_true {chain : Chain Bool} (h : ∀ x ∈ chain, x.2 = true) : holds chain = true := by
  cases chain with
  | nil => rfl
  | cons x rest =>
    rw [List.forall_mem_cons] at h
    rw [holds, h.1, run_eq_true h.2, Bool.and_self, Bool.true_or]

end Chain

/-! ## What is read -/

namespace Piece

open Chain

/-- A row of operands is over: there are no more pieces, or a bracket is closed. -/
def Ends (ps : List Piece) : Prop := ps = [] ∨ ∃ qs, ps = .closed :: qs

/-- Pieces are read as an operand, whatever stands behind them. -/
def Reads (ps : List Piece) (b : Bool) : Prop :=
  ∀ bound rest, 3 * ps.length ≤ bound → readOperand bound (ps ++ rest) = some (b, rest)

theorem Reads.clause (a : Assertion) : Reads [.clause a] a.holds := by
  intro bound rest hbound
  obtain ⟨bound, rfl⟩ : ∃ n, bound = n + 1 := ⟨bound - 1, by simp at hbound; omega⟩
  rw [List.singleton_append, readOperand]

/-- Operands in a row that are read with these truth values. -/
abbrev ReadsAll (chain : Chain (List Piece)) (values : Chain Bool) : Prop :=
  List.Forall₂ (fun x y => x.1 = y.1 ∧ Reads x.2 y.2) chain values

variable {ps : List Piece} {b : Bool} {chain : Chain (List Piece)} {values : Chain Bool}

theorem readConjunction_last {bound : Nat} {rest : List Piece}
    (h : readOperand bound ps = some (b, rest)) (hrest : ∀ qs, rest ≠ .joint .and :: qs) :
    readConjunction (bound + 1) ps = some (b, rest) := by
  rw [readConjunction, h]
  simp only [Option.bind_eq_bind, Option.bind_some]

theorem readConjunction_and {bound : Nat} {qs rest : List Piece} {b' : Bool}
    (h : readOperand bound ps = some (b, .joint .and :: qs))
    (hmore : readConjunction bound qs = some (b', rest)) :
    readConjunction (bound + 1) ps = some (b && b', rest) := by
  rw [readConjunction, h]
  simp only [Option.bind_eq_bind, Option.bind_some, hmore]

theorem readAlternatives_last {bound : Nat} {rest : List Piece}
    (h : readConjunction bound ps = some (b, rest)) (hrest : Ends rest) :
    readAlternatives (bound + 1) ps = some (b, rest) := by
  rw [readAlternatives, h]
  rcases hrest with rfl | ⟨qs, rfl⟩
  · rfl
  · rfl

theorem readAlternatives_or {bound : Nat} {qs rest : List Piece} {b' : Bool}
    (h : readConjunction bound ps = some (b, .joint .or :: qs))
    (hmore : readAlternatives bound qs = some (b', rest)) :
    readAlternatives (bound + 1) ps = some (b || b', rest) := by
  rw [readAlternatives, h]
  simp only [Option.bind_eq_bind, Option.bind_some, hmore]

/-- A conjunction is read up to the first operand that is joined by OR, and what is left is again
operands in a row. -/
theorem readConjunction_chain (hps : Reads ps b) (h : ReadsAll chain values) {rest : List Piece}
    (hrest : Ends rest) {bound : Nat} (hbound : 3 * (ps ++ further chain).length + 1 ≤ bound) :
    ∃ (chain' : Chain (List Piece)) (values' : Chain Bool), ReadsAll chain' values' ∧
      (further chain').length ≤ (further chain).length ∧
      (∀ x ∈ values'.head?, x.1 = .or) ∧ others values' = others values ∧
      readConjunction bound (ps ++ (further chain ++ rest)) =
        some (b && run values, further chain' ++ rest) := by
  obtain ⟨bound, rfl⟩ : ∃ n, bound = n + 1 := ⟨bound - 1, by omega⟩
  rw [List.length_append] at hbound
  have hread := hps bound (further chain ++ rest) (by omega)
  induction h generalizing ps b bound with
  | nil =>
    refine ⟨[], [], .nil, Nat.le_refl _, nofun, rfl, ?_⟩
    have hnot : ∀ qs, further [] ++ rest ≠ .joint .and :: qs := by
      rcases hrest with rfl | ⟨qs, rfl⟩
      · exact nofun
      · exact nofun
    rw [readConjunction_last hread hnot, run, Bool.and_true]
  | @cons x y chain values hxy h ih =>
    obtain ⟨logic, qs⟩ := x
    obtain ⟨logic', b'⟩ := y
    obtain ⟨rfl, hqs⟩ : logic = logic' ∧ Reads qs b' := hxy
    have hcons : further ((logic, qs) :: chain) ++ rest =
        .joint logic :: (qs ++ (further chain ++ rest)) := by
      simp [further]
    have hlength : (further ((logic, qs) :: chain)).length =
        qs.length + (further chain).length + 1 := by
      simp [further]
    cases logic with
    | or =>
      refine ⟨_, _, .cons ⟨rfl, hqs⟩ h, Nat.le_refl _, by simp, rfl, ?_⟩
      have hnot : ∀ rs, further ((.or, qs) :: chain) ++ rest ≠ .joint .and :: rs := by
        rw [hcons]
        exact nofun
      rw [readConjunction_last hread hnot, run, Bool.and_true]
    | and =>
      obtain ⟨bound, rfl⟩ : ∃ n, bound = n + 1 := ⟨bound - 1, by omega⟩
      obtain ⟨chain', values', h', hle, hor, hothers, hmore⟩ :=
        ih hqs bound (by omega) (hqs bound _ (by omega))
      refine ⟨chain', values', h', by omega, hor, hothers, ?_⟩
      rw [hcons] at hread ⊢
      rw [readConjunction_and hread hmore, run]

/-- Operands in a row are read as the alternatives between them. -/
theorem readAlternatives_chain (hps : Reads ps b) (h : ReadsAll chain values) {rest : List Piece}
    (hrest : Ends rest) {bound : Nat} (hbound : 3 * (ps ++ further chain).length + 2 ≤ bound) :
    readAlternatives bound (ps ++ (further chain ++ rest)) =
      some (b && run values || others values, rest) := by
  -- what is left behind a conjunction is shorter, so the induction is on the length
  induction hlength : (further chain).length using Nat.strongRecOn
    generalizing ps b chain values bound with
  | _ length ih =>
    obtain ⟨bound, rfl⟩ : ∃ n, bound = n + 1 := ⟨bound - 1, by omega⟩
    have hbound' : 3 * (ps ++ further chain).length + 1 ≤ bound := by omega
    obtain ⟨chain', values', h', hle, hor, hothers, hread⟩ :=
      readConjunction_chain hps h hrest hbound'
    rw [← hothers]
    cases h' with
    | nil =>
      have hnil : further [] ++ rest = rest := rfl
      rw [hnil] at hread
      rw [readAlternatives_last hread hrest, others, Bool.or_false]
    | @cons x y chain' values' hxy h' =>
      obtain ⟨logic, qs⟩ := x
      obtain ⟨logic', b'⟩ := y
      obtain ⟨rfl, hqs⟩ : logic = logic' ∧ Reads qs b' := hxy
      obtain rfl : logic = .or := hor _ rfl
      have hcons : further ((.or, qs) :: chain') ++ rest =
          .joint .or :: (qs ++ (further chain' ++ rest)) := by
        simp [further]
      have hless : (further ((.or, qs) :: chain')).length =
          qs.length + (further chain').length + 1 := by
        simp [further]
      have hbound'' : 3 * (qs ++ further chain').length + 2 ≤ bound := by
        rw [List.length_append] at hbound' ⊢
        omega
      have hmore := ih (further chain').length (by omega) hqs h' hbound'' rfl
      rw [hcons] at hread
      rw [readAlternatives_or hread hmore, others]

/-- Operands in a row are read with their truth. -/
theorem truth?_pieces (hne : chain ≠ []) (h : ReadsAll chain values) :
    truth? (pieces chain) = some (holds values) := by
  cases h with
  | nil => exact absurd rfl hne
  | @cons x y chain values hxy h =>
    have hnil : Ends [] := .inl rfl
    have hread := readAlternatives_chain hxy.2 h hnil (Nat.le_refl _)
    rw [List.append_nil] at hread
    rw [pieces, truth?, hread, holds]

/-- A clause and AND before operands in a row belong to the first conjunction. -/
theorem truth?_and_pieces (a : Assertion) (hne : chain ≠ []) (h : ReadsAll chain values) :
    truth? (.clause a :: .joint .and :: pieces chain) = some (narrowed a.holds values) := by
  cases h with
  | nil => exact absurd rfl hne
  | @cons x y chain values hxy h =>
    have hpieces : .clause a :: .joint .and :: pieces (x :: chain) =
        pieces ((.and, [.clause a]) :: (.and, x.2) :: chain) := by
      simp [pieces]
    have hreads : ReadsAll ((.and, [.clause a]) :: (.and, x.2) :: chain)
        ((.and, a.holds) :: (.and, y.2) :: values) :=
      .cons ⟨rfl, .clause a⟩ (.cons ⟨rfl, hxy.2⟩ h)
    rw [hpieces, truth?_pieces (List.cons_ne_nil _ _) hreads]
    rfl

/-- Operands in a row between brackets are an operand. -/
theorem Reads.bracket (hne : chain ≠ []) (h : ReadsAll chain values) :
    Reads (.opened :: (pieces chain ++ [.closed])) (holds values) := by
  intro bound rest hbound
  obtain ⟨bound, rfl⟩ : ∃ n, bound = n + 1 := ⟨bound - 1, by simp at hbound; omega⟩
  cases h with
  | nil => exact absurd rfl hne
  | @cons x y chain values hxy h =>
    have hclosed : Ends (.closed :: rest) := .inr ⟨rest, rfl⟩
    have hbound' : 3 * (x.2 ++ further chain).length + 2 ≤ bound := by
      simp only [pieces, List.length_cons, List.length_append] at hbound ⊢
      omega
    have hread := readAlternatives_chain hxy.2 h hclosed hbound'
    have hpieces : .opened :: (pieces (x :: chain) ++ [.closed]) ++ rest =
        .opened :: (x.2 ++ (further chain ++ .closed :: rest)) := by
      simp [pieces]
    rw [hpieces, readOperand, hread, holds]

end Piece

/-! ## Trees -/

namespace Forest

variable {ℓ α β : Type}

/-- Every bracket has something in it. -/
def Full : Forest ℓ α → Prop
  | .nil => True
  | .clause _ _ rest => rest.Full
  | .bracket _ inner rest => inner ≠ .nil ∧ inner.Full ∧ rest.Full

/-- The joints of the items that are in no bracket. -/
def joints : Forest ℓ α → List ℓ
  | .nil => []
  | .clause joint _ rest => joint :: rest.joints
  | .bracket joint _ rest => joint :: rest.joints

theorem map_map {γ : Type} (f : α → β) (g : β → γ) (tree : Forest ℓ α) :
    (tree.map f).map g = tree.map fun a => g (f a) := by
  induction tree with
  | nil => rfl
  | clause joint item rest ih => simp only [map, ih]
  | bracket joint inner rest ihinner ihrest => simp only [map, ihinner, ihrest]

theorem map_eq_nil_iff {f : α → β} {tree : Forest ℓ α} : tree.map f = .nil ↔ tree = .nil := by
  cases tree with
  | nil => simp [map]
  | clause => simp [map]
  | bracket => simp [map]

@[simp] theorem full_map (f : α → β) (tree : Forest ℓ α) : (tree.map f).Full ↔ tree.Full := by
  induction tree with
  | nil => rfl
  | clause joint item rest ih => exact ih
  | bracket joint inner rest ihinner ihrest =>
    simp only [map, Full, ihinner, ihrest, ne_eq, map_eq_nil_iff]

@[simp] theorem joints_map (f : α → β) (tree : Forest ℓ α) : (tree.map f).joints = tree.joints := by
  induction tree with
  | nil => rfl
  | clause joint item rest ih => rw [map, joints, ih, joints]
  | bracket joint inner rest ihinner ihrest => rw [map, joints, ihrest, joints]

/-- The items of a row as pieces: a bracket is one item. -/
def items : Forest Logic Assertion → Chain (List Piece)
  | .nil => []
  | .clause logic a rest => (logic, [.clause a]) :: rest.items
  | .bracket logic inner rest =>
    (logic, .opened :: (Chain.pieces inner.items ++ [.closed])) :: rest.items

/-- The items of a row with their truth: a bracket is as true as the row in it. -/
def values : Forest Logic Assertion → Chain Bool
  | .nil => []
  | .clause logic a rest => (logic, a.holds) :: rest.values
  | .bracket logic inner rest => (logic, Chain.holds inner.values) :: rest.values

theorem values_fst (tree : Forest Logic Assertion) : tree.values.map Prod.fst = tree.joints := by
  induction tree with
  | nil => rfl
  | clause logic a rest ih => rw [values, List.map_cons, ih, joints]
  | bracket logic inner rest ihinner ihrest => rw [values, List.map_cons, ihrest, joints]

theorem items_eq_nil_iff {tree : Forest Logic Assertion} : tree.items = [] ↔ tree = .nil := by
  cases tree with
  | nil => simp [items]
  | clause => simp [items]
  | bracket => simp [items]

theorem values_eq_nil_iff {tree : Forest Logic Assertion} : tree.values = [] ↔ tree = .nil := by
  cases tree with
  | nil => simp [values]
  | clause => simp [values]
  | bracket => simp [values]

/-- Where all clauses are true, all items are. -/
theorem values_true {tree : Forest Logic Assertion} (h : tree.All fun a => a.holds = true) :
    ∀ x ∈ tree.values, x.2 = true := by
  induction tree with
  | nil => exact List.forall_mem_nil _
  | clause logic a rest ih => exact List.forall_mem_cons.2 ⟨h.1, ih h.2⟩
  | bracket logic inner rest ihinner ihrest =>
    exact List.forall_mem_cons.2 ⟨Chain.holds_eq_true (ihinner h.1), ihrest h.2⟩

/-- The items of a row are read as operands, if every bracket has something in it. -/
theorem reads_items {tree : Forest Logic Assertion} (h : tree.Full) :
    Piece.ReadsAll tree.items tree.values := by
  induction tree with
  | nil => exact .nil
  | clause logic a rest ih => exact .cons ⟨rfl, .clause a⟩ (ih h)
  | bracket logic inner rest ihinner ihrest =>
    obtain ⟨hne, hinner, hrest⟩ := h
    have hitems : inner.items ≠ [] := fun hnil => hne (items_eq_nil_iff.1 hnil)
    exact .cons ⟨rfl, .bracket hitems (ihinner hinner)⟩ (ihrest hrest)

/-- The pieces of a tree are its text, cut where its clauses and brackets begin and end. -/
theorem spell_items (tree : Forest Logic Assertion) :
    Piece.spell (Chain.pieces tree.items) = (tree.map Assertion.text).text false ∧
      Piece.spell (Chain.further tree.items) = (tree.map Assertion.text).text true := by
  have hjoint (logic : Logic) : Group.joint true false logic = " " ++ logic.word ++ " " := rfl
  have hfirst (logic : Logic) : Group.joint false false logic = "" := rfl
  induction tree with
  | nil => exact ⟨rfl, rfl⟩
  | clause logic a rest ih =>
    simp only [items, Chain.pieces_cons, Chain.further_cons, map, text, hjoint, hfirst, ih,
      Piece.spell_cons, Piece.spell_append, Piece.spell_nil, Piece.text, String.empty_append,
      String.append_empty, String.append_assoc, and_self]
  | bracket logic inner rest ihinner ihrest =>
    simp only [items, Chain.pieces_cons, Chain.further_cons, map, text, hjoint, hfirst, ihinner,
      ihrest, Piece.spell_cons, Piece.spell_append, Piece.spell_nil, Piece.text,
      String.empty_append, String.append_empty, String.append_assoc, List.cons_append, and_self]

/-- A row of items is read with its truth. -/
theorem truth?_items {tree : Forest Logic Assertion} (hne : tree ≠ .nil) (h : tree.Full) :
    Piece.truth? (Chain.pieces tree.items) = some (Chain.holds tree.values) :=
  Piece.truth?_pieces (fun hnil => hne (items_eq_nil_iff.1 hnil)) (reads_items h)

end Forest

end SearchQL
