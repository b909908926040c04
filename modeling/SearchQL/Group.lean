import SearchQL.Error.Basic

/-!
# Groups of conditions

A group is a sequence of clauses and brackets, each clause and each opening bracket with the logic
that joins it to what stands before it. It is built from the left, so it also counts the brackets
that are still open.

* `Group.push`, `Group.openBracket` and `Group.closeBracket` append an entry. Closing fails if no
  bracket is open, and can drop a bracket that has stayed empty.
* `Group.closeBracket_eq_error_iff` says that this is the only failure.
* `Group.layOut started afterOpen entries` writes entries whose clauses are texts, given what was
  written before them. The logic of a clause or of an opening bracket is written before it, unless
  nothing was written yet or a bracket was just opened.
* `Group.balancedText` writes a group, and refuses one with an open bracket.
-/

namespace SearchQL

/-! ## Entries -/

/-- How a condition is joined to the one before it. -/
inductive Logic where
  | and
  | or
deriving DecidableEq, Repr

/-- The word of a logic. -/
def Logic.word : Logic → String
  | .and => "AND"
  | .or => "OR"

/-- An entry of a group whose clauses are of type `α`. -/
inductive Entry (α : Type) where
  /-- An opening bracket. -/
  | opened (logic : Logic)
  /-- A closing bracket. -/
  | closed
  | clause (logic : Logic) (item : α)
deriving DecidableEq, Repr

/-- A group of clauses of type `α` in brackets. -/
structure Group (α : Type) where
  entries : List (Entry α) := []
  /-- The number of brackets that are open. -/
  depth : Nat := 0
deriving DecidableEq, Repr

namespace Group

variable {α : Type}

/-! ## Building -/

/-- Whether the group has no entry. -/
def isEmpty (g : Group α) : Bool := g.entries.isEmpty

/-- The group with one more clause. -/
def push (logic : Logic) (item : α) (g : Group α) : Group α :=
  { g with entries := g.entries ++ [.clause logic item] }

/-- The group with one more bracket open. -/
def openBracket (logic : Logic) (g : Group α) : Group α :=
  ⟨g.entries ++ [.opened logic], g.depth + 1⟩

/-- Whether the last entry is an opening bracket. -/
def endsOpen (g : Group α) : Bool :=
  match g.entries.getLast? with
  | some (.opened _) => true
  | _ => false

/-- The group with its innermost open bracket closed. With `dropIfEmpty` a bracket that was opened
last, and so has nothing in it, is taken away instead. The label names the group in the error. -/
def closeBracket (dropIfEmpty : Bool) (label : String) (g : Group α) : Except Error (Group α) :=
  if g.depth = 0 then .error (.malformedGroup (.noneOpen label))
  else if dropIfEmpty && g.endsOpen then .ok ⟨g.entries.dropLast, g.depth - 1⟩
  else .ok ⟨g.entries ++ [.closed], g.depth - 1⟩

/-- Closing fails if and only if no bracket is open, and then with the label of the group. -/
theorem closeBracket_eq_error_iff {drop : Bool} {label : String} {g : Group α} {e : Error} :
    g.closeBracket drop label = .error e ↔
      g.depth = 0 ∧ e = .malformedGroup (.noneOpen label) := by
  unfold closeBracket
  split
  · simp_all [eq_comm]
  · split <;> simp_all

/-! ## Text -/

/-- The word that joins an entry to what stands before it, with a blank on both sides. It is left
out at the start of the text and behind an opening bracket. -/
def joint (started afterOpen : Bool) (logic : Logic) : String :=
  if started && !afterOpen then " " ++ logic.word ++ " " else ""

/-- The text of `entries`. `started` tells whether there is text before them, and `afterOpen`
whether the entry before them is an opening bracket. -/
def layOut (started afterOpen : Bool) : List (Entry String) → String
  | [] => ""
  | .opened logic :: rest => joint started afterOpen logic ++ "(" ++ layOut true true rest
  | .closed :: rest => ")" ++ layOut true false rest
  | .clause logic text :: rest =>
    joint started afterOpen logic ++ text ++ layOut (started || text != "") false rest

/-- The text of a group with `depth` open brackets and the given entries. An open bracket is
refused before any fault in the clauses. -/
def balancedText (label : String) (depth : Nat) (entries : Except Error (List (Entry String))) :
    Except Error String :=
  if depth ≠ 0 then .error (.malformedGroup (.unclosed depth label))
  else entries.map (layOut false false)

end Group

end SearchQL
