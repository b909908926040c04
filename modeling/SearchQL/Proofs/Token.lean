import Mathlib.Tactic.SplitIfs
import SearchQL.Text.Identifier
import SearchQL.Text.Literal

/-!
# Tokens of a statement

The text of a statement is split into single-quoted literals, back-tick names and single
characters. The splitter is a machine that reads one character at a time and needs no look-ahead:
behind a back-tick inside a name it waits for the next character, which tells whether the name is
over.

* `Scan.step` reads one character, `Scan.run` several, and `Token.split` a whole text.
* `Scan.run_segment` and `Scan.run_literal` say where quoting takes the machine: a name ends behind
  its last back-tick, and a literal is one token whatever its content is.
-/

namespace SearchQL

/-! ## Tokens -/

/-- A token of a statement. -/
inductive Token where
  /-- A literal between single quotes, with what stands between them. -/
  | literal (payload : List Char)
  /-- A name between back-ticks, where two back-ticks stand for one. -/
  | name (content : List Char)
  /-- Any other character by itself. -/
  | bare (c : Char)
deriving DecidableEq, Repr

/-- The token without the payload of a literal. -/
def Token.hollow : Token → Token
  | .literal _ => .literal []
  | token => token

/-! ## The machine -/

/-- What the machine is in the middle of. -/
inductive Mode where
  | outside
  /-- Inside a literal, with its payload so far. -/
  | quoted (payload : List Char)
  /-- Inside a literal, behind a backslash. -/
  | escaped (payload : List Char)
  /-- Inside a name, with its content so far. -/
  | named (content : List Char)
  /-- Inside a name, behind a back-tick that closes it unless a second one follows. -/
  | ticked (content : List Char)
deriving DecidableEq, Repr

/-- The state of the machine. -/
structure Scan where
  tokens : List Token
  mode : Mode
deriving DecidableEq, Repr

namespace Scan

/-- The machine before the first character. -/
def start : Scan := ⟨[], .outside⟩

/-- The state after a character outside of literals and names. -/
def enter (tokens : List Token) (c : Char) : Scan :=
  if c = '\'' then ⟨tokens, .quoted []⟩
  else if c = Identifier.tick then ⟨tokens, .named []⟩
  else ⟨tokens ++ [.bare c], .outside⟩

/-- The state after one more character. -/
def step : Scan → Char → Scan
  | ⟨tokens, .outside⟩, c => enter tokens c
  | ⟨tokens, .quoted payload⟩, c =>
    if c = '\\' then ⟨tokens, .escaped (payload ++ [c])⟩
    else if c = '\'' then ⟨tokens ++ [.literal payload], .outside⟩
    else ⟨tokens, .quoted (payload ++ [c])⟩
  | ⟨tokens, .escaped payload⟩, c => ⟨tokens, .quoted (payload ++ [c])⟩
  | ⟨tokens, .named content⟩, c =>
    if c = Identifier.tick then ⟨tokens, .ticked content⟩ else ⟨tokens, .named (content ++ [c])⟩
  | ⟨tokens, .ticked content⟩, c =>
    if c = Identifier.tick then ⟨tokens, .named (content ++ [c])⟩
    else enter (tokens ++ [.name content]) c

/-- The state after several characters. -/
def run (scan : Scan) (cs : List Char) : Scan := cs.foldl step scan

/-- The tokens at the end of a text, which must not be inside a literal or a name. -/
def finish? : Scan → Option (List Token)
  | ⟨tokens, .outside⟩ => some tokens
  | ⟨tokens, .ticked content⟩ => some (tokens ++ [.name content])
  | _ => none

@[simp] theorem run_nil (scan : Scan) : scan.run [] = scan := rfl

@[simp] theorem run_cons (scan : Scan) (c : Char) (cs : List Char) :
    scan.run (c :: cs) = (scan.step c).run cs := rfl

@[simp] theorem run_append (scan : Scan) (cs ds : List Char) :
    scan.run (cs ++ ds) = (scan.run cs).run ds := by
  simp [run]

end Scan

/-- The tokens of a text, unless it ends inside a literal or a name. -/
def Token.split (text : String) : Option (List Token) := (Scan.start.run text.toList).finish?

/-! ## Quoted names and literals -/

/-- A character is written as it is, if it is neither a backslash nor a quote, or else as a pair
that a backslash begins. -/
theorem Literal.escapeChar_cases (c : Char) :
    (Literal.escapeChar c = [c] ∧ c ≠ '\\' ∧ c ≠ '\'') ∨ ∃ d, Literal.escapeChar c = ['\\', d] := by
  unfold Literal.escapeChar
  split_ifs with hslash hquote
  all_goals first
    | exact .inr ⟨_, rfl⟩
    | exact .inl ⟨rfl, hslash, hquote⟩

namespace Scan

/-- Inside a name the machine undoes the doubling of back-ticks. -/
theorem run_escape_name (tokens : List Token) (content cs : List Char) :
    run ⟨tokens, .named content⟩ (Identifier.escape cs) = ⟨tokens, .named (content ++ cs)⟩ := by
  induction cs generalizing content with
  | nil => simp [Identifier.escape]
  | cons c cs ih =>
    have hcons : Identifier.escape (c :: cs) =
        Identifier.escapeChar c ++ Identifier.escape cs := rfl
    have hchar : run ⟨tokens, .named content⟩ (Identifier.escapeChar c) =
        ⟨tokens, .named (content ++ [c])⟩ := by
      by_cases hc : c = Identifier.tick <;> simp [Identifier.escapeChar, hc, step]
    rw [hcons, run_append, hchar, ih, List.append_assoc, List.singleton_append]

/-- A quoted name leaves the machine behind its last back-tick. -/
theorem run_segment (tokens : List Token) (content cs : List Char) :
    run ⟨tokens, .named content⟩ (Identifier.escape cs ++ [Identifier.tick]) =
      ⟨tokens, .ticked (content ++ cs)⟩ := by
  rw [run_append, run_escape_name]
  simp [step]

/-- No escaped character ends a literal. -/
theorem run_escapeChar_literal (tokens : List Token) (payload : List Char) (c : Char) :
    run ⟨tokens, .quoted payload⟩ (Literal.escapeChar c) =
      ⟨tokens, .quoted (payload ++ Literal.escapeChar c)⟩ := by
  rcases Literal.escapeChar_cases c with ⟨h, hslash, hquote⟩ | ⟨d, h⟩
  · simp [h, step, hslash, hquote]
  · simp [h, step]

/-- An escaped text stays inside its literal. -/
theorem run_escape_literal (tokens : List Token) (payload cs : List Char) :
    run ⟨tokens, .quoted payload⟩ (Literal.escape cs) =
      ⟨tokens, .quoted (payload ++ Literal.escape cs)⟩ := by
  induction cs generalizing payload with
  | nil => simp
  | cons c cs ih =>
    rw [Literal.escape_cons, run_append, run_escapeChar_literal, ih, List.append_assoc]

/-- The text of a literal is one token, whatever its content is. -/
theorem run_literal (tokens : List Token) (cs : List Char) :
    run ⟨tokens, .quoted []⟩ (Literal.escape cs ++ ['\'']) =
      ⟨tokens ++ [.literal (Literal.escape cs)], .outside⟩ := by
  rw [run_append, run_escape_literal]
  simp [step]

end Scan

end SearchQL
