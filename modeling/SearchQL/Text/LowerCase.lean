import SearchQL.Text.CaseTable

/-!
# Lower case

The lower case of a text. Each character is mapped by itself, with two exceptions: a capital I
with a dot becomes an i and a combining dot, and a capital sigma becomes the final form at the end
of a word.

* `lowerChar` maps one character.
* `closesWord before after` decides the form of a sigma from its neighbours: behind a cased
  character, before none, each time looking past the characters that case ignores.
* `lowerCase` maps a text.
-/

namespace SearchQL

/-! ## One character -/

/-- The code point that `n` is mapped to. -/
def lowerCode : List CaseRun → Nat → Nat
  | [], n => n
  | run :: rest, n =>
    if n < run.first then n
    else if n ≤ run.last then
      if (n - run.first) % run.step = 0 then (n + run.distance).toNat else n
    else lowerCode rest n

/-- The lower case of `c` by itself. -/
def lowerChar (c : Char) : List Char :=
  if c.toNat = 0x130 then ['i', '\u0307'] else [Char.ofNat (lowerCode lowerRuns c.toNat)]

/-! ## Sigma -/

/-- Whether `c` has a case. -/
def isCased (c : Char) : Bool := inRanges casedRanges c.toNat

/-- Whether case looks past `c`. -/
def isCaseIgnorable (c : Char) : Bool := inRanges ignorableRanges c.toNat

/-- Whether the first character of `cs` that case does not ignore is cased. -/
def meetsCased (cs : List Char) : Bool :=
  match cs.dropWhile isCaseIgnorable with
  | [] => false
  | c :: _ => isCased c

/-- Whether a sigma between `before`, nearest character first, and `after` ends a word. -/
def closesWord (before after : List Char) : Bool := meetsCased before && !meetsCased after

/-! ## Texts -/

/-- The lower case of `cs`, which stands behind the characters of `before`, nearest first. -/
def lowerFrom (before : List Char) : List Char → List Char
  | [] => []
  | c :: cs =>
    (if c = 'Σ' then [if closesWord before cs then 'ς' else 'σ'] else lowerChar c) ++
      lowerFrom (c :: before) cs

/-- The lower case of `cs`. -/
def lowerCase (cs : List Char) : List Char := lowerFrom [] cs

end SearchQL
