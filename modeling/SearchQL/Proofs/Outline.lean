import SearchQL.Proofs.Token
import SearchQL.Text.Join

/-!
# The outline of a statement

A statement consists of clauses, each behind its keyword. The keywords are the words that a reader
finds outside of literals, quoted names and brackets, wherever such a word begins and ends; the
clauses are the texts between them. Nothing is known about the clauses beforehand.

* `Outline.lexemes` reads a text from left to right and finds the keywords.
* `Outline.outline` cuts the text in front of every keyword.
* `Outline.Reads` says what is found in a piece of text inside so many brackets, and
  `Outline.Reads.append` puts pieces together.
-/

namespace SearchQL.Outline

/-! ## Finding keywords -/

/-- The words that begin a clause of a selection. -/
def heads : List (List Char) :=
  ["SELECT".toList, "DISTINCT".toList, "FROM".toList, "WHERE".toList, "GROUP".toList,
    "HAVING".toList, "ORDER".toList, "LIMIT".toList, "OPTION".toList, "FACET".toList]

/-- A character that a word may have. -/
def isWord (c : Char) : Bool := c.isAlphanum || c == '_'

/-- A piece of a text. -/
inductive Lexeme where
  /-- A word that begins a clause. -/
  | head (word : List Char)
  /-- Any other character. -/
  | plain (c : Char)
deriving DecidableEq, Repr

/-- Where a character stands. -/
inductive Zone where
  | outside
  /-- Inside a literal. -/
  | literal
  /-- Inside a literal, behind a backslash. -/
  | escaped
  /-- Between back-ticks. Two back-ticks inside a name leave it and enter it again. -/
  | name
deriving DecidableEq, Repr

/-- Where the next character stands. -/
def Zone.next : Zone → Char → Zone
  | .outside, c => if c = '\'' then .literal else if c = Identifier.tick then .name else .outside
  | .literal, c => if c = '\\' then .escaped else if c = '\'' then .outside else .literal
  | .escaped, _ => .literal
  | .name, c => if c = Identifier.tick then .outside else .name

/-- What is known between two characters. -/
structure Control where
  zone : Zone
  depth : Nat
  /-- The word that ends here, which may go on. Words are read outside of brackets only. -/
  word : List Char
deriving DecidableEq, Repr

/-- The lexemes of a word. Keywords may be written in small letters. -/
def readWord (word : List Char) : List Lexeme :=
  if word.map Char.toUpper ∈ heads then [.head (word.map Char.toUpper)] else word.map .plain

namespace Control

/-- Between pieces of a text, inside so many brackets. -/
def between (depth : Nat) : Control := ⟨.outside, depth, []⟩

/-- Whether the next character makes the word longer. -/
def gathers (k : Control) (c : Char) : Bool := k.zone = .outside && k.depth = 0 && isWord c

/-- The number of open brackets behind the next character. -/
def depthBehind (k : Control) (c : Char) : Nat :=
  if k.zone ≠ .outside then k.depth
  else if c = '(' then k.depth + 1
  else if c = ')' then k.depth - 1
  else k.depth

/-- What is known behind the next character. -/
def next (k : Control) (c : Char) : Control :=
  if k.gathers c then { k with word := k.word ++ [c] } else ⟨k.zone.next c, k.depthBehind c, []⟩

/-- The lexemes that are complete with the next character. -/
def out (k : Control) (c : Char) : List Lexeme :=
  if k.gathers c then [] else readWord k.word ++ [.plain c]

/-- What is known behind several characters. -/
def after (k : Control) (cs : List Char) : Control := cs.foldl next k

/-- The lexemes that are complete behind several characters. -/
def emitted (k : Control) : List Char → List Lexeme
  | [] => []
  | c :: cs => k.out c ++ (k.next c).emitted cs

@[simp] theorem after_nil (k : Control) : k.after [] = k := rfl

@[simp] theorem after_cons (k : Control) (c : Char) (cs : List Char) :
    k.after (c :: cs) = (k.next c).after cs := rfl

@[simp] theorem after_append (k : Control) (cs ds : List Char) :
    k.after (cs ++ ds) = (k.after cs).after ds := List.foldl_append

@[simp] theorem emitted_nil (k : Control) : k.emitted [] = [] := rfl

@[simp] theorem emitted_cons (k : Control) (c : Char) (cs : List Char) :
    k.emitted (c :: cs) = k.out c ++ (k.next c).emitted cs := rfl

@[simp] theorem emitted_append (k : Control) (cs ds : List Char) :
    k.emitted (cs ++ ds) = k.emitted cs ++ (k.after cs).emitted ds := by
  induction cs generalizing k with
  | nil => rfl
  | cons c cs ih => simp [ih]

end Control

/-- The lexemes of a text that ends here. -/
def lexemes (k : Control) (cs : List Char) : List Lexeme :=
  k.emitted cs ++ readWord (k.after cs).word

/-! ## Cutting -/

/-- Whether a keyword comes next. -/
def begins : List Lexeme → Bool
  | .head _ :: _ => true
  | _ => false

/-- The text in front of the first keyword, and each keyword with the text behind it. The blank on
either side of a keyword belongs to neither text. -/
def cut : List Lexeme → List Char × List (List Char × List Char)
  | [] => ([], [])
  | .head word :: rest =>
    let (body, sections) := cut rest
    ([], (word, if body.head? = some ' ' then body.tail else body) :: sections)
  | .plain c :: rest =>
    let (body, sections) := cut rest
    if c = ' ' && begins rest then ([], sections) else (c :: body, sections)

/-- A keyword and its clause. The second word of GROUP BY and ORDER BY goes to the keyword. -/
def titled (word body : List Char) : String × String :=
  if (word = "GROUP".toList ∨ word = "ORDER".toList) ∧ body.take 3 = "BY ".toList then
    (String.ofList word ++ " BY", String.ofList (body.drop 3))
  else (String.ofList word, String.ofList body)

/-- The keywords of a text and the texts between them. What stands in front of the first keyword
goes without one. -/
def outline (text : String) : List (String × String) :=
  let (lead, sections) := cut (lexemes (.between 0) text.toList)
  (if lead = [] then [] else [("", String.ofList lead)]) ++ sections.map fun s => titled s.1 s.2

example : outline "select distinct `FROM`, '\\' LIMIT', (SELECT 1)LIMIT 2" =
    [("SELECT", ""), ("DISTINCT", "`FROM`, '\\' LIMIT', (SELECT 1)"), ("LIMIT", "2")] := by
  decide +kernel

/-! ## Walking -/

namespace Control

/-- Characters that are all taken as they are, with no word pending at either end. -/
structure Walks (k : Control) (cs : List Char) (k' : Control) : Prop where
  after : k.after cs = k'
  emitted : k.emitted cs = cs.map .plain

namespace Walks

theorem nil (k : Control) : Walks k [] k := ⟨rfl, rfl⟩

theorem append {k k' k'' : Control} {cs ds : List Char} (h : Walks k cs k')
    (h' : Walks k' ds k'') : Walks k (cs ++ ds) k'' := by
  constructor
  · rw [after_append, h.after, h'.after]
  · rw [emitted_append, h.after, h.emitted, h'.emitted, List.map_append]

/-- A character that belongs to no word. -/
theorem single (zone : Zone) (depth : Nat) (c : Char)
    (h : gathers ⟨zone, depth, []⟩ c = false) :
    Walks ⟨zone, depth, []⟩ [c] ⟨zone.next c, depthBehind ⟨zone, depth, []⟩ c, []⟩ := by
  constructor
  · simp [next, h]
  · simp [out, h, readWord, heads]

/-- No escaped character ends a literal. -/
theorem escapeChar_literal (depth : Nat) (c : Char) :
    Walks ⟨.literal, depth, []⟩ (Literal.escapeChar c) ⟨.literal, depth, []⟩ := by
  rcases Literal.escapeChar_cases c with ⟨h, hslash, hquote⟩ | ⟨d, h⟩
  · have hchar := single .literal depth c rfl
    rw [h]
    simpa [Zone.next, depthBehind, hslash, hquote] using hchar
  · have hslash : Walks ⟨.literal, depth, []⟩ ['\\'] ⟨.escaped, depth, []⟩ :=
      single .literal depth '\\' rfl
    rw [h]
    exact hslash.append (single .escaped depth d rfl)

/-- A back-tick inside a name leaves the name and enters it again. -/
theorem escapeChar_name (depth : Nat) (c : Char) :
    Walks ⟨.name, depth, []⟩ (Identifier.escapeChar c) ⟨.name, depth, []⟩ := by
  unfold Identifier.escapeChar
  split
  · have hleave : Walks ⟨.name, depth, []⟩ [Identifier.tick] ⟨.outside, depth, []⟩ :=
      single .name depth Identifier.tick rfl
    have hword : isWord Identifier.tick = false := by decide
    exact hleave.append (single .outside depth Identifier.tick (by simp [gathers, hword]))
  · rename_i hc
    have hchar := single .name depth c rfl
    simpa [Zone.next, depthBehind, hc] using hchar

theorem flatMap {k : Control} {f : Char → List Char} (h : ∀ c, Walks k (f c) k)
    (cs : List Char) : Walks k (cs.flatMap f) k := by
  induction cs with
  | nil => exact .nil k
  | cons c cs ih =>
    rw [List.flatMap_cons]
    exact (h c).append ih

/-- A literal, whatever its content is. -/
theorem literal (depth : Nat) (s : String) :
    Walks (.between depth) (Literal.encode s).toList (.between depth) := by
  have hword : isWord '\'' = false := by decide
  have hopen : Walks (.between depth) ['\''] ⟨.literal, depth, []⟩ :=
    single .outside depth '\'' (by simp [gathers, hword])
  have hclose : Walks ⟨.literal, depth, []⟩ ['\''] (.between depth) :=
    single .literal depth '\'' rfl
  rw [Literal.toList_encode]
  exact hopen.append ((flatMap (escapeChar_literal depth) s.toList).append hclose)

/-- A quoted name, whatever its content is. -/
theorem segmentChars (depth : Nat) (cs : List Char) :
    Walks (.between depth) (Identifier.segmentChars cs) (.between depth) := by
  have hword : isWord Identifier.tick = false := by decide
  have hopen : Walks (.between depth) [Identifier.tick] ⟨.name, depth, []⟩ :=
    single .outside depth Identifier.tick (by simp [gathers, hword])
  have hclose : Walks ⟨.name, depth, []⟩ [Identifier.tick] (.between depth) :=
    single .name depth Identifier.tick rfl
  exact hopen.append ((flatMap (escapeChar_name depth) cs).append hclose)

/-- A bracket around a text. -/
theorem parenthesised {depth : Nat} {cs : List Char}
    (h : Walks (.between (depth + 1)) cs (.between (depth + 1))) :
    Walks (.between depth) ('(' :: (cs ++ [')'])) (.between depth) := by
  have hword : isWord '(' = false ∧ isWord ')' = false := by decide
  have hopen : Walks (.between depth) ['('] (.between (depth + 1)) :=
    single .outside depth '(' (by simp [gathers, hword])
  have hclose : Walks (.between (depth + 1)) [')'] (.between depth) :=
    single .outside (depth + 1) ')' (by simp [gathers])
  exact hopen.append (h.append hclose)

end Walks

/-- A word is pending only outside of brackets, and only behind a character of a word. -/
theorem word_eq_nil {k : Control} (hk : k.word = []) {cs : List Char}
    (h : (k.after cs).depth ≠ 0 ∨ ∀ c ∈ cs.getLast?, isWord c = false) :
    (k.after cs).word = [] := by
  rcases List.eq_nil_or_concat cs with rfl | ⟨cs, c, rfl⟩
  · exact hk
  · rw [List.concat_eq_append, after_append, after_cons, after_nil, next] at h ⊢
    split
    · rename_i hgathers
      rw [if_pos hgathers] at h
      simp only [gathers, Bool.and_eq_true, decide_eq_true_eq] at hgathers
      rcases h with h | h
      · exact absurd hgathers.1.2 h
      · have hword := h c (by simp)
        rw [hgathers.2] at hword
        cases hword
    · rfl

/-- In front of a character of no word a pending word is over. -/
theorem next_of_not_isWord (zone : Zone) (depth : Nat) (word : List Char) {c : Char}
    (hc : isWord c = false) :
    next ⟨zone, depth, word⟩ c = next ⟨zone, depth, []⟩ c ∧
      out ⟨zone, depth, word⟩ c = readWord word ++ out ⟨zone, depth, []⟩ c := by
  have hgathers : ∀ word, gathers ⟨zone, depth, word⟩ c = false := by simp [gathers, hc]
  constructor
  · simp [next, hgathers, depthBehind]
  · simp [out, hgathers, readWord, heads]

end Control

/-! ## Pieces of a text -/

/-- Inside so many brackets a text is read as these lexemes, and its own brackets, literals and
names are closed. -/
structure Reads (depth : Nat) (s : String) (ls : List Lexeme) : Prop where
  outside : ((Control.between depth).after s.toList).zone = .outside
  closed : ((Control.between depth).after s.toList).depth = depth
  found : lexemes (.between depth) s.toList = ls

instance (depth : Nat) (s : String) (ls : List Lexeme) : Decidable (Reads depth s ls) :=
  decidable_of_iff (_ ∧ _ ∧ _) ⟨fun h => ⟨h.1, h.2.1, h.2.2⟩, fun h => ⟨h.1, h.2, h.3⟩⟩

/-- A text that does not begin with a character of a word. -/
def Starts (s : String) : Prop := ∀ c ∈ s.toList.head?, isWord c = false

/-- A text that does not end with a character of a word. -/
def Ends (s : String) : Prop := ∀ c ∈ s.toList.getLast?, isWord c = false

theorem Starts.append {s t : String} (hs : Starts s) (ht : Starts t) : Starts (s ++ t) := by
  intro c hc
  rw [String.toList_append, List.head?_append] at hc
  cases hhead : s.toList.head? with
  | none =>
    rw [hhead] at hc
    exact ht c hc
  | some d =>
    rw [hhead, Option.some_or] at hc
    exact hs c (hhead.trans hc)

/-- A text that does not begin with a character of a word ends a word in front of it. -/
theorem Starts.after_word {t : String} (ht : Starts t) (depth : Nat) (word : List Char) :
    (Control.after ⟨.outside, depth, word⟩ t.toList).zone =
        ((Control.between depth).after t.toList).zone ∧
      (Control.after ⟨.outside, depth, word⟩ t.toList).depth =
        ((Control.between depth).after t.toList).depth ∧
      lexemes ⟨.outside, depth, word⟩ t.toList =
        readWord word ++ lexemes (.between depth) t.toList := by
  unfold lexemes Control.between
  cases hcs : t.toList with
  | nil => simp [readWord, heads]
  | cons c cs =>
    have hc : isWord c = false := ht c (by simp [hcs])
    obtain ⟨hnext, hout⟩ := Control.next_of_not_isWord .outside depth word hc
    simp [hnext, hout]

theorem lexemes_append (k : Control) (cs ds : List Char) :
    lexemes k (cs ++ ds) = k.emitted cs ++ lexemes (k.after cs) ds := by
  simp [lexemes]

namespace Reads

/-- Pieces are read one by one if no word goes from one to the other. Inside of brackets this does
not matter. -/
theorem append {depth : Nat} {s t : String} {ls ms : List Lexeme} (hs : Reads depth s ls)
    (ht : Reads depth t ms) (h : depth ≠ 0 ∨ Ends s ∨ Starts t) :
    Reads depth (s ++ t) (ls ++ ms) := by
  obtain ⟨hzone, hdepth, hls⟩ := hs
  have hword : depth ≠ 0 ∨ Ends s → ((Control.between depth).after s.toList).word = [] := by
    intro h
    refine Control.word_eq_nil rfl ?_
    rw [hdepth]
    exact h
  -- Whatever word is pending behind `s`, `t` is read from there as it is by itself.
  have hread : ∀ word, (word = [] ∨ Starts t) →
      (Control.after ⟨.outside, depth, word⟩ t.toList).zone = .outside ∧
      (Control.after ⟨.outside, depth, word⟩ t.toList).depth = depth ∧
      lexemes ⟨.outside, depth, word⟩ t.toList = readWord word ++ ms := by
    rintro word (rfl | hstarts)
    · exact ⟨ht.outside, ht.closed, ht.found⟩
    · rw [← ht.found]
      obtain ⟨hz, hd, hl⟩ := hstarts.after_word depth word
      exact ⟨hz.trans ht.outside, hd.trans ht.closed, hl⟩
  rw [lexemes] at hls
  generalize hk : (Control.between depth).after s.toList = k at hzone hdepth hword hls
  obtain ⟨zone, depth', word⟩ := k
  obtain rfl : zone = .outside := hzone
  obtain rfl : depth' = depth := hdepth
  have hcase : word = [] ∨ Starts t := by
    rcases h with h | h | h
    · exact .inl (hword (.inl h))
    · exact .inl (hword (.inr h))
    · exact .inr h
  obtain ⟨hz, hd, hl⟩ := hread word hcase
  refine ⟨?_, ?_, ?_⟩
  · rw [String.toList_append, Control.after_append, hk, hz]
  · rw [String.toList_append, Control.after_append, hk, hd]
  · rw [String.toList_append, lexemes_append, hk, hl, ← List.append_assoc, hls]

end Reads

end SearchQL.Outline
