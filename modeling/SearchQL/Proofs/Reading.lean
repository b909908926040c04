import Mathlib.Data.List.Forall2
import Mathlib.Tactic.SplitIfs
import SearchQL.Proofs.Datum
import SearchQL.Proofs.Edge
import SearchQL.Proofs.Token
import SearchQL.Query.Render

/-!
# Literals are read back

The text of a literal value is read as the datum of the value, whatever text follows behind a
comma, a closing bracket or a blank. The statement is about a text in front of an arbitrary
continuation, so that it carries over from the items of a list to the list.

* `Datum.Reads` says that a text is read as a datum.
* `Datum.Reads.int`, `Datum.Reads.fixed`, `Datum.Reads.literal` and `Datum.Reads.bracketed` are the
  kinds of literals.
* `Value.read_render` is the result for values.
-/

namespace SearchQL

namespace Datum

/-! ## What may follow -/

/-- A continuation that no literal runs on into. -/
def Follows (rest : List Char) : Prop := ∀ c ∈ rest.head?, c = ',' ∨ c = ')' ∨ c = ' '

instance (rest : List Char) : Decidable (Follows rest) := Option.decidableForallMem rest.head?

theorem Follows.not_digit {rest : List Char} (h : Follows rest) :
    ∀ c ∈ rest.head?, c.isDigit = false := by
  intro c hc
  rcases h c hc with rfl | rfl | rfl
  all_goals decide

/-- A text is read as a datum, in front of every continuation that may follow. -/
structure Reads (text : String) (d : Datum) : Prop where
  edged : Edged text
  read : ∀ bound rest, text.toList.length ≤ bound → Follows rest →
    readWithin bound (text.toList ++ rest) = some (d, rest)

/-! ## Numbers -/

/-- A run of characters of a kind ends where the continuation begins. -/
theorem span_append {p : Char → Bool} {ds rest : List Char} (hds : ∀ c ∈ ds, p c = true)
    (hrest : ∀ c ∈ rest.head?, p c = false) :
    (ds ++ rest).takeWhile p = ds ∧ (ds ++ rest).dropWhile p = rest := by
  have htake : rest.takeWhile p = [] := by
    cases rest with
    | nil => rfl
    | cons c cs => simp [hrest c rfl]
  have hdrop : rest.dropWhile p = rest := by
    cases rest with
    | nil => rfl
    | cons c cs => simp [hrest c rfl]
  rw [List.takeWhile_append_of_pos hds, List.dropWhile_append_of_pos hds, htake, hdrop]
  simp

theorem readUnsigned_int (negative : Bool) (n : Nat) {rest : List Char} (hrest : Follows rest) :
    readUnsigned negative (Nat.toDigits 10 n ++ rest) =
      some (.int (if negative then -(n : Int) else n), rest) := by
  obtain ⟨htake, hdrop⟩ := span_append (fun _ => isDigit_of_mem_toDigits) hrest.not_digit
  have hne : Nat.toDigits 10 n ≠ [] := Nat.toDigits_ne_nil
  rw [readUnsigned, htake, hdrop]
  simp only [hne, if_false, Nat.ofDigitChars_ten_toDigits]
  split
  · rename_i places
    -- A point does not follow a literal.
    have hpoint := hrest '.' rfl
    simp at hpoint
  · rfl

/-- The six digits behind the point are the remainder of the millionths. -/
theorem ofDigitChars_sixDigits (n init : Nat) :
    Nat.ofDigitChars 10 (Binary64.sixDigits n) init = init * 1000000 + n % 1000000 := by
  have hmod : ∀ place : Nat, n / place % 10 < 10 := fun _ => Nat.mod_lt _ (by decide)
  simp only [Binary64.sixDigits, List.map_cons, List.map_nil]
  rw [Nat.ofDigitChars_cons_digitChar_of_lt_ten (hmod _),
    Nat.ofDigitChars_cons_digitChar_of_lt_ten (hmod _),
    Nat.ofDigitChars_cons_digitChar_of_lt_ten (hmod _),
    Nat.ofDigitChars_cons_digitChar_of_lt_ten (hmod _),
    Nat.ofDigitChars_cons_digitChar_of_lt_ten (hmod _),
    Nat.ofDigitChars_cons_digitChar_of_lt_ten (hmod _), Nat.ofDigitChars_nil]
  omega

theorem readUnsigned_fixed (negative : Bool) (n : Nat) {rest : List Char} (hrest : Follows rest) :
    readUnsigned negative (Binary64.pointed n ++ rest) =
      some (.decimal ⟨negative, n, -6⟩, rest) := by
  have hsplit : Binary64.pointed n ++ rest =
      Nat.toDigits 10 (n / 1000000) ++ '.' :: (Binary64.sixDigits n ++ rest) := by
    rw [Binary64.pointed, List.append_assoc, List.cons_append]
  have hpoint : ∀ c ∈ ('.' :: (Binary64.sixDigits n ++ rest)).head?, c.isDigit = false := by simp
  have hwhole : ∀ c ∈ Nat.toDigits 10 (n / 1000000), c.isDigit = true :=
    fun _ => isDigit_of_mem_toDigits
  have hplaces : ∀ c ∈ Binary64.sixDigits n, c.isDigit = true := fun _ => isDigit_of_mem_sixDigits
  obtain ⟨htake, hdrop⟩ := span_append hwhole hpoint
  obtain ⟨htake', hdrop'⟩ := span_append hplaces hrest.not_digit
  have hne : Nat.toDigits 10 (n / 1000000) ≠ [] := Nat.toDigits_ne_nil
  have hsix : Binary64.sixDigits n ≠ [] := by simp [Binary64.sixDigits]
  have hvalue : n / 1000000 * 1000000 + n % 1000000 = n := Nat.div_add_mod' n (1000000)
  rw [readUnsigned, hsplit, htake, hdrop]
  simp only [hne, if_false]
  rw [htake', hdrop', if_neg hsix, Nat.ofDigitChars_append, Nat.ofDigitChars_ten_toDigits,
    ofDigitChars_sixDigits, hvalue]
  rfl

/-- A number is told by its first character, which is a digit or a minus. -/
theorem readWithin_number {c : Char} (hc : c.isDigit = true ∨ c = '-') (bound : Nat)
    (cs : List Char) : readWithin (bound + 1) (c :: cs) = readNumber (c :: cs) := by
  have hne : c ≠ '\'' ∧ c ≠ 'N' ∧ c ≠ '(' := by
    rcases hc with hc | rfl
    · exact ⟨ne_of_isDigit hc (by decide), ne_of_isDigit hc (by decide),
        ne_of_isDigit hc (by decide)⟩
    · decide
  simp [readWithin, hne]

theorem readSign_digit {c : Char} (hc : c.isDigit = true) (cs : List Char) :
    readSign (c :: cs) = (false, c :: cs) := by
  have hne : c ≠ '-' ∧ c ≠ '+' := ⟨ne_of_isDigit hc (by decide), ne_of_isDigit hc (by decide)⟩
  simp [readSign, hne]

/-- A number behind a sign is read if it is read without one. -/
theorem Reads.of_sign {text : String} {negative : Bool} {cs : List Char} {d : Datum}
    (hedged : Edged text) (h : text.toList = (if negative then ['-'] else []) ++ cs)
    (hhead : ∃ c ∈ cs.head?, c.isDigit = true)
    (hread : ∀ rest, Follows rest → readUnsigned negative (cs ++ rest) = some (d, rest)) :
    Reads text d := by
  refine ⟨hedged, fun bound rest hbound hrest => ?_⟩
  obtain ⟨c, hc, hdigit⟩ := hhead
  obtain ⟨cs', rfl⟩ : ∃ cs', cs = c :: cs' := List.head?_eq_some_iff.1 hc
  have hpos : 0 < text.toList.length := by
    rw [h, List.length_append, List.length_cons]
    omega
  obtain ⟨bound, rfl⟩ : ∃ b, bound = b + 1 := ⟨bound - 1, by omega⟩
  cases negative with
  | true =>
    have hsign : readSign ('-' :: c :: (cs' ++ rest)) = (true, c :: (cs' ++ rest)) := rfl
    rw [h, if_pos rfl, List.singleton_append, List.cons_append, List.cons_append,
      readWithin_number (.inr rfl), readNumber, hsign]
    exact hread rest hrest
  | false =>
    rw [h, if_neg (by simp), List.nil_append, List.cons_append, readWithin_number (.inl hdigit),
      readNumber, readSign_digit hdigit]
    exact hread rest hrest

theorem Reads.int (n : Int) : Reads (toString n) (.int n) := by
  have htext : (toString n).toList =
      (if decide (n < 0) then ['-'] else []) ++ Nat.toDigits 10 n.natAbs := by
    simpa using toList_toString n
  have hne : Nat.toDigits 10 n.natAbs ≠ [] := Nat.toDigits_ne_nil
  refine .of_sign (.ofInt n) htext ⟨_, List.head?_eq_some_head hne, ?_⟩ fun rest hrest => ?_
  · exact isDigit_of_mem_toDigits (List.head_mem hne)
  · rw [readUnsigned_int _ _ hrest]
    by_cases hn : n < 0
    · have habs : -(n.natAbs : Int) = n := by omega
      rw [decide_eq_true hn, if_pos rfl, habs]
    · have habs : (n.natAbs : Int) = n := by omega
      rw [decide_eq_false hn, if_neg (by decide), habs]

theorem Reads.fixed (x : Binary64) : Reads x.fixed (.decimal x.decimal) := by
  have hne : Nat.toDigits 10 (x.millionths / 1000000) ≠ [] := Nat.toDigits_ne_nil
  have hhead : (Binary64.pointed x.millionths).head? = some (List.head _ hne) := by
    rw [Binary64.pointed, List.head?_append, List.head?_eq_some_head hne, Option.some_or]
  refine .of_sign (.fixed x) (toList_fixed x) ⟨_, hhead, ?_⟩ fun rest hrest => ?_
  · exact isDigit_of_mem_toDigits (List.head_mem hne)
  · exact readUnsigned_fixed x.isNegative x.millionths hrest

/-! ## Texts -/

/-- What an escaped character is written as stands for it. -/
theorem unescapeChar_of_escapeChar {c d : Char} (h : Literal.escapeChar c = ['\\', d]) :
    unescapeChar d = some c := by
  unfold Literal.escapeChar at h
  split_ifs at h
  all_goals
    simp only [List.cons.injEq, reduceCtorEq, and_true, true_and, and_false] at h
  all_goals
    subst d c
    decide

theorem readQuoted_quote (cs : List Char) : readQuoted ('\'' :: cs) = some ([], cs) := by
  rw [readQuoted.eq_def]
  rfl

/-- The characters of an escaped text are read one by one. -/
theorem readQuoted_escapeChar (c : Char) (cs : List Char) :
    readQuoted (Literal.escapeChar c ++ cs) =
      (readQuoted cs).bind fun (content, rest) => some (c :: content, rest) := by
  rcases Literal.escapeChar_cases c with ⟨h, hslash, hquote⟩ | ⟨d, h⟩
  · rw [h, List.singleton_append, readQuoted.eq_def]
    simp only [hquote, hslash, if_false]
    rfl
  · have hd : unescapeChar d = some c := unescapeChar_of_escapeChar h
    rw [h, List.cons_append, List.singleton_append, readQuoted.eq_def]
    simp only [hd]
    rfl

theorem readQuoted_escape (cs rest : List Char) :
    readQuoted (Literal.escape cs ++ '\'' :: rest) = some (cs, rest) := by
  induction cs with
  | nil => exact readQuoted_quote rest
  | cons c cs ih =>
    rw [Literal.escape_cons, List.append_assoc, readQuoted_escapeChar, ih]
    rfl

theorem Reads.literal (s : String) : Reads (Literal.encode s) (.text s) := by
  refine ⟨.literal s, fun bound rest hbound _ => ?_⟩
  simp only [Literal.toList_encode, List.length_cons] at hbound
  obtain ⟨bound, rfl⟩ : ∃ b, bound = b + 1 := ⟨bound - 1, by omega⟩
  have htext : (Literal.encode s).toList ++ rest =
      '\'' :: (Literal.escape s.toList ++ '\'' :: rest) := by simp
  rw [htext, readWithin, if_pos rfl, readQuoted_escape]
  simp

theorem Reads.null : Reads "NULL" .null := by
  refine ⟨by decide, fun bound rest hbound _ => ?_⟩
  obtain ⟨bound, rfl⟩ : ∃ b, bound = b + 1 := ⟨bound - 1, by simp at hbound; omega⟩
  rfl

/-! ## Lists -/

/-- A text that is read does not begin like the end of a list or a blank. -/
theorem Reads.exists_head {text : String} {d : Datum} (h : Reads text d) :
    ∃ c cs, text.toList = c :: cs ∧ c ≠ ')' ∧ c ≠ ' ' := by
  have hread := h.read _ [] (Nat.le_refl _) (by decide)
  rw [List.append_nil] at hread
  cases htext : text.toList with
  | nil =>
    rw [htext] at hread
    simp [readWithin] at hread
  | cons c cs =>
    rw [htext, List.length_cons] at hread
    refine ⟨c, cs, rfl, ?_, ?_⟩
    all_goals
      rintro rfl
      simp [readWithin, readNumber, readSign, readUnsigned] at hread

/-- A text that is read does not begin like NOT. -/
theorem Reads.not_no {text : String} {d : Datum} (h : Reads text d) (rest : List Char) :
    ¬ ['N', 'O'] <+: text.toList ++ rest := by
  have hread := h.read _ [] (Nat.le_refl _) (by decide)
  rw [List.append_nil] at hread
  intro hstart
  match htext : text.toList with
  | [] =>
    rw [htext] at hread
    simp [readWithin] at hread
  | [c] =>
    rw [htext] at hread hstart
    obtain rfl : 'N' = c := (List.cons_prefix_cons.1 hstart).1
    simp [readWithin, readNull] at hread
  | c :: c' :: cs =>
    rw [htext] at hread hstart
    obtain ⟨rfl, hrest⟩ := List.cons_prefix_cons.1 hstart
    obtain ⟨rfl, -⟩ := List.cons_prefix_cons.1 hrest
    simp [readWithin, readNull] at hread

/-- The items of a list from the second on, each behind the separator. -/
def further (sep : String) (texts : List String) : List Char :=
  texts.flatMap fun text => sep.toList ++ text.toList

/-- Behind an item comes the separator or the closing bracket. -/
theorem follows_further {sep : String} (hsep : sep = "," ∨ sep = ", ") (texts : List String)
    (rest : List Char) : Follows (further sep texts ++ ')' :: rest) := by
  intro c hc
  cases texts with
  | nil => exact .inr (.inl (by simpa [further, eq_comm] using hc))
  | cons text texts =>
    left
    rcases hsep with rfl | rfl
    all_goals simpa [further, eq_comm] using hc

theorem Reads.dropWhile_separator {sep text : String} {d : Datum} (h : Reads text d)
    (hsep : sep = "," ∨ sep = ", ") (rest : List Char) :
    ∃ cs, sep.toList ++ text.toList ++ rest = ',' :: cs ∧
      cs.dropWhile (· = ' ') = text.toList ++ rest := by
  obtain ⟨c, cs, htext, -, hblank⟩ := h.exists_head
  rcases hsep with rfl | rfl
  · exact ⟨text.toList ++ rest, by simp, by simp [htext, hblank]⟩
  · exact ⟨' ' :: (text.toList ++ rest), by simp, by simp [htext, hblank]⟩

/-- The further items of a list are read up to its closing bracket. -/
theorem readMoreWithin_further {sep : String} (hsep : sep = "," ∨ sep = ", ") {texts : List String}
    {ds : List Datum} (h : List.Forall₂ Reads texts ds) {bound : Nat}
    (hbound : (further sep texts).length < bound) (rest : List Char) :
    readMoreWithin bound (further sep texts ++ ')' :: rest) = some (ds, rest) := by
  induction h generalizing bound with
  | nil =>
    obtain ⟨bound, rfl⟩ : ∃ b, bound = b + 1 := ⟨bound - 1, by omega⟩
    simp [further, readMoreWithin]
  | @cons text d texts ds hread _ ih =>
    have hcons : further sep (text :: texts) = sep.toList ++ text.toList ++ further sep texts := by
      simp [further]
    obtain ⟨cs, hcs, hdrop⟩ := hread.dropWhile_separator hsep (further sep texts ++ ')' :: rest)
    have hlength : 0 < sep.toList.length := by
      rcases hsep with rfl | rfl
      all_goals decide
    rw [hcons, List.length_append, List.length_append] at hbound
    obtain ⟨bound, rfl⟩ : ∃ b, bound = b + 1 := ⟨bound - 1, by omega⟩
    rw [hcons, List.append_assoc, hcs, readMoreWithin, if_neg (by decide), if_pos rfl, hdrop,
      hread.read bound _ (by omega) (follows_further hsep texts rest)]
    change (readMoreWithin bound (further sep texts ++ ')' :: rest)).bind _ = _
    rw [ih (by omega)]
    rfl

/-- A list between brackets is read item by item. -/
theorem Reads.bracketed {sep : String} (hsep : sep = "," ∨ sep = ", ") {texts : List String}
    {ds : List Datum} (h : List.Forall₂ Reads texts ds) :
    Reads (bracketed sep texts) (.list ds) := by
  refine ⟨.parenthesised _, fun bound rest hbound _ => ?_⟩
  cases h with
  | nil =>
    have hlength : 2 ≤ bound := by simpa [SearchQL.bracketed] using hbound
    obtain ⟨bound, rfl⟩ : ∃ b, bound = b + 2 := ⟨bound - 2, by omega⟩
    simp [SearchQL.bracketed, readWithin, readItemsWithin]
  | @cons text d texts ds hread hmore =>
    have htext : (SearchQL.bracketed sep (text :: texts)).toList =
        '(' :: (text.toList ++ further sep texts ++ [')']) := by
      simp [SearchQL.bracketed, toList_joinWith_cons, further]
    obtain ⟨c, cs, hhead, hclose, -⟩ := hread.exists_head
    have hpos : 0 < text.toList.length := by simp [hhead]
    rw [htext] at hbound
    simp only [List.length_cons, List.length_append, List.length_nil] at hbound
    obtain ⟨bound, rfl⟩ : ∃ b, bound = b + 2 := ⟨bound - 2, by omega⟩
    have hitem := hread.read bound (further sep texts ++ ')' :: rest) (by omega)
      (follows_further hsep texts rest)
    have hitems : readItemsWithin (bound + 1) (text.toList ++ (further sep texts ++ ')' :: rest)) =
        some (d :: ds, rest) := by
      rw [hhead, List.cons_append] at hitem ⊢
      rw [readItemsWithin, if_neg hclose, hitem]
      change (readMoreWithin bound (further sep texts ++ ')' :: rest)).bind _ = _
      rw [readMoreWithin_further hsep hmore (by omega)]
      rfl
    rw [htext, List.cons_append, List.append_assoc, List.append_assoc, List.singleton_append,
      readWithin, if_neg (by decide), if_neg (by decide), if_pos rfl, hitems]
    rfl

end Datum

/-! ## Values -/

mutual

/-- A literal value has a text, and the text is read as the datum of the value. -/
theorem Value.render_reads (v : Value) (hv : v.isLiteral) :
    ∃ text, v.render = .ok text ∧ Datum.Reads text v.datum := by
  cases v with
  | null =>
    refine ⟨"NULL", ?_, ?_⟩
    · rw [Value.render]
    · rw [Value.datum]
      exact .null
  | bool b =>
    refine ⟨Literal.encode (if b then "1" else "0"), ?_, ?_⟩
    · rw [Value.render]
      cases b <;> decide
    · rw [Value.datum]
      exact .literal _
  | int n =>
    refine ⟨toString n, ?_, ?_⟩
    · rw [Value.render]
    · rw [Value.datum]
      exact .int n
  | float x =>
    have hfinite : x.isFinite := by simpa [Value.isLiteral] using hv
    refine ⟨x.fixed, ?_, ?_⟩
    · rw [Value.render, Binary64.render, if_pos hfinite]
    · rw [Value.datum]
      exact .fixed x
  | text s =>
    refine ⟨Literal.encode s, ?_, ?_⟩
    · rw [Value.render]
    · rw [Value.datum]
      exact .literal s
  | list items =>
    obtain ⟨texts, hrender, hreads⟩ :=
      Value.renderAll_reads items (by simpa [Value.isLiteral] using hv)
    refine ⟨bracketed ", " texts, ?_, ?_⟩
    · rw [Value.render, hrender]
      rfl
    · rw [Value.datum]
      exact .bracketed (.inr rfl) hreads
  | query q => simp [Value.isLiteral] at hv
  | template t => simp [Value.isLiteral] at hv

/-- Literal values have texts, and each is read as the datum of its value. -/
theorem Value.renderAll_reads (values : List Value) (hvalues : Value.allLiteral values) :
    ∃ texts, Value.renderAll values = .ok texts ∧
      List.Forall₂ Datum.Reads texts (Value.data values) := by
  cases values with
  | nil =>
    refine ⟨[], ?_, ?_⟩
    · rw [Value.renderAll]
    · rw [Value.data]
      exact .nil
  | cons value rest =>
    obtain ⟨hvalue, hrest⟩ : value.isLiteral ∧ Value.allLiteral rest := by
      simpa [Value.allLiteral] using hvalues
    obtain ⟨text, hrender, hread⟩ := Value.render_reads value hvalue
    obtain ⟨texts, hrenders, hreads⟩ := Value.renderAll_reads rest hrest
    refine ⟨text :: texts, ?_, ?_⟩
    · rw [Value.renderAll, hrender, hrenders]
      rfl
    · rw [Value.data]
      exact .cons hread hreads

end

namespace Value

/-- Whatever follows a literal, reading it gives the datum of its value and stops where it ends, so
that two values with the same text have the same datum. -/
theorem read_render (v : Value) (hv : v.isLiteral) :
    (∃ text, v.render = .ok text ∧ ∀ rest, Datum.Follows rest →
      Datum.read (text.toList ++ rest) = some (v.datum, rest)) ∧
    ∀ w : Value, w.isLiteral → v.render = w.render → v.datum = w.datum := by
  obtain ⟨text, hrender, hread⟩ := v.render_reads hv
  refine ⟨⟨text, hrender, fun rest hrest => ?_⟩, fun w hw hvw => ?_⟩
  · exact hread.read _ rest (by simp) hrest
  · obtain ⟨text', hrender', hread'⟩ := w.render_reads hw
    obtain rfl : text = text' := by
      rw [hrender, hrender'] at hvw
      exact Except.ok.inj hvw
    have hv := hread.read _ [] (Nat.le_refl _) (by decide)
    have hw := hread'.read _ [] (Nat.le_refl _) (by decide)
    rw [hv] at hw
    exact congrArg Prod.fst (Option.some.inj hw)

/-- Texts that look like the end of a literal, next to numbers, NULL and lists in lists. -/
def nested : Value :=
  .list [.text "it's', NULL)\\", .list [], .text "\x00\n\"",
    .list [.int (-9223372036854775808), .float ⟨0xBFE0000000000000⟩, .bool true], .null]

theorem read_render_nested :
    nested.isLiteral ∧
    (∃ text, nested.render = .ok text ∧
      Datum.read (text.toList ++ ", NULL)".toList) = some (nested.datum, ", NULL)".toList)) ∧
    (list [bool true]).datum = (list [text "1"]).datum := by
  have hnested : nested.isLiteral := by decide
  obtain ⟨⟨text, hrender, hread⟩, -⟩ := read_render nested hnested
  refine ⟨hnested, ⟨text, hrender, hread _ (by decide)⟩, ?_⟩
  exact (read_render (list [bool true]) (by decide)).2 (list [.text "1"]) (by decide) (by decide)

end Value

end SearchQL
