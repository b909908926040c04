import SearchQL.Proofs.Lowered
import SearchQL.SearchText

/-!
# The normal form of a search text

Cleaning a text is to map it to lower case, to drop what belongs to no word, and to write the
stretches between white space with single spaces between them. Those stretches are the words of the
search.

* `SearchText.stretches` are the stretches of characters without white space, with
  `SearchText.stretches_append` for a text with white space in the middle.
* `SearchText.clean_eq` and `SearchText.words_ofText` say what cleaning and the words are.
* `SearchText.IsNormal` is the normal form, which `SearchText.cleaning_normalises` is about.
* `SearchText.words_append_blank` says that a text with a space in it has the words of both sides.
-/

namespace SearchQL.SearchText

theorem isBlank_space : isBlank ' ' = true := by decide

/-! ## Stretches -/

/-- The stretches of `cs` without white space, from left to right. -/
def stretches (cs : List Char) : List String :=
  ((cs.splitOnP isBlank).filter (· ≠ [])).map String.ofList

/-- White space cuts a text into its two sides. -/
theorem stretches_append {c : Char} (hc : isBlank c = true) (cs ds : List Char) :
    stretches (cs ++ c :: ds) = stretches cs ++ stretches ds := by
  rw [stretches, List.splitOnP_append_cons cs ds hc, List.filter_append, List.map_append]
  rfl

theorem stretches_cons_blank {c : Char} (hc : isBlank c = true) (cs : List Char) :
    stretches (c :: cs) = stretches cs :=
  stretches_append hc [] cs

/-- A text without white space is one stretch. -/
theorem stretches_of_not_blank {s : String} (hne : s ≠ "") (h : ∀ c ∈ s.toList, isBlank c = false) :
    stretches s.toList = [s] := by
  simp [stretches, List.splitOnP_eq_singleton h, hne]

theorem of_mem_splitOnP {cs piece : List Char} (h : piece ∈ cs.splitOnP isBlank) :
    ∀ c ∈ piece, c ∈ cs ∧ isBlank c = false := by
  induction cs generalizing piece with
  | nil =>
    obtain rfl : piece = [] := by simpa using h
    exact List.forall_mem_nil _
  | cons d cs ih =>
    obtain ⟨first, rest, hsplit⟩ := List.exists_cons_of_ne_nil (List.splitOnP_ne_nil isBlank cs)
    have hrest {piece : List Char} (hpiece : piece ∈ cs.splitOnP isBlank) :
        ∀ c ∈ piece, c ∈ d :: cs ∧ isBlank c = false := fun c hc =>
      (ih hpiece c hc).imp_left (List.mem_cons_of_mem d)
    rw [List.splitOnP_cons_eq_if_modifyHead] at h
    split at h
    case isTrue =>
      rcases List.mem_cons.1 h with rfl | h
      · exact List.forall_mem_nil _
      · exact hrest h
    case isFalse hd =>
      rw [hsplit] at h hrest
      rcases List.mem_cons.1 h with rfl | h
      · rw [List.forall_mem_cons]
        exact ⟨⟨List.mem_cons_self, by simpa using hd⟩, hrest List.mem_cons_self⟩
      · exact hrest (List.mem_cons_of_mem _ h)

/-- A stretch has characters of the text, and no white space. -/
theorem of_mem_stretches {cs : List Char} {s : String} (h : s ∈ stretches cs) :
    s ≠ "" ∧ ∀ c ∈ s.toList, c ∈ cs ∧ isBlank c = false := by
  obtain ⟨piece, hpiece, rfl⟩ := List.mem_map.1 h
  obtain ⟨hpiece, hne⟩ := List.mem_filter.1 hpiece
  rw [String.toList_ofList]
  exact ⟨by simpa using hne, of_mem_splitOnP hpiece⟩

/-- Stretches with spaces between them are found again. -/
theorem stretches_joinWith {words : List String}
    (h : ∀ w ∈ words, w ≠ "" ∧ ∀ c ∈ w.toList, isBlank c = false) :
    stretches (joinWith " " words).toList = words := by
  induction words with
  | nil => rfl
  | cons w words ih =>
    rw [List.forall_mem_cons] at h
    have hword := stretches_of_not_blank h.1.1 h.1.2
    cases words with
    | nil => exact hword
    | cons next words =>
      have htext : (joinWith " " (w :: next :: words)).toList =
          w.toList ++ ' ' :: (joinWith " " (next :: words)).toList := by
        simp
      rw [htext, stretches_append isBlank_space, hword, ih h.2, List.singleton_append]

/-! ## Collapsing and trimming -/

theorem collapse_cons_of_not_blank {c : Char} (hc : isBlank c = false) (cs : List Char) :
    collapse (c :: cs) = c :: collapse cs := by
  simp [collapse, hc]

/-- White space becomes a space unless there is one already. -/
theorem collapse_cons_blank {c : Char} (hc : isBlank c = true) (cs : List Char) :
    collapse (c :: cs) =
      if (collapse cs).head? = some ' ' then collapse cs else ' ' :: collapse cs := by
  rw [collapse, if_pos hc]
  split
  case h_1 rest heq => simp [heq]
  case h_2 rest hne =>
    rw [if_neg]
    intro hhead
    obtain ⟨rest, hrest⟩ := List.head?_eq_some_iff.1 hhead
    exact hne rest hrest

/-- A collapsed text begins with a space exactly if the text begins with white space. -/
theorem head?_collapse_iff (cs : List Char) :
    (collapse cs).head? = some ' ' ↔ ∃ c ∈ cs.head?, isBlank c = true := by
  cases cs with
  | nil => simp [collapse]
  | cons c cs =>
    cases hc : isBlank c with
    | true =>
      rw [collapse_cons_blank hc]
      split <;> simp_all
    | false =>
      have hne : c ≠ ' ' := by
        rintro rfl
        revert hc
        decide
      simp [collapse_cons_of_not_blank hc, hne, hc]

theorem trimEnd_cons_of_not_blank {c : Char} (hc : isBlank c = false) (cs : List Char) :
    trimEnd (c :: cs) = c :: trimEnd cs := by
  rw [trimEnd]
  split
  case h_1 hnil => simp [hc, hnil]
  case h_2 => rfl

theorem trimEnd_blank_cons {c : Char} (hc : isBlank c = true) (cs : List Char) :
    trimEnd (c :: cs) = if trimEnd cs = [] then [] else c :: trimEnd cs := by
  rw [trimEnd]
  split
  case h_1 hnil => simp [hc, hnil]
  case h_2 hne => rw [if_neg hne]

/-- The first stretch is empty where the text has nothing or white space in front. -/
theorem first_eq_nil_iff {cs first : List Char} {rest : List (List Char)}
    (hsplit : cs.splitOnP isBlank = first :: rest) :
    first = [] ↔ cs = [] ∨ ∃ c ∈ cs.head?, isBlank c = true := by
  cases cs with
  | nil =>
    cases hsplit
    simp
  | cons c cs =>
    obtain ⟨next, further, hnext⟩ := List.exists_cons_of_ne_nil (List.splitOnP_ne_nil isBlank cs)
    rw [List.splitOnP_cons_eq_if_modifyHead, hnext] at hsplit
    cases hc : isBlank c with
    | true =>
      rw [if_pos hc] at hsplit
      cases hsplit
      simp [hc]
    | false =>
      rw [if_neg (by simp [hc])] at hsplit
      cases hsplit
      simp [hc]

/-- A collapsed text without the space at its end, stretch by stretch. The first one
stands there even if it is empty, and every other one has a space in front. -/
theorem trimEnd_collapse {cs first : List Char} {rest : List (List Char)}
    (hsplit : cs.splitOnP isBlank = first :: rest) :
    trimEnd (collapse cs) = first ++ (rest.filter (· ≠ [])).flatMap (' ' :: ·) := by
  induction cs generalizing first rest with
  | nil =>
    cases hsplit
    rfl
  | cons c cs ih =>
    obtain ⟨next, further, hnext⟩ := List.exists_cons_of_ne_nil (List.splitOnP_ne_nil isBlank cs)
    have htail := ih hnext
    rw [List.splitOnP_cons_eq_if_modifyHead, hnext] at hsplit
    cases hc : isBlank c with
    | true =>
      rw [if_pos hc] at hsplit
      cases hsplit
      rw [collapse_cons_blank hc, List.nil_append]
      by_cases hhead : (collapse cs).head? = some ' '
      · obtain rfl : next = [] :=
          (first_eq_nil_iff hnext).2 (.inr ((head?_collapse_iff cs).1 hhead))
        rw [if_pos hhead, htail]
        simp
      · rw [if_neg hhead, trimEnd_blank_cons isBlank_space, htail]
        by_cases hnil : next = []
        · have hempty := (first_eq_nil_iff hnext).1 hnil
          obtain rfl : cs = [] := hempty.resolve_right (mt (head?_collapse_iff cs).2 hhead)
          cases hnext
          rfl
        · simp [hnil]
    | false =>
      rw [if_neg (by simp [hc])] at hsplit
      cases hsplit
      rw [collapse_cons_of_not_blank hc, trimEnd_cons_of_not_blank hc, htail, List.cons_append]

theorem trimChars_cons_blank {c : Char} (hc : isBlank c = true) (cs : List Char) :
    trimChars (c :: cs) = trimChars cs := by
  rw [trimChars, List.dropWhile_cons_of_pos hc, trimChars]

/-- Collapsing and trimming leaves the stretches with spaces between them. -/
theorem trimChars_collapse (cs : List Char) :
    trimChars (collapse cs) = (joinWith " " (stretches cs)).toList := by
  induction cs with
  | nil => rfl
  | cons c cs ih =>
    cases hc : isBlank c with
    | true =>
      rw [stretches_cons_blank hc, ← ih, collapse_cons_blank hc]
      split
      · rfl
      · exact trimChars_cons_blank isBlank_space _
    | false =>
      obtain ⟨next, further, hnext⟩ := List.exists_cons_of_ne_nil (List.splitOnP_ne_nil isBlank cs)
      have hsplit : (c :: cs).splitOnP isBlank = (c :: next) :: further := by
        rw [List.splitOnP_cons_eq_if_modifyHead, if_neg (by simp [hc]), hnext]
        rfl
      have hstart : (collapse (c :: cs)).dropWhile isBlank = collapse (c :: cs) := by
        rw [collapse_cons_of_not_blank hc, List.dropWhile_cons_of_neg (by simp [hc])]
      rw [trimChars, hstart, trimEnd_collapse hsplit, stretches, hsplit]
      simp [toList_joinWith_cons, List.flatMap_map]

/-! ## Cleaning -/

/-- What is left of a text in lower case: word characters and white space. -/
def kept (text : String) : List Char := (lowerCase text.toList).filter isKept

/-- A cleaned text is the stretches of what is kept, with spaces between them. -/
theorem clean_eq (text : String) : clean text = joinWith " " (stretches (kept text)) := by
  rw [clean, cleanChars, trimChars_collapse, String.ofList_toList]
  rfl

theorem wordsOf_joinWith {words : List String} (h : ∀ w ∈ words, w ≠ "" ∧ ' ' ∉ w.toList) :
    wordsOf (joinWith " " words) = words := by
  cases words with
  | nil => rfl
  | cons w words =>
    have hne : (w :: words).filter (fun w => w.toList ≠ []) = w :: words := by
      rw [List.filter_eq_self]
      exact fun w hw => by simpa using (h w hw).1
    have hid : String.ofList ∘ String.toList = id := funext fun _ => String.ofList_toList
    rw [wordsOf, pieces_joinWith rfl fun w hw => (h w hw).2, List.filter_map, List.map_map, hid,
      List.map_id]
    exact hne

theorem words_ofText (text : String) : (ofText text).words = stretches (kept text) := by
  have hwords : ∀ w ∈ stretches (kept text), w ≠ "" ∧ ' ' ∉ w.toList := by
    intro w hw
    obtain ⟨hne, hchars⟩ := of_mem_stretches hw
    exact ⟨hne, fun hmem => absurd isBlank_space (Bool.eq_false_iff.1 (hchars ' ' hmem).2)⟩
  simp only [ofText]
  rw [clean_eq, wordsOf_joinWith hwords]

/-! ## The normal form -/

/-- A run of word characters. -/
def IsRun (s : String) : Prop := s ≠ "" ∧ ∀ c ∈ s.toList, isWord c = true

/-- Runs of word characters in lower case with single spaces between them. -/
def IsNormal (text : String) : Prop :=
  ∃ runs : List String, (∀ run ∈ runs, IsRun run ∧ ∀ c ∈ run.toList, Lowered c) ∧
    text = joinWith " " runs

/-- The two tables have no code point in common. -/
theorem blankRanges_apart : (blankRanges.all fun range =>
    (List.range (range.2 - range.1 + 1)).all fun i =>
      !inRanges wordRanges (range.1 + i)) = true := by
  decide +kernel

/-- No word character is white space. -/
theorem isBlank_of_isWord {c : Char} (h : isWord c = true) : isBlank c = false := by
  refine Bool.eq_false_iff.2 fun hblank => ?_
  obtain ⟨range, hrange, hfirst, hlast⟩ := exists_of_inRanges hblank
  have hall := List.all_eq_true.1 blankRanges_apart range hrange
  have hindex : c.toNat - range.1 ∈ List.range (range.2 - range.1 + 1) := by
    rw [List.mem_range]
    omega
  have hword := List.all_eq_true.1 hall _ hindex
  rw [Nat.add_sub_cancel' hfirst] at hword
  rw [isWord] at h
  rw [h] at hword
  cases hword

theorem IsRun.not_blank {s : String} (h : IsRun s) : ∀ c ∈ s.toList, isBlank c = false :=
  fun c hc => isBlank_of_isWord (h.2 c hc)

/-- The words of a search are runs of word characters in lower case. -/
theorem isRun_of_mem_words {text w : String} (h : w ∈ (ofText text).words) :
    IsRun w ∧ ∀ c ∈ w.toList, Lowered c := by
  rw [words_ofText] at h
  obtain ⟨hne, hchars⟩ := of_mem_stretches h
  refine ⟨⟨hne, fun c hc => ?_⟩, fun c hc => ?_⟩
  · obtain ⟨hmem, hblank⟩ := hchars c hc
    have hkept : isKept c = true := (List.mem_filter.1 hmem).2
    rwa [isKept, hblank, Bool.or_false] at hkept
  · exact lowered_of_mem_lowerCase (List.mem_filter.1 (hchars c hc).1).1

theorem clean_eq_joinWith_words (text : String) :
    clean text = joinWith " " (ofText text).words := by
  rw [words_ofText, clean_eq]

/-- Runs of word characters are found again between the spaces of a text. -/
theorem wordsOf_joinWith_runs {runs : List String} (h : ∀ run ∈ runs, IsRun run) :
    wordsOf (joinWith " " runs) = runs := by
  have hspace : isWord ' ' = false := by decide +kernel
  have hwords : ∀ w ∈ runs, w ≠ "" ∧ ' ' ∉ w.toList := fun w hw =>
    ⟨(h w hw).1, fun hmem => Bool.eq_false_iff.1 hspace ((h w hw).2 ' ' hmem)⟩
  exact wordsOf_joinWith hwords

/-- There are no words exactly if nothing is left of a text. -/
theorem size_eq_zero_iff (text : String) : (ofText text).size = 0 ↔ clean text = "" := by
  rw [size, List.length_eq_zero_iff, clean_eq_joinWith_words]
  constructor
  · intro hnil
    rw [hnil, joinWith_nil]
  · intro hempty
    cases hwords : (ofText text).words with
    | nil => rfl
    | cons w words =>
      have hw : IsRun w := (isRun_of_mem_words (by rw [hwords]; exact List.mem_cons_self)).1
      rw [hwords, ← String.toList_inj, toList_joinWith_cons] at hempty
      exact absurd (String.toList_eq_nil_iff.1 (List.append_eq_nil_iff.1 hempty).1) hw.1

/-- All characters of a joined text are those of its parts and of the separator. -/
theorem mem_joinWith {c : Char} {sep : String} {parts : List String}
    (h : c ∈ (joinWith sep parts).toList) : c ∈ sep.toList ∨ ∃ part ∈ parts, c ∈ part.toList := by
  induction parts with
  | nil =>
    rw [joinWith_nil] at h
    cases h
  | cons part parts =>
    rw [toList_joinWith_cons, List.mem_append, List.mem_flatMap] at h
    rcases h with h | ⟨next, hnext, h⟩
    · exact .inr ⟨part, List.mem_cons_self, h⟩
    · rw [List.mem_append] at h
      exact h.imp_right fun h => ⟨next, List.mem_cons_of_mem _ hnext, h⟩

/-- A text in normal form is left as it is. -/
theorem clean_of_isNormal {text : String} (h : IsNormal text) : clean text = text := by
  obtain ⟨runs, hruns, rfl⟩ := h
  have hchars : ∀ c ∈ (joinWith " " runs).toList, Lowered c ∧ isKept c = true := by
    intro c hc
    rcases mem_joinWith hc with hspace | ⟨run, hrun, hmem⟩
    · obtain rfl := List.mem_singleton.1 hspace
      decide
    · obtain ⟨hword, hlower⟩ := hruns run hrun
      exact ⟨hlower c hmem, by rw [isKept, hword.2 c hmem, Bool.true_or]⟩
  have hkept : kept (joinWith " " runs) = (joinWith " " runs).toList := by
    rw [kept, lowerCase_of_lowered fun c hc => (hchars c hc).1, List.filter_eq_self]
    exact fun c hc => (hchars c hc).2
  rw [clean_eq, hkept, stretches_joinWith fun run hrun => ?_]
  exact ⟨(hruns run hrun).1.1, (hruns run hrun).1.not_blank⟩

theorem isNormal_clean (text : String) : IsNormal (clean text) :=
  ⟨(ofText text).words, fun _ => isRun_of_mem_words, clean_eq_joinWith_words text⟩

/-- **Cleaning is a normal form.** Cleaning leaves a cleaned text as it is. A cleaned text is empty
or runs of word characters in lower case with single spaces between them and none at the ends, and
these are the only texts that cleaning leaves as they are. The words of a search are those runs and
no others, so there are none exactly if the text is empty, and searching for the cleaned text is
the same search. -/
theorem cleaning_normalises (text : String) :
    clean (clean text) = clean text ∧ IsNormal (clean text) ∧ (clean text = text ↔ IsNormal text) ∧
    (ofText text).text = clean text ∧
    (∀ runs : List String, (ofText text).words = runs ↔
      (∀ run ∈ runs, IsRun run) ∧ joinWith " " runs = (ofText text).text) ∧
    ((ofText text).size = 0 ↔ (ofText text).text = "") ∧
    ofText (ofText text).text = ofText text := by
  have htext : (ofText text).text = clean text := rfl
  have hidem : clean (clean text) = clean text := clean_of_isNormal (isNormal_clean text)
  have hwords (runs : List String) : (ofText text).words = runs ↔
      (∀ run ∈ runs, IsRun run) ∧ joinWith " " runs = (ofText text).text := by
    constructor
    · rintro rfl
      exact ⟨fun run hrun => (isRun_of_mem_words hrun).1, (clean_eq_joinWith_words text).symm⟩
    · rintro ⟨hruns, hjoin⟩
      rw [← wordsOf_joinWith_runs hruns, hjoin, ofText]
  refine ⟨hidem, isNormal_clean text, ⟨fun h => ?_, clean_of_isNormal⟩, htext, hwords,
    size_eq_zero_iff text, ?_⟩
  · rw [← h]
    exact isNormal_clean text
  · rw [htext, ofText, hidem, ofText]

/-! ## Both sides of a space -/

/-- **The words of a text are those on both sides of a space.** -/
theorem words_append_blank (a b : String) :
    (ofText (a ++ " " ++ b)).words = (ofText a).words ++ (ofText b).words := by
  have hkept : kept (a ++ " " ++ b) = kept a ++ ' ' :: kept b := by
    have htext : (a ++ " " ++ b).toList = a.toList ++ ' ' :: b.toList := by simp
    have hkeeps : isKept ' ' = true := by decide
    rw [kept, htext, lowerCase_append_blank, List.filter_append, List.filter_cons_of_pos hkeeps,
      kept, kept]
  rw [words_ofText, words_ofText, words_ofText, hkept, stretches_append isBlank_space]

end SearchQL.SearchText
