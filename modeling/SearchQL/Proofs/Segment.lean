import Mathlib.Data.List.MinMax
import SearchQL.Text.Placeholder

/-!
# Leftmost longest replacement

A template is cut from the left into characters that are copied and placeholders that are replaced:
where several placeholders stand, the longest is taken. The cut looks at the template and at the
placeholders only, never at what replaces them.

* `Placeholder.segments` is the cut, and `Placeholder.fill` puts the replacements in.
* `Placeholder.matching?_longestFirst` says that the first match in descending order of size is the
  longest one.
* `Placeholder.replaceFrom_longestFirst` takes the pass over the text to the cut.
-/

namespace SearchQL.Placeholder

/-! ## The cut -/

/-- A piece of a template. -/
inductive Segment where
  | copied (c : Char)
  | placeholder (key : String)
deriving DecidableEq, Repr

namespace Segment

/-- What a piece covers in the template. -/
def source : Segment → List Char
  | .copied c => [c]
  | .placeholder key => key.toList

/-- What a piece becomes. -/
def text (quoted : String → String) : Segment → List Char
  | .copied c => [c]
  | .placeholder key => (quoted key).toList

end Segment

/-- The longest placeholder at the start of `cs`. The empty one stands nowhere. -/
def longest? (keys : List String) (cs : List Char) : Option String :=
  (keys.filter fun key => key ≠ "" ∧ key.toList <+: cs).argmax String.length

theorem longest?_eq_none_iff {keys : List String} {cs : List Char} :
    longest? keys cs = none ↔ ∀ key ∈ keys, key ≠ "" → ¬ key.toList <+: cs := by
  simp [longest?, List.filter_eq_nil_iff]

theorem longest?_spec {keys : List String} {cs : List Char} {key : String}
    (h : longest? keys cs = some key) :
    key ∈ keys ∧ key ≠ "" ∧ key.toList <+: cs ∧
      ∀ other ∈ keys, other ≠ "" → other.toList <+: cs → other.length ≤ key.length := by
  have hmem := List.argmax_mem h
  rw [List.mem_filter, decide_eq_true_eq] at hmem
  refine ⟨hmem.1, hmem.2.1, hmem.2.2, fun other hother hne hstart => ?_⟩
  refine List.le_of_mem_argmax (f := String.length) ?_ h
  rw [List.mem_filter, decide_eq_true_eq]
  exact ⟨hother, hne, hstart⟩

/-- At most one text of a length stands at the start of `cs`. -/
theorem eq_of_start {key other : String} {cs : List Char} (h : key.toList <+: cs)
    (h' : other.toList <+: cs) (hlength : key.length = other.length) : key = other := by
  have hlist : key.toList.length = other.toList.length := by
    rw [String.length_toList, String.length_toList, hlength]
  rw [← String.toList_inj]
  rcases List.prefix_or_prefix_of_prefix h h' with hle | hle
  · exact hle.eq_of_length hlist
  · exact (hle.eq_of_length hlist.symm).symm

/-- The longest placeholder is the one that stands there while no other is longer. -/
theorem longest?_eq_some_iff {keys : List String} {cs : List Char} {key : String} :
    longest? keys cs = some key ↔ key ∈ keys ∧ key ≠ "" ∧ key.toList <+: cs ∧
      ∀ other ∈ keys, other ≠ "" → other.toList <+: cs → other.length ≤ key.length := by
  refine ⟨longest?_spec, fun ⟨hmem, hne, hstart, hmax⟩ => ?_⟩
  cases hlongest : longest? keys cs with
  | none => exact absurd hstart (longest?_eq_none_iff.1 hlongest key hmem hne)
  | some other =>
    obtain ⟨hmem', hne', hstart', hmax'⟩ := longest?_spec hlongest
    have hlength : other.length = key.length :=
      Nat.le_antisymm (hmax other hmem' hne' hstart') (hmax' key hmem hne hstart)
    rw [eq_of_start hstart' hstart hlength]

/-- Which placeholder is the longest depends on the set of placeholders that are not empty. -/
theorem longest?_congr {keys keys' : List String}
    (h : ∀ key, key ≠ "" → (key ∈ keys ↔ key ∈ keys')) (cs : List Char) :
    longest? keys cs = longest? keys' cs := by
  ext key
  rw [longest?_eq_some_iff, longest?_eq_some_iff]
  constructor
  · rintro ⟨hmem, hne, hstart, hmax⟩
    exact ⟨(h key hne).1 hmem, hne, hstart, fun other hother hne' =>
      hmax other ((h other hne').2 hother) hne'⟩
  · rintro ⟨hmem, hne, hstart, hmax⟩
    exact ⟨(h key hne).2 hmem, hne, hstart, fun other hother hne' =>
      hmax other ((h other hne').1 hother) hne'⟩

theorem length_pos {key : String} (h : key ≠ "") : 0 < key.length := by
  rw [← String.length_toList, List.length_pos_iff]
  simpa using h

/-- The pieces of a template, cut at the longest placeholder wherever one stands. -/
def segments (keys : List String) : List Char → List Segment
  | [] => []
  | c :: cs =>
    match _h : longest? keys (c :: cs) with
    | some key => .placeholder key :: segments keys ((c :: cs).drop key.length)
    | none => .copied c :: segments keys cs
termination_by cs => cs.length
decreasing_by
  · have hpos : 0 < key.length := length_pos (longest?_spec _h).2.1
    simp only [List.length_drop, List.length_cons]
    omega
  · simp

theorem segments_cons_some {keys : List String} {c : Char} {cs : List Char} {key : String}
    (h : longest? keys (c :: cs) = some key) :
    segments keys (c :: cs) = .placeholder key :: segments keys ((c :: cs).drop key.length) := by
  rw [segments]
  split
  · simp_all
  · simp_all

theorem segments_cons_none {keys : List String} {c : Char} {cs : List Char}
    (h : longest? keys (c :: cs) = none) :
    segments keys (c :: cs) = .copied c :: segments keys cs := by
  rw [segments]
  split
  · simp_all
  · simp_all

/-- The template with every placeholder replaced by its quoted value. -/
def fill (keys : List String) (quoted : String → String) (text : String) : String :=
  String.ofList ((segments keys text.toList).flatMap (Segment.text quoted))

/-- The pieces cover the template, each character once. -/
theorem flatMap_source_segments (keys : List String) (cs : List Char) :
    (segments keys cs).flatMap Segment.source = cs := by
  fun_induction segments keys cs with
  | case1 => rfl
  | case2 c cs key h ih =>
    rw [List.flatMap_cons, ih, Segment.source, ← String.length_toList]
    exact List.prefix_iff_eq_append.1 (longest?_spec h).2.2.1
  | case3 c cs h ih => rw [List.flatMap_cons, ih, Segment.source, List.singleton_append]

/-- The cut depends on the set of placeholders that are not empty, not on their order. -/
theorem segments_congr {keys keys' : List String}
    (h : ∀ key, key ≠ "" → (key ∈ keys ↔ key ∈ keys')) (cs : List Char) :
    segments keys cs = segments keys' cs := by
  fun_induction segments keys cs with
  | case1 => rw [segments]
  | case2 c cs key hkey ih => rw [ih, segments_cons_some ((longest?_congr h _).symm.trans hkey)]
  | case3 c cs hkey ih => rw [ih, segments_cons_none ((longest?_congr h _).symm.trans hkey)]

theorem fill_congr {keys keys' : List String}
    (h : ∀ key, key ≠ "" → (key ∈ keys ↔ key ∈ keys')) (quoted : String → String) (text : String) :
    fill keys quoted text = fill keys' quoted text := by
  rw [fill, fill, segments_congr h]

/-! ## The first match in descending order -/

theorem mem_insertBySize {r s : Replacement} {rs : List Replacement} :
    s ∈ insertBySize r rs ↔ s = r ∨ s ∈ rs := by
  induction rs with
  | nil => simp [insertBySize]
  | cons t rs ih =>
    rw [insertBySize]
    split
    · simp
    · simp [ih, or_left_comm]

theorem mem_longestFirst {s : Replacement} {rs : List Replacement} :
    s ∈ longestFirst rs ↔ s ∈ rs := by
  induction rs with
  | nil => rfl
  | cons r rs ih => rw [longestFirst, mem_insertBySize, ih, List.mem_cons]

theorem pairwise_insertBySize {r : Replacement} {rs : List Replacement}
    (h : rs.Pairwise fun s t => size t.1 ≤ size s.1) :
    (insertBySize r rs).Pairwise fun s t => size t.1 ≤ size s.1 := by
  induction rs with
  | nil => simp [insertBySize]
  | cons s rs ih =>
    obtain ⟨hs, hrs⟩ := List.pairwise_cons.1 h
    rw [insertBySize]
    split
    · rename_i hle
      refine List.pairwise_cons.2 ⟨fun t ht => ?_, h⟩
      rcases List.mem_cons.1 ht with rfl | ht
      · exact hle
      · exact Nat.le_trans (hs t ht) hle
    · rename_i hlt
      refine List.pairwise_cons.2 ⟨fun t ht => ?_, ih hrs⟩
      rcases mem_insertBySize.1 ht with rfl | ht
      · omega
      · exact hs t ht

theorem pairwise_longestFirst (rs : List Replacement) :
    (longestFirst rs).Pairwise fun s t => size t.1 ≤ size s.1 := by
  induction rs with
  | nil => exact .nil
  | cons r rs ih => exact pairwise_insertBySize ih

theorem size_append (cs ds : List Char) : size (cs ++ ds) = size cs + size ds := by
  induction cs with
  | nil => simp [size]
  | cons c cs ih => rw [List.cons_append, size, size, ih, Nat.add_assoc]

/-- A text that is continued takes more bytes. -/
theorem length_le_of_size_le {key other cs : List Char} (h : key <+: cs) (h' : other <+: cs)
    (hsize : size other ≤ size key) : other.length ≤ key.length := by
  rcases List.prefix_or_prefix_of_prefix h' h with hle | hle
  · exact hle.length_le
  · obtain ⟨rest, rfl⟩ := hle
    cases rest with
    | nil => simp
    | cons c rest =>
      have hpos := c.utf8Size_pos
      rw [size_append, size] at hsize
      omega

/-- In descending order of size, the first placeholder that stands at the start of a text is the
longest that does. -/
theorem matching?_longestFirst {rs : List Replacement} {cs : List Char} {r : Replacement}
    (h : matching? (longestFirst rs) cs = some r) :
    r ∈ rs ∧ r.1 <+: cs ∧ ∀ s ∈ rs, s.1 <+: cs → s.1.length ≤ r.1.length := by
  obtain ⟨hr, before, behind, hsplit, hbefore⟩ := List.find?_eq_some_iff_append.1 h
  rw [List.isPrefixOf_iff_prefix] at hr
  have hpairwise := pairwise_longestFirst rs
  have hmem : ∀ s ∈ rs, s ∈ before ∨ s = r ∨ s ∈ behind := fun s hs => by
    have hs := mem_longestFirst.2 hs
    rwa [hsplit, List.mem_append, List.mem_cons] at hs
  rw [hsplit, List.pairwise_append, List.pairwise_cons] at hpairwise
  refine ⟨mem_longestFirst.1 (by rw [hsplit]; simp), hr, fun s hs hstart => ?_⟩
  rcases hmem s hs with hs | rfl | hs
  · have hnot := hbefore s hs
    rw [List.isPrefixOf_iff_prefix.2 hstart] at hnot
    cases hnot
  · exact Nat.le_refl _
  · exact length_le_of_size_le hr hstart (hpairwise.2.1.1 s hs)

/-! ## The pass over the text -/

/-- What a placeholder still covers is skipped. -/
theorem replaceFrom_eq_drop (rs : List Replacement) (covered : Nat) (cs : List Char) :
    replaceFrom rs covered cs = replaceFrom rs 0 (cs.drop covered) := by
  induction covered generalizing cs with
  | zero => rfl
  | succ covered ih =>
    cases cs with
    | nil => rfl
    | cons c cs => rw [replaceFrom, ih, List.drop_succ_cons]

/-- A replacement as the pass over the text gets it. -/
def chars (r : String × String) : Replacement := (r.1.toList, r.2.toList)

/-- The first match is the longest placeholder with the text that replaces it. -/
theorem matching?_eq_longest? {rs : List (String × String)} {quoted : String → String}
    (hne : ∀ r ∈ rs, r.1 ≠ "") (hquoted : ∀ r ∈ rs, r.2 = quoted r.1) (cs : List Char) :
    matching? (longestFirst (rs.map chars)) cs =
      (longest? (rs.map Prod.fst) cs).map fun key => chars (key, quoted key) := by
  cases hmatching : matching? (longestFirst (rs.map chars)) cs with
  | none =>
    have hnone : longest? (rs.map Prod.fst) cs = none := by
      rw [longest?_eq_none_iff]
      intro key hkey _ hstart
      obtain ⟨r, hr, rfl⟩ := List.mem_map.1 hkey
      have hchars : chars r ∈ longestFirst (rs.map chars) :=
        mem_longestFirst.2 (List.mem_map_of_mem hr)
      have hnot := List.find?_eq_none.1 hmatching _ hchars
      exact hnot (List.isPrefixOf_iff_prefix.2 hstart)
    rw [hnone]
    rfl
  | some s =>
    obtain ⟨hs, hstart, hmax⟩ := matching?_longestFirst hmatching
    obtain ⟨r, hr, rfl⟩ := List.mem_map.1 hs
    have hsome : longest? (rs.map Prod.fst) cs = some r.1 := by
      refine longest?_eq_some_iff.2 ⟨List.mem_map_of_mem hr, hne r hr, hstart, ?_⟩
      intro other hother _ hstart'
      obtain ⟨t, ht, rfl⟩ := List.mem_map.1 hother
      rw [← String.length_toList, ← String.length_toList]
      exact hmax (chars t) (List.mem_map_of_mem ht) hstart'
    rw [hsome, Option.map_some, ← hquoted r hr]

/-- Replacing in one pass, at each place the first match in descending order of size, fills the
pieces of the cut. -/
theorem replaceFrom_longestFirst {rs : List (String × String)} {quoted : String → String}
    (hne : ∀ r ∈ rs, r.1 ≠ "") (hquoted : ∀ r ∈ rs, r.2 = quoted r.1) (cs : List Char) :
    replaceFrom (longestFirst (rs.map chars)) 0 cs =
      (segments (rs.map Prod.fst) cs).flatMap (Segment.text quoted) := by
  fun_induction segments (rs.map Prod.fst) cs with
  | case1 => rfl
  | case2 c cs key hkey ih =>
    have hpos : 0 < key.length := length_pos (longest?_spec hkey).2.1
    have hdrop : (c :: cs).drop key.length = cs.drop (key.length - 1) := by
      rw [List.drop_cons hpos]
    rw [replaceFrom, matching?_eq_longest? hne hquoted, hkey, Option.map_some, List.flatMap_cons,
      ← ih, hdrop]
    simp only [chars, String.length_toList]
    rw [replaceFrom_eq_drop, Segment.text]
  | case3 c cs hkey ih =>
    rw [replaceFrom, matching?_eq_longest? hne hquoted, hkey, Option.map_none, List.flatMap_cons,
      ← ih, Segment.text, List.singleton_append]

theorem replace_eq_fill {rs : List (String × String)} {quoted : String → String}
    (hne : ∀ r ∈ rs, r.1 ≠ "") (hquoted : ∀ r ∈ rs, r.2 = quoted r.1) (text : String) :
    replace rs text = fill (rs.map Prod.fst) quoted text := by
  have hpass := replaceFrom_longestFirst hne hquoted text.toList
  rw [fill, ← hpass]
  rfl

end SearchQL.Placeholder
