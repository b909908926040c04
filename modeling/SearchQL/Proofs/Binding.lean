import Mathlib.Tactic.Choose
import SearchQL.Proofs.Segment
import SearchQL.Proofs.Success
import SearchQL.Query.Call
import SearchQL.Query.Render

/-!
# Values bound to placeholders

A template gets its values one after another, and the last value of a placeholder counts. Its text
is the cut of the template at the placeholders, filled with their quoted values.

* `Dict.get?_insertAll` says which value of a key stays, and `Dict.Ascending` is what makes a
  dictionary hold one pair for each key.
* `Template.run` binds values step by step, and `Template.bindings_run` says what is bound then.
* `Template.succeeds_render` says when a template has a text, `Template.render_eq_fill` which.
* `Template.leftmost_longest` is the result.
-/

namespace SearchQL

/-! ## Dictionaries -/

namespace Dict

variable {α : Type}

/-- Whether the keys ascend, as they do in every dictionary made by insertions. -/
def Ascending (d : List (String × α)) : Prop := (d.map Prod.fst).Pairwise (· < ·)

theorem mem_keys_insert {key k : String} {a : α} {d : List (String × α)} :
    k ∈ (insert key a d).map Prod.fst ↔ k = key ∨ k ∈ d.map Prod.fst := by
  induction d with
  | nil => simp [insert]
  | cons p d ih =>
    obtain ⟨l, b⟩ := p
    rw [insert]
    split
    · rename_i hkey
      simp [hkey]
    · split
      · simp
      · simp only [List.map_cons, List.mem_cons, ih, or_left_comm]

theorem Ascending.insert {d : List (String × α)} (h : Ascending d) (key : String) (a : α) :
    Ascending (insert key a d) := by
  induction d with
  | nil => simp [Dict.insert, Ascending]
  | cons p d ih =>
    obtain ⟨l, b⟩ := p
    obtain ⟨hl, hd⟩ := List.pairwise_cons.1 h
    rw [Dict.insert]
    split
    · rename_i hkey
      rw [hkey]
      exact h
    · split
      · rename_i hlt
        refine List.pairwise_cons.2 ⟨fun k hk => ?_, h⟩
        rcases List.mem_cons.1 hk with rfl | hk
        · exact hlt
        · exact String.lt_trans hlt (hl k hk)
      · rename_i hne hnot
        refine List.pairwise_cons.2 ⟨fun k hk => ?_, ih hd⟩
        rcases mem_keys_insert.1 hk with rfl | hk
        · exact Std.lt_of_le_of_ne (String.not_lt.1 hnot) (Ne.symm hne)
        · exact hl k hk

theorem Ascending.insertAll {d : List (String × α)} (h : Ascending d)
    (pairs : List (String × α)) : Ascending (insertAll d pairs) := by
  induction pairs generalizing d with
  | nil => exact h
  | cons p pairs ih => exact ih (h.insert p.1 p.2)

/-- With ascending keys the pairs are what a look-up finds. -/
theorem Ascending.mem_iff_get? {d : List (String × α)} (h : Ascending d) {key : String} {a : α} :
    (key, a) ∈ d ↔ get? key d = some a := by
  induction d with
  | nil => simp [get?]
  | cons p d ih =>
    obtain ⟨l, b⟩ := p
    obtain ⟨hl, hd⟩ := List.pairwise_cons.1 h
    by_cases hkey : key = l
    · subst hkey
      have hnot : (key, a) ∉ d := fun hmem =>
        String.lt_irrefl key (hl key (List.mem_map_of_mem hmem))
      simp [get?, hnot, eq_comm]
    · simp [get?, hkey, ih hd]

theorem mem_keys_insertAll {pairs d : List (String × α)} {key : String} :
    key ∈ (insertAll d pairs).map Prod.fst ↔ key ∈ pairs.map Prod.fst ∨ key ∈ d.map Prod.fst := by
  induction pairs generalizing d with
  | nil => simp [insertAll]
  | cons p pairs ih =>
    have hstep : insertAll d (p :: pairs) = insertAll (insert p.1 p.2 d) pairs := rfl
    rw [hstep, ih, mem_keys_insert, List.map_cons, List.mem_cons, or_left_comm, or_assoc]

/-- The last pair of a key decides its value. -/
theorem get?_insertAll (pairs d : List (String × α)) (key : String) :
    get? key (insertAll d pairs) = (pairs.reverse.lookup key).or (get? key d) := by
  induction pairs generalizing d with
  | nil => simp [insertAll]
  | cons p pairs ih =>
    obtain ⟨k, a⟩ := p
    have hstep : insertAll d ((k, a) :: pairs) = insertAll (insert k a d) pairs := rfl
    rw [hstep, ih, get?_insert, List.reverse_cons, List.lookup_append, Option.or_assoc,
      List.lookup_cons, List.lookup_nil]
    by_cases hkey : key = k
    · simp [hkey]
    · have hbeq : (key == k) = false := by simpa using hkey
      simp [hkey, hbeq]

end Dict

namespace Template

/-! ## Binding step by step -/

/-- A step that binds values to placeholders. -/
inductive Step where
  | bind (placeholder : String) (value : Value)
  | bindAll (pairs : List (String × Value))

/-- The template after a step. -/
def step (t : Template) : Step → Template
  | .bind placeholder value => t.bind placeholder value
  | .bindAll pairs => t.bindAll pairs

/-- The template after several steps. -/
def run (t : Template) (steps : List Step) : Template := steps.foldl step t

/-- What a step binds, in order. -/
def Step.pairs : Step → List (String × Value)
  | .bind placeholder value => [(placeholder, value)]
  | .bindAll pairs => pairs

/-- What several steps bind, in order. -/
def pairs (steps : List Step) : List (String × Value) := steps.flatMap Step.pairs

/-- The placeholders that several steps bind. -/
def placeholders (steps : List Step) : List String := (pairs steps).map Prod.fst

/-- The value that a placeholder was bound to last. -/
def lastValue? (steps : List Step) (placeholder : String) : Option Value :=
  (pairs steps).reverse.lookup placeholder

@[simp] theorem run_nil (t : Template) : t.run [] = t := rfl

@[simp] theorem run_cons (t : Template) (s : Step) (steps : List Step) :
    t.run (s :: steps) = (t.step s).run steps := rfl

@[simp] theorem run_append (t : Template) (steps steps' : List Step) :
    t.run (steps ++ steps') = (t.run steps).run steps' := List.foldl_append

theorem step_eq (t : Template) (s : Step) : t.step s = t.bindAll s.pairs := by
  cases s with
  | bind placeholder value => rfl
  | bindAll pairs => rfl

/-- The steps together bind their pairs in order, and leave the text as it is. -/
theorem run_eq (t : Template) (steps : List Step) : t.run steps = t.bindAll (pairs steps) := by
  induction steps generalizing t with
  | nil =>
    cases t
    rfl
  | cons s steps ih =>
    rw [run_cons, ih, step_eq, bindAll, bindAll, bindAll, pairs, pairs, List.flatMap_cons]
    simp [Dict.insertAll, List.foldl_append]

theorem text_run (text : String) (steps : List Step) : ((ofText text).run steps).text = text := by
  rw [run_eq]
  rfl

theorem ascending_bindings_run (text : String) (steps : List Step) :
    Dict.Ascending ((ofText text).run steps).bindings := by
  have hempty : Dict.Ascending ([] : List (String × Value)) := .nil
  rw [run_eq]
  exact hempty.insertAll (pairs steps)

/-- A placeholder has the value that it was bound to last. -/
theorem get?_bindings_run (text : String) (steps : List Step) (placeholder : String) :
    Dict.get? placeholder ((ofText text).run steps).bindings = lastValue? steps placeholder := by
  rw [run_eq]
  exact (Dict.get?_insertAll (pairs steps) [] placeholder).trans (Option.or_none ..)

theorem mem_placeholders_run (text : String) (steps : List Step) (placeholder : String) :
    placeholder ∈ ((ofText text).run steps).bindings.map Prod.fst ↔
      placeholder ∈ placeholders steps := by
  rw [run_eq]
  exact Dict.mem_keys_insertAll.trans (by simp [ofText, placeholders])

/-! ## The text -/

/-- The values of placeholders are quoted exactly if each of them can be, the empty one apart. -/
theorem succeeds_renderBindings {bindings : List (String × Value)} :
    Succeeds (renderBindings bindings) ↔
      ∀ b ∈ bindings, b.1 ≠ "" → Succeeds b.2.render := by
  induction bindings with
  | nil =>
    rw [renderBindings]
    simp [succeeds_ok]
  | cons b bindings ih =>
    obtain ⟨key, value⟩ := b
    rw [renderBindings, List.forall_mem_cons]
    by_cases hkey : key = ""
    · rw [if_pos hkey, ih]
      exact ⟨fun h => ⟨fun hne => absurd hkey hne, h⟩, fun h => h.2⟩
    · have hboth : Succeeds (do return (key, ← value.render) :: (← renderBindings bindings)) ↔
          Succeeds value.render ∧ Succeeds (renderBindings bindings) := succeeds_both
      rw [if_neg hkey, hboth, ih]
      exact ⟨fun h => ⟨fun _ => h.1, h.2⟩, fun h => ⟨h.1 hkey, h.2⟩⟩

theorem renderBindings_eq_ok {bindings : List (String × Value)} {quoted : String → String}
    (h : ∀ b ∈ bindings, b.1 ≠ "" → b.2.render = .ok (quoted b.1)) :
    renderBindings bindings =
      .ok ((bindings.filter fun b => b.1 ≠ "").map fun b => (b.1, quoted b.1)) := by
  induction bindings with
  | nil => rw [renderBindings, List.filter_nil, List.map_nil]
  | cons b bindings ih =>
    obtain ⟨key, value⟩ := b
    rw [List.forall_mem_cons] at h
    rw [renderBindings, ih h.2]
    by_cases hkey : key = ""
    · rw [if_pos hkey, List.filter_cons_of_neg (by simpa using hkey)]
    · rw [if_neg hkey, List.filter_cons_of_pos (by simpa using hkey), h.1 hkey]
      rfl

/-- What a template without values gives at once is what the pass over the text gives. -/
theorem render_eq_replace (t : Template) :
    t.render = (renderBindings t.bindings).map fun rs => Placeholder.replace rs t.text := by
  obtain ⟨text, bindings⟩ := t
  cases bindings with
  | nil =>
    have htext : Placeholder.replace [] text = text := by
      rw [Placeholder.replace, List.map_nil, Placeholder.longestFirst, Placeholder.replaceFrom_nil,
        String.ofList_toList]
    rw [render, if_pos List.isEmpty_nil, renderBindings]
    exact congrArg Except.ok htext.symm
  | cons b bindings => rw [render, if_neg (by simp)]

/-- A template has a text exactly if the value of each placeholder has, the empty one apart. -/
theorem succeeds_render (t : Template) :
    Succeeds t.render ↔ ∀ b ∈ t.bindings, b.1 ≠ "" → Succeeds b.2.render := by
  rw [render_eq_replace, succeeds_map, succeeds_renderBindings]

/-- The text of a template is its cut at the placeholders, filled with their quoted values. -/
theorem render_eq_fill {t : Template} {quoted : String → String}
    (h : ∀ b ∈ t.bindings, b.1 ≠ "" → b.2.render = .ok (quoted b.1)) :
    t.render = .ok (Placeholder.fill (t.bindings.map Prod.fst) quoted t.text) := by
  rw [render_eq_replace, renderBindings_eq_ok h]
  refine congrArg Except.ok ?_
  have hbound : ∀ r ∈ (t.bindings.filter fun b => b.1 ≠ "").map fun b => (b.1, quoted b.1),
      r.1 ≠ "" ∧ r.2 = quoted r.1 := fun r hr => by
    obtain ⟨b, hb, rfl⟩ := List.mem_map.1 hr
    exact ⟨by simpa using (List.mem_filter.1 hb).2, rfl⟩
  have hfill := Placeholder.replace_eq_fill (fun r hr => (hbound r hr).1)
    (fun r hr => (hbound r hr).2) t.text
  refine hfill.trans (Placeholder.fill_congr (fun key hkey => ?_) quoted t.text)
  simp [hkey]

/-- The text of a template whose placeholders were bound step by step. -/
theorem render_run_eq_ok_iff {text : String} {steps : List Step} {s : String} :
    ((ofText text).run steps).render = .ok s ↔
      ∃ quoted : String → String,
        (∀ key value, key ≠ "" → lastValue? steps key = some value →
          value.render = .ok (quoted key)) ∧
        s = Placeholder.fill (placeholders steps) quoted text := by
  have hlast : ∀ b : String × Value, b ∈ ((ofText text).run steps).bindings ↔
      lastValue? steps b.1 = some b.2 := fun b => by
    rw [← get?_bindings_run text]
    exact (ascending_bindings_run text steps).mem_iff_get?
  have hfill : ∀ quoted : String → String,
      (∀ key value, key ≠ "" → lastValue? steps key = some value →
        value.render = .ok (quoted key)) →
      ((ofText text).run steps).render =
        .ok (Placeholder.fill (placeholders steps) quoted text) := fun quoted h => by
    rw [render_eq_fill fun b hb hne => h b.1 b.2 hne ((hlast b).1 hb), text_run,
      Placeholder.fill_congr fun key _ => mem_placeholders_run text steps key]
  constructor
  · intro hs
    have hvalues := (succeeds_render _).1 ⟨s, hs⟩
    have hexists : ∀ key, ∃ quoted, ∀ value, key ≠ "" → lastValue? steps key = some value →
        value.render = .ok quoted := fun key => by
      by_cases hkey : key ≠ "" ∧ ∃ value, lastValue? steps key = some value
      · obtain ⟨hne, value, hvalue⟩ := hkey
        obtain ⟨quoted, hquoted⟩ := hvalues (key, value) ((hlast _).2 hvalue) hne
        refine ⟨quoted, fun value' _ hvalue' => ?_⟩
        rw [hvalue] at hvalue'
        cases hvalue'
        exact hquoted
      · exact ⟨"", fun value hne hvalue => absurd ⟨hne, value, hvalue⟩ hkey⟩
    choose quoted hquoted using hexists
    refine ⟨quoted, hquoted, ?_⟩
    rw [hfill quoted hquoted] at hs
    exact (Except.ok.inj hs).symm
  · rintro ⟨quoted, hquoted, rfl⟩
    exact hfill quoted hquoted

/-- The text is missing exactly if one of the values that were bound last has none. -/
theorem render_run_eq_error_iff {text : String} {steps : List Step} :
    (∃ e, ((ofText text).run steps).render = .error e) ↔
      ∃ key value, key ≠ "" ∧ lastValue? steps key = some value ∧
        ∃ e, value.render = .error e := by
  rw [← not_succeeds_iff, succeeds_render]
  simp only [← not_succeeds_iff, not_forall, exists_prop, Prod.exists,
    (ascending_bindings_run text steps).mem_iff_get?, get?_bindings_run]
  grind

/-! ## Raw statements -/

/-- Values bound to a raw statement are bound to its template. -/
theorem run_bindRaw (q : Query) (t : Template) (bound : List (String × Value)) :
    (q.setRaw t).run (bound.map fun b => .bindRaw b.1 b.2) =
      q.setRaw (t.run (bound.map fun b => .bind b.1 b.2)) := by
  induction bound generalizing t with
  | nil => rfl
  | cons b bound ih =>
    rw [List.map_cons, List.map_cons, Query.run_cons, run_cons]
    exact ih (t.bind b.1 b.2)

theorem render_setRaw (q : Query) (t : Template) : (q.setRaw t).render = t.render := rfl

/-- **Placeholders are replaced leftmost and longest first.** Steps that bind values give a template
whose text is the cut of its own text at the placeholders, filled with the quoted values that were
bound last; there is none exactly if one of these values has none, whether or not its placeholder
stands in the text. The cut covers the text and depends on the set of placeholders only, a template
without values needs no rule of its own, and a raw statement is the text of its template. -/
theorem leftmost_longest (text : String) (steps : List Step) :
    (∀ s, ((ofText text).run steps).render = .ok s ↔
      ∃ quoted : String → String,
        (∀ key value, key ≠ "" → lastValue? steps key = some value →
          value.render = .ok (quoted key)) ∧
        s = Placeholder.fill (placeholders steps) quoted text) ∧
    ((∃ e, ((ofText text).run steps).render = .error e) ↔
      ∃ key value, key ≠ "" ∧ lastValue? steps key = some value ∧ ∃ e, value.render = .error e) ∧
    (Placeholder.segments (placeholders steps) text.toList).flatMap Placeholder.Segment.source =
      text.toList ∧
    (∀ steps' : List Step,
      (∀ key, key ≠ "" → (key ∈ placeholders steps ↔ key ∈ placeholders steps')) →
      Placeholder.segments (placeholders steps) text.toList =
        Placeholder.segments (placeholders steps') text.toList) ∧
    ((ofText text).run steps).render =
      (renderBindings ((ofText text).run steps).bindings).map (Placeholder.replace · text) ∧
    ∀ (q : Query) (bound : List (String × Value)),
      ((q.setRaw ((ofText text).run steps)).run
        (bound.map fun b => .bindRaw b.1 b.2)).render =
      ((ofText text).run (steps ++ bound.map fun b => .bind b.1 b.2)).render := by
  refine ⟨fun s => render_run_eq_ok_iff, render_run_eq_error_iff,
    Placeholder.flatMap_source_segments _ _, fun steps' h => Placeholder.segments_congr h _, ?_, ?_⟩
  · rw [render_eq_replace, text_run]
  · intro q bound
    rw [run_bindRaw, render_setRaw, run_append]

/-- A placeholder that begins another one, a value that looks like a placeholder, and a value that
cannot be quoted behind the empty placeholder. -/
example : ((ofText ":é :éa :b").run [.bind ":é" (.text ":b"), .bind "" (.float .nan),
    .bindAll [(":éa", .int 1), (":b", .null), (":éa", .int 2)]]).render = .ok "':b' 2 NULL" := by
  decide +kernel

end Template

end SearchQL
