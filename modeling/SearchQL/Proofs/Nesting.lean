import SearchQL.Proofs.Grouping
import SearchQL.Proofs.Parts

/-!
# The text of a group, bracket by bracket

The text of a group is written in one walk over its entries, which remembers whether anything was
written and whether a bracket was just opened. It is the text that a recursion over the tree of the
group gives, in which only the first item of a row stands without its logic.

* `Forest.render` is the recursion, with `Forest.renderFurther` for the items behind the first.
* `Condition.FirstFault` is the error of the first condition without a text.
* `Group.walk_eq_render` is the result.
-/

namespace SearchQL

/-! ## The recursion -/

namespace Forest

mutual

/-- The text of a row of items, the first of which stands by itself. -/
def render : Forest Logic Condition → Except Error String
  | .nil => .ok ""
  | .clause _ c rest => do return (← c.render) ++ (← rest.renderFurther)
  | .bracket _ inner rest => do return "(" ++ (← inner.render) ++ ")" ++ (← rest.renderFurther)

/-- The text of items behind the first one, each with its logic before it. -/
def renderFurther : Forest Logic Condition → Except Error String
  | .nil => .ok ""
  | .clause logic c rest => do
    return " " ++ logic.word ++ " " ++ (← c.render) ++ (← rest.renderFurther)
  | .bracket logic inner rest => do
    return " " ++ logic.word ++ " " ++ "(" ++ (← inner.render) ++ ")" ++ (← rest.renderFurther)

end

/-- If all conditions have texts, the recursion gives the text of the tree of texts. -/
theorem render_eq_text {tree : Forest Logic Condition}
    (h : tree.All fun c => c.render = .ok c.text) :
    tree.render = .ok ((tree.map Condition.text).text false) ∧
      tree.renderFurther = .ok ((tree.map Condition.text).text true) := by
  induction tree with
  | nil => exact ⟨rfl, rfl⟩
  | clause logic c rest ih =>
    obtain ⟨hc, hrest⟩ := h
    rw [render, renderFurther, hc, (ih hrest).2]
    exact ⟨rfl, rfl⟩
  | bracket logic inner rest ihinner ihrest =>
    obtain ⟨hinner, hrest⟩ := h
    rw [render, renderFurther, (ihinner hinner).1, (ihrest hrest).2]
    exact ⟨rfl, rfl⟩

end Forest

/-! ## Errors -/

namespace Condition

/-- The error of the first condition among entries that has no text. -/
def FirstFault (entries : List (Entry Condition)) (e : Error) : Prop :=
  ∃ before logic c after, entries = before ++ .clause logic c :: after ∧
    (∀ logic' c', .clause logic' c' ∈ before → Succeeds c'.render) ∧ c.render = .error e

theorem fault?_renderEntries_clause (logic : Logic) (c : Condition)
    (entries : List (Entry Condition)) : fault? (renderEntries (.clause logic c :: entries)) =
      (fault? c.render).or (fault? (renderEntries entries)) :=
  fault?_both c.render (renderEntries entries) fun text texts => Entry.clause logic text :: texts

theorem fault?_renderEntries_append (es fs : List (Entry Condition)) :
    fault? (renderEntries (es ++ fs)) =
      (fault? (renderEntries es)).or (fault? (renderEntries fs)) := by
  induction es with
  | nil => rfl
  | cons e es ih =>
    cases e with
    | opened logic => simp [renderEntries, ih]
    | closed => simp [renderEntries, ih]
    | clause logic c =>
      rw [List.cons_append, fault?_renderEntries_clause, fault?_renderEntries_clause, ih,
        Option.or_assoc]

theorem FirstFault.cons {entry : Entry Condition} {entries : List (Entry Condition)} {e : Error}
    (hentry : ∀ logic c, entry = .clause logic c → Succeeds c.render) (h : FirstFault entries e) :
    FirstFault (entry :: entries) e := by
  obtain ⟨before, logic, c, after, rfl, hbefore, hc⟩ := h
  refine ⟨entry :: before, logic, c, after, rfl, fun logic' c' hmem => ?_, hc⟩
  rcases List.mem_cons.1 hmem with heq | hmem
  · exact hentry logic' c' heq.symm
  · exact hbefore logic' c' hmem

/-- Rendering entries fails with the error of the first condition without a text. -/
theorem fault?_renderEntries_iff {entries : List (Entry Condition)} {e : Error} :
    fault? (renderEntries entries) = some e ↔ FirstFault entries e := by
  constructor
  · intro h
    induction entries with
    | nil => cases h
    | cons entry entries ih =>
      cases entry with
      | opened logic =>
        rw [renderEntries, fault?_map] at h
        exact (ih h).cons (by simp)
      | closed =>
        rw [renderEntries, fault?_map] at h
        exact (ih h).cons (by simp)
      | clause logic c =>
        rw [fault?_renderEntries_clause] at h
        cases hc : c.render with
        | error e' =>
          rw [hc] at h
          cases h
          exact ⟨[], logic, c, entries, rfl, by simp, hc⟩
        | ok text =>
          rw [hc] at h
          refine (ih h).cons fun logic' c' heq => ?_
          cases heq
          exact ⟨text, hc⟩
  · rintro ⟨before, logic, c, after, rfl, hbefore, hc⟩
    have hnone : fault? (renderEntries before) = none := by
      obtain ⟨texts, htexts⟩ := (succeeds_renderEntries before).2 hbefore
      rw [htexts]
      rfl
    rw [fault?_renderEntries_append, fault?_renderEntries_clause, hnone, hc]
    rfl

end Condition

/-- The recursion fails as the walk does: it comes to the conditions in the same order. -/
theorem Forest.fault?_render (tree : Forest Logic Condition) :
    fault? tree.render = fault? (Condition.renderEntries tree.flatten) ∧
      fault? tree.renderFurther = fault? (Condition.renderEntries tree.flatten) := by
  induction tree with
  | nil => exact ⟨rfl, rfl⟩
  | clause logic c rest ih =>
    rw [flatten_clause, Condition.fault?_renderEntries_clause, ← ih.2]
    exact ⟨fault?_both c.render rest.renderFurther _, fault?_both c.render rest.renderFurther _⟩
  | bracket logic inner rest ihinner ihrest =>
    have hentries : fault? (Condition.renderEntries (bracket logic inner rest).flatten) =
        (fault? inner.render).or (fault? rest.renderFurther) := by
      rw [flatten_bracket, Condition.renderEntries, fault?_map,
        Condition.fault?_renderEntries_append, Condition.renderEntries, fault?_map, ihinner.1,
        ihrest.2]
    rw [hentries]
    exact ⟨fault?_both inner.render rest.renderFurther _,
      fault?_both inner.render rest.renderFurther _⟩

/-! ## The walk -/

namespace Group

/-- A group without open brackets fails as its conditions do. -/
theorem fault?_renderGroup (label : String) {g : Group Condition} (hdepth : g.depth = 0) :
    fault? (Condition.renderGroup label g) = fault? (Condition.renderEntries g.entries) := by
  rw [Condition.renderGroup, balancedText, if_neg (by simp [hdepth]), fault?_map]

/-- **The text of a group is that of the recursion over its tree.** The entries of a group without
open brackets have one tree. If every condition has a text with something in it, then both the walk
over the entries and the recursion give the same text; if one has no text, then both fail with the
error of the first such condition. -/
theorem walk_eq_render {edits : List (Edit Condition)} {g : Group Condition}
    (hrun : run {} edits = g) (hdepth : g.depth = 0) :
    ∃ tree : Forest Logic Condition, tree.flatten = g.entries ∧
      (∀ tree' : Forest Logic Condition, tree'.flatten = g.entries → tree' = tree) ∧
      ∀ label,
        ((∀ logic c, .clause logic c ∈ g.entries → ∃ text, c.render = .ok text ∧ text ≠ "") →
          ∃ text, Condition.renderGroup label g = .ok text ∧ tree.render = .ok text) ∧
        ((∃ logic c, .clause logic c ∈ g.entries ∧ ¬ Succeeds c.render) →
          ∃ e, Condition.FirstFault g.entries e ∧ Condition.renderGroup label g = .error e ∧
            tree.render = .error e) := by
  have hbalanced : Entry.Balanced g.entries := hrun ▸ (sound_run edits).balanced (hrun ▸ hdepth)
  obtain ⟨tree, htree⟩ := Forest.exists_flatten hbalanced
  refine ⟨tree, htree, fun tree' htree' => Forest.flatten_injective (htree'.trans htree.symm),
    fun label => ⟨fun htexts => ?_, fun hnone => ?_⟩⟩
  · have htext : ∀ logic c, .clause logic c ∈ g.entries → c.render = .ok c.text ∧ c.text ≠ "" := by
      intro logic c hmem
      obtain ⟨text, hrender, hne⟩ := htexts logic c hmem
      have heq : c.text = text := by rw [Condition.text, hrender]
      rw [heq]
      exact ⟨hrender, hne⟩
    have hall : tree.All fun c => c.render = .ok c.text := by
      rw [Forest.all_iff, htree]
      exact fun logic c hmem => (htext logic c hmem).1
    exact ⟨_, renderGroup_eq_text hdepth htext htree label, (Forest.render_eq_text hall).1⟩
  · have hfails : ¬ Succeeds (Condition.renderEntries g.entries) := by
      obtain ⟨logic, c, hmem, hc⟩ := hnone
      rw [Condition.succeeds_renderEntries]
      exact fun hall => hc (hall logic c hmem)
    obtain ⟨e, he⟩ := not_succeeds_iff.1 hfails
    have hfault : fault? (Condition.renderEntries g.entries) = some e := fault?_eq_some_iff.2 he
    refine ⟨e, Condition.fault?_renderEntries_iff.1 hfault, ?_, ?_⟩
    · rw [← fault?_eq_some_iff, fault?_renderGroup label hdepth, hfault]
    · rw [← fault?_eq_some_iff, tree.fault?_render.1, htree, hfault]

/-- A clause without a text leaves no trace in the walk: the next one stands as the first. -/
example : layOut false false [.clause .and "", .clause .and "b"] = "b" := rfl

/-- A condition in two brackets, an empty bracket behind it, and another condition. -/
def nested (c c' : Condition) : Group Condition :=
  run {} [.openBracket .or, .openBracket .or, .push .or c, .closeBracket false "WHERE",
    .openBracket .and, .closeBracket false "WHERE", .push .or c', .closeBracket false "WHERE"]

theorem entries_nested (c c' : Condition) : (nested c c').entries =
    [.opened .or, .opened .or, .clause .or c, .closed, .opened .and, .closed, .clause .or c',
      .closed] := rfl

/-- A group whose conditions have texts, and one in which both have none: the first of them gives
the error. -/
theorem walk_eq_render_nested :
    let g := nested ⟨.name "a", .eq, .int 1⟩ ⟨.name "b", .eq, .int 2⟩
    let g' := nested ⟨.name "a", .between, .list []⟩ ⟨.query .empty, .eq, .null⟩
    (∃ tree : Forest Logic Condition, tree.flatten = g.entries ∧
      Condition.renderGroup "WHERE" g = .ok "((`a` = 1) AND () OR `b` = 2)" ∧
      tree.render = .ok "((`a` = 1) AND () OR `b` = 2)") ∧
    ∃ tree : Forest Logic Condition, tree.flatten = g'.entries ∧
      Condition.renderGroup "WHERE" g' = .error (.invalidQuery (.bounds 0)) ∧
      tree.render = .error (.invalidQuery (.bounds 0)) := by
  intro g g'
  constructor
  · have hg : Condition.renderGroup "WHERE" g = .ok "((`a` = 1) AND () OR `b` = 2)" := rfl
    obtain ⟨tree, htree, -, hrender⟩ := walk_eq_render (g := g) rfl rfl
    have htexts : ∀ logic c, .clause logic c ∈ g.entries →
        ∃ text, c.render = .ok text ∧ text ≠ "" := by
      intro logic c hmem
      simp only [g, entries_nested, List.mem_cons, List.not_mem_nil, reduceCtorEq, or_false,
        false_or, Entry.clause.injEq] at hmem
      rcases hmem with ⟨-, rfl⟩ | ⟨-, rfl⟩
      · exact ⟨_, rfl, by decide⟩
      · exact ⟨_, rfl, by decide⟩
    obtain ⟨text, hwalk, htext⟩ := (hrender "WHERE").1 htexts
    rw [hg] at hwalk
    cases hwalk
    exact ⟨tree, htree, hg, htext⟩
  · have hg' : Condition.renderGroup "WHERE" g' = .error (.invalidQuery (.bounds 0)) := rfl
    obtain ⟨tree, htree, -, hrender⟩ := walk_eq_render (g := g') rfl rfl
    obtain ⟨e, -, hwalk, herror⟩ := (hrender "WHERE").2
      ⟨.or, ⟨.query .empty, .eq, .null⟩, by simp [g', entries_nested], nofun⟩
    rw [hg'] at hwalk
    cases hwalk
    exact ⟨tree, htree, hg', herror⟩

end Group

end SearchQL
