import SearchQL.Proofs.Comparison

/-!
# Groups of conditions are read back

The text of a group of readable conditions in balanced brackets determines the group: its tree of
brackets, the logic between neighbours and what every condition says.

* `Condition.renderEntries_eq_map` takes the text of a group to the texts of its conditions.
* `Group.IsReadable` are the groups that are read back, and `Forest.reading` is as what.
* `Group.tree_of_text` is the result.
-/

namespace SearchQL

/-! ## Rendering entries -/

/-- If all conditions have texts, then rendering replaces each condition by its text. -/
theorem Condition.renderEntries_eq_map {es : List (Entry Condition)}
    (h : ∀ logic c, .clause logic c ∈ es → c.render = .ok c.text) :
    Condition.renderEntries es = .ok (es.map (Entry.map Condition.text)) := by
  induction es with
  | nil => rw [Condition.renderEntries, List.map_nil]
  | cons e es ih =>
    have htail := ih fun logic c hmem => h logic c (List.mem_cons_of_mem _ hmem)
    cases e with
    | opened logic =>
      rw [Condition.renderEntries, htail]
      rfl
    | closed =>
      rw [Condition.renderEntries, htail]
      rfl
    | clause logic c =>
      rw [Condition.renderEntries, htail, h logic c List.mem_cons_self]
      rfl

/-- What is read from a tree of conditions. -/
def Forest.reading (tree : Forest Logic Condition) : Forest (Option Logic) Comparison :=
  (tree.map Condition.comparison).forget false

namespace Group

/-! ## Readable groups -/

/-- A group that was made by edits, has no open bracket and holds readable conditions. -/
structure IsReadable (g : Group Condition) : Prop where
  exists_run : ∃ edits, run {} edits = g
  depth_eq : g.depth = 0
  clauses : ∀ logic c, .clause logic c ∈ g.entries → c.IsReadable

theorem IsReadable.exists_flatten {g : Group Condition} (hg : g.IsReadable) :
    ∃ tree : Forest Logic Condition, tree.flatten = g.entries := by
  obtain ⟨edits, rfl⟩ := hg.exists_run
  exact Forest.exists_flatten ((sound_run edits).balanced hg.depth_eq)

/-- The text of a group without an open bracket is the text of its tree, if all its conditions have
texts. -/
theorem renderGroup_eq_text {g : Group Condition} (hdepth : g.depth = 0)
    (hclauses : ∀ logic c, .clause logic c ∈ g.entries → c.render = .ok c.text ∧ c.text ≠ "")
    {tree : Forest Logic Condition} (htree : tree.flatten = g.entries) (label : String) :
    Condition.renderGroup label g = .ok ((tree.map Condition.text).text false) := by
  have hall : tree.All fun c => c.text ≠ "" := by
    rw [Forest.all_iff, htree]
    exact fun logic c hmem => (hclauses logic c hmem).2
  have hentries := Condition.renderEntries_eq_map fun logic c hmem => (hclauses logic c hmem).1
  rw [Condition.renderGroup, balancedText, if_neg (by simp [hdepth]), hentries, ← htree,
    ← Forest.flatten_map]
  change Except.ok (layOut false false _) = _
  rw [Forest.layOut_flatten (.map hall)]

/-- The text of a readable group is the text of its tree, and is read as the tree. -/
theorem IsReadable.exists_render {g : Group Condition} (hg : g.IsReadable)
    {tree : Forest Logic Condition} (htree : tree.flatten = g.entries) (label : String) :
    ∃ text, Condition.renderGroup label g = .ok text ∧
      Forest.read Comparison.read text.toList = some tree.reading := by
  have hall : tree.All Condition.IsReadable := by
    rw [Forest.all_iff, htree]
    exact hg.clauses
  have hreads : tree.All fun c => Forest.ReadsClause Comparison.read c.text c.comparison :=
    hall.imp fun _ => Condition.reads_text
  refine ⟨(tree.map Condition.text).text false, ?_, Forest.read_text hreads⟩
  refine renderGroup_eq_text hg.depth_eq (fun logic c hmem => ?_) htree label
  refine ⟨Condition.render_eq_text (hg.clauses logic c hmem), fun hempty => ?_⟩
  obtain ⟨_, _, hcons, -⟩ := (Condition.reads_text (hg.clauses logic c hmem)).exists_head
  rw [hempty] at hcons
  simp at hcons

/-- A group of readable conditions has one tree, and its text is read as this tree: only the logic
of the first item of each row, second names, the spelling of comparisons with NULL, truth values and
further digits of floats are lost. Groups with the same text have trees that are read alike. -/
theorem tree_of_text {g : Group Condition} (hg : g.IsReadable) :
    ∃ tree : Forest Logic Condition, tree.flatten = g.entries ∧
      (∀ tree' : Forest Logic Condition, tree'.flatten = g.entries → tree' = tree) ∧
      (∀ label, ∃ text, Condition.renderGroup label g = .ok text ∧
        Forest.read Comparison.read text.toList = some tree.reading) ∧
      ∀ (g' : Group Condition) (tree' : Forest Logic Condition) (label label' : String),
        g'.IsReadable → tree'.flatten = g'.entries →
        Condition.renderGroup label g = Condition.renderGroup label' g' →
        tree'.reading = tree.reading := by
  obtain ⟨tree, htree⟩ := hg.exists_flatten
  refine ⟨tree, htree, fun tree' htree' => ?_, hg.exists_render htree, ?_⟩
  · exact Forest.flatten_injective (htree'.trans htree.symm)
  · intro g' tree' label label' hg' htree' hsame
    obtain ⟨text, hrender, hread⟩ := hg.exists_render htree label
    obtain ⟨text', hrender', hread'⟩ := hg'.exists_render htree' label'
    obtain rfl : text = text' := by
      rw [hrender, hrender'] at hsame
      exact Except.ok.inj hsame
    rw [hread] at hread'
    exact (Option.some.inj hread').symm

/-- A range before a joint, a bracket in a bracket, one of them empty, and a text that looks like the
end of a condition. -/
def crowded (logic : Logic) (column : Column) (op : Operator) (last : Value) : Group Condition :=
  run {} [.push logic ⟨column, .between, .list [.int 1, .list [.null]]⟩,
    .openBracket .or, .openBracket logic, .closeBracket false "WHERE",
    .push .and ⟨.name "`", op, .null⟩, .closeBracket true "WHERE",
    .push .and ⟨.name "c", .inList, .list [.text "1) OR (", last]⟩]

/-- The tree of `crowded`. -/
def crowdedTree (logic : Logic) (column : Column) (op : Operator) (last : Value) :
    Forest Logic Condition :=
  .clause logic ⟨column, .between, .list [.int 1, .list [.null]]⟩
    (.bracket .or (.bracket logic .nil (.clause .and ⟨.name "`", op, .null⟩ .nil))
      (.clause .and ⟨.name "c", .inList, .list [.text "1) OR (", last]⟩ .nil))

theorem isReadable_crowded (logic : Logic) {column : Column} {op : Operator} {last : Value}
    (hcolumn : ∃ name, column.base = .name name ∧ name ≠ "") (hop : op ∈ Operator.named)
    (hrange : op ≠ .between) (hlast : last.isLiteral) :
    (crowded logic column op last).IsReadable := by
  have hbetween : Operator.between ∈ Operator.named := by decide
  have hin : Operator.inList ∈ Operator.named ∧ Operator.inList ≠ .between := by decide
  have hbounds : (Value.list [.int 1, .list [.null]]).isLiteral := by decide
  have hitems : (Value.list [.text "1) OR (", last]).isLiteral := by
    simpa [Value.isLiteral, Value.allLiteral] using hlast
  have hname : ∀ name : String, name ≠ "" →
      ∃ name', (Column.name name).base = .name name' ∧ name' ≠ "" := fun name hne => ⟨name, rfl, hne⟩
  have hall : (crowdedTree logic column op last).All Condition.IsReadable := by
    refine ⟨⟨hcolumn, hbetween, hbounds, fun _ => ⟨_, _, rfl⟩⟩, ⟨trivial, ?_, trivial⟩, ?_, trivial⟩
    · exact ⟨hname "`" (by decide), hop, rfl, fun h => absurd h hrange⟩
    · exact ⟨hname "c" (by decide), hin.1, hitems, fun h => absurd h hin.2⟩
  exact ⟨⟨_, rfl⟩, rfl, Forest.all_iff.1 hall⟩

/-- Two groups with the same text, one with a second name, a comparison with NULL, a truth value and
another logic where none is written. -/
theorem tree_of_text_crowded :
    (crowded .or (.aliased (.name "a.*") "b") .ne (.bool true)).IsReadable ∧
    (crowded .and (.name "a.*") .isNot (.text "1")).IsReadable ∧
    (crowdedTree .and (.name "a.*") .isNot (.text "1")).reading =
      (crowdedTree .or (.aliased (.name "a.*") "b") .ne (.bool true)).reading ∧
    ∃ text, Condition.renderGroup "WHERE"
        (crowded .or (.aliased (.name "a.*") "b") .ne (.bool true)) = .ok text ∧
      Forest.read Comparison.read text.toList =
        some (crowdedTree .and (.name "a.*") .isNot (.text "1")).reading := by
  have h : (crowded .or (.aliased (.name "a.*") "b") .ne (.bool true)).IsReadable :=
    isReadable_crowded .or ⟨_, rfl, by decide⟩ (by decide) (by decide) (by decide)
  have h' : (crowded .and (.name "a.*") .isNot (.text "1")).IsReadable :=
    isReadable_crowded .and ⟨_, rfl, by decide⟩ (by decide) (by decide) (by decide)
  obtain ⟨tree, -, hunique, hread, hsame⟩ := tree_of_text h
  obtain rfl := hunique (crowdedTree .or (.aliased (.name "a.*") "b") .ne (.bool true)) rfl
  have hreading := hsame _ (crowdedTree .and (.name "a.*") .isNot (.text "1")) "WHERE" "HAVING"
    h' rfl rfl
  refine ⟨h, h', hreading, ?_⟩
  rw [hreading]
  exact hread "WHERE"

end Group

end SearchQL
