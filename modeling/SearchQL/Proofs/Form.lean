import Mathlib.Data.List.Infix
import SearchQL.Proofs.Forest
import SearchQL.Proofs.Run
import SearchQL.Proofs.Success
import SearchQL.Query.Render

/-!
# Forms with blank inputs

A form has fields in brackets, some of which are left out if their value is blank. Its brackets are
opened before it is known whether anything will stand in them, and those that stay empty are taken
away again when they are closed. So a query gets the conditions that are left of the form, and
brackets around them only.

* `Value.Blank` are the blank values, and `Form.calls` the steps that a form makes.
* `Form.pruned` is what is left of a form, first without blank fields and then without the brackets
  in which nothing is left.
* `Group.closeBracket_flatten` says that a bracket is taken away exactly if its row is empty.
* `Query.form_adds_pruned` is the result.
-/

namespace SearchQL

/-! ## Trees without empty brackets -/

namespace Forest

variable {ℓ α β : Type}

/-- The tree with some of its clauses replaced and the others left out. -/
def filterMap (f : α → Option β) : Forest ℓ α → Forest ℓ β
  | .nil => .nil
  | .clause joint item rest =>
    match f item with
    | some item' => .clause joint item' (rest.filterMap f)
    | none => rest.filterMap f
  | .bracket joint inner rest => .bracket joint (inner.filterMap f) (rest.filterMap f)

/-- A bracket and the items behind it, or only these if there is nothing in the bracket. -/
def enclose (joint : ℓ) (inner rest : Forest ℓ α) : Forest ℓ α :=
  match inner with
  | .nil => rest
  | inner => .bracket joint inner rest

/-- The tree without the brackets in which there is no clause. -/
def dropEmpty : Forest ℓ α → Forest ℓ α
  | .nil => .nil
  | .clause joint item rest => .clause joint item rest.dropEmpty
  | .bracket joint inner rest => enclose joint inner.dropEmpty rest.dropEmpty

theorem enclose_of_ne_nil (joint : ℓ) {inner : Forest ℓ α} (h : inner ≠ .nil)
    (rest : Forest ℓ α) : enclose joint inner rest = .bracket joint inner rest := by
  cases inner with
  | nil => exact absurd rfl h
  | clause | bracket => rfl

theorem flatten_enclose (logic : Logic) (inner rest : Forest Logic α) :
    (enclose logic inner rest).flatten = (enclose logic inner .nil).flatten ++ rest.flatten := by
  cases inner with
  | nil => rfl
  | clause | bracket => simp [enclose]

/-- A row of items does not end with an opening bracket. -/
theorem exists_flatten_eq_concat {tree : Forest Logic α} (h : tree ≠ .nil) :
    ∃ es e, tree.flatten = es ++ [e] ∧ e.isOpened = false := by
  induction tree with
  | nil => exact absurd rfl h
  | clause logic item rest ih =>
    by_cases hrest : rest = .nil
    · subst hrest
      exact ⟨[], .clause logic item, rfl, rfl⟩
    · obtain ⟨es, e, hes, he⟩ := ih hrest
      exact ⟨.clause logic item :: es, e, by rw [flatten_clause, hes]; rfl, he⟩
  | bracket logic inner rest _ ih =>
    by_cases hrest : rest = .nil
    · subst hrest
      exact ⟨.opened logic :: inner.flatten, .closed, rfl, rfl⟩
    · obtain ⟨es, e, hes, he⟩ := ih hrest
      refine ⟨.opened logic :: (inner.flatten ++ .closed :: es), e, ?_, he⟩
      rw [flatten_bracket, hes]
      simp

end Forest

namespace Group

variable {α : Type}

theorem endsOpen_concat (es : List (Entry α)) (e : Entry α) (depth : Nat) :
    endsOpen ⟨es ++ [e], depth⟩ = e.isOpened := by
  rw [endsOpen, List.getLast?_concat]
  cases e <;> rfl

/-- A bracket is taken away when it is closed exactly if there is nothing in it. -/
theorem closeBracket_flatten (es : List (Entry α)) (logic : Logic) (tree : Forest Logic α)
    (depth : Nat) (label : String) :
    closeBracket true label ⟨es ++ [.opened logic] ++ tree.flatten, depth + 1⟩ =
      .ok ⟨es ++ (Forest.enclose logic tree .nil).flatten, depth⟩ := by
  by_cases htree : tree = .nil
  · subst htree
    rw [closeBracket, Forest.flatten_nil, List.append_nil, endsOpen_concat]
    simp [Entry.isOpened, Forest.enclose]
  · obtain ⟨fs, e, hfs, he⟩ := Forest.exists_flatten_eq_concat htree
    have hends : endsOpen ⟨es ++ [.opened logic] ++ tree.flatten, depth + 1⟩ = false := by
      rw [hfs, ← List.append_assoc, endsOpen_concat, he]
    rw [closeBracket, hends, Forest.enclose_of_ne_nil _ htree]
    simp

end Group

/-! ## Empty brackets -/

/-- Somewhere in the entries a bracket is closed as soon as it was opened. -/
def Entry.HasEmpty {α : Type} (es : List (Entry α)) : Prop :=
  ∃ logic, [.opened logic, .closed] <:+: es

namespace Forest

open Entry

variable {α : Type}

/-- A new empty bracket comes about only where one that was just opened is closed. -/
theorem hasEmpty_concat {es : List (Entry α)} {e : Entry α} (h : HasEmpty (es ++ [e])) :
    HasEmpty es ∨ e = .closed ∧ ∃ fs logic, es = fs ++ [.opened logic] := by
  obtain ⟨logic, hinfix⟩ := h
  rcases List.infix_concat_iff.1 hinfix with ⟨fs, hfs⟩ | hinfix
  · right
    have happend : (fs ++ [.opened logic]) ++ [.closed] = es ++ [e] := by simpa using hfs
    obtain ⟨hes, he⟩ := List.append_inj' happend rfl
    exact ⟨(List.singleton_inj.1 he).symm, fs, logic, hes.symm⟩
  · exact .inl ⟨logic, hinfix⟩

/-- Without its empty brackets a row of items adds none. -/
theorem hasEmpty_append_dropEmpty {tree : Forest Logic α} {es : List (Entry α)}
    (h : HasEmpty (es ++ tree.dropEmpty.flatten)) : HasEmpty es := by
  have hkeep {es : List (Entry α)} {e : Entry α} (h : HasEmpty (es ++ [e])) (he : e ≠ .closed) :
      HasEmpty es :=
    (hasEmpty_concat h).resolve_right fun hclosed => he hclosed.1
  induction tree generalizing es with
  | nil => rwa [dropEmpty, flatten_nil, List.append_nil] at h
  | clause logic item rest ih =>
    rw [dropEmpty, flatten_clause, List.append_cons] at h
    exact hkeep (ih h) nofun
  | bracket logic inner rest ihinner ihrest =>
    by_cases hinner : inner.dropEmpty = .nil
    · rw [dropEmpty, hinner, enclose] at h
      exact ihrest h
    · have happend : es ++ (bracket logic inner rest).dropEmpty.flatten =
          (es ++ [.opened logic] ++ inner.dropEmpty.flatten) ++ [.closed] ++
            rest.dropEmpty.flatten := by
        rw [dropEmpty, enclose_of_ne_nil logic hinner]
        simp
      rw [happend] at h
      rcases hasEmpty_concat (ihrest h) with hbefore | ⟨-, fs, logic', hfs⟩
      · exact hkeep (ihinner hbefore) nofun
      · obtain ⟨fs', e, hfs', he⟩ := exists_flatten_eq_concat hinner
        rw [hfs', ← List.append_assoc] at hfs
        obtain ⟨-, he'⟩ := List.append_inj' hfs rfl
        rw [List.singleton_inj.1 he'] at he
        cases he

end Forest

/-! ## Blank values -/

/-- The values that count as not given: NULL, white space and an empty list. -/
inductive Value.Blank : Value → Prop where
  | null : Blank .null
  | text {s : String} (h : ∀ c ∈ s.toList, SearchQL.isBlank c = true) : Blank (.text s)
  | list : Blank (.list [])

theorem Value.isBlank_iff {v : Value} : v.isBlank = true ↔ v.Blank := by
  constructor
  · intro h
    cases v with
    | null => exact .null
    | text s => exact .text (List.all_eq_true.1 h)
    | list items =>
      obtain rfl : items = [] := List.isEmpty_iff.1 h
      exact .list
    | _ => cases h
  · rintro (- | h | -)
    · rfl
    · exact List.all_eq_true.2 h
    · rfl

instance (v : Value) : Decidable v.Blank := decidable_of_iff _ Value.isBlank_iff

/-! ## Forms -/

/-- A field of a form. -/
structure Field where
  condition : Condition
  /-- Whether the field is left out if its value is blank. -/
  optional : Bool

/-- The condition of a field, unless the field is left out. -/
def Field.condition? (field : Field) : Option Condition :=
  if field.optional ∧ field.condition.value.Blank then none else some field.condition

/-- The fields of a form in brackets, each with its logic. -/
abbrev Form := Forest Logic Field

/-- The step that a field makes. -/
def Field.call (logic : Logic) (field : Field) : Call :=
  if field.optional then .filter logic field.condition
  else .condition .filters logic field.condition

namespace Form

/-- The steps that a form makes. Brackets that have stayed empty are taken away. -/
def calls : Form → List Call
  | .nil => []
  | .clause logic field rest => field.call logic :: calls rest
  | .bracket logic inner rest =>
    .openBracket .filters logic :: (calls inner ++ .closeBracket true :: calls rest)

/-- What is left of a form without the fields that are left out, and then without the brackets in
which nothing is left. -/
def pruned (form : Form) : Forest Logic Condition :=
  (form.filterMap Field.condition?).dropEmpty

theorem flatten_pruned_clause (logic : Logic) (field : Field) (rest : Form) :
    (pruned (.clause logic field rest)).flatten =
      field.condition?.toList.map (.clause logic) ++ rest.pruned.flatten := by
  rw [pruned, Forest.filterMap]
  cases field.condition? with
  | none => rfl
  | some c => rfl

theorem flatten_pruned_bracket (logic : Logic) (inner rest : Form) :
    (pruned (.bracket logic inner rest)).flatten =
      (Forest.enclose logic (pruned inner) .nil).flatten ++ (pruned rest).flatten :=
  Forest.flatten_enclose logic _ _

/-- Only the inner bracket is dropped, as the outer one has a field that is never left out. -/
example (c : Condition) :
    let unfilled : Form := .clause .and ⟨.equal (.name "a") .null, true⟩ .nil
    (pruned (.bracket .or (.bracket .and unfilled (.clause .or ⟨c, false⟩ .nil)) .nil)).flatten =
      [.opened .or, .clause .or c, .closed] := rfl

end Form

/-! ## What a form adds -/

namespace Query

/-- The query after a run of steps, none of which may fail. -/
def chain (q : Query) (calls : List Call) : Except Error Query := calls.foldlM apply q

theorem chain_cons {q q' : Query} {call : Call} (h : q.apply call = .ok q') (calls : List Call) :
    q.chain (call :: calls) = q'.chain calls := by
  rw [chain, List.foldlM_cons, h]
  rfl

theorem chain_append {q q' : Query} {calls : List Call} (h : q.chain calls = .ok q')
    (calls' : List Call) : q.chain (calls ++ calls') = q'.chain calls' := by
  rw [chain] at h
  rw [chain, List.foldlM_append, h]
  rfl

/-- Where no step fails, a run that goes on after failures leads to the same query. -/
theorem run_of_chain {q q' : Query} {calls : List Call} (h : q.chain calls = .ok q') :
    q.run calls = q' := by
  induction calls generalizing q with
  | nil => exact Except.ok.inj h
  | cons call calls ih =>
    obtain ⟨q₁, happly, hrest⟩ := ok_bind_iff.1 h
    rw [run_cons, (step_of_ok happly).1]
    exact ih hrest

/-- The query with entries added to the conditions on documents, and the next bracket closed in the
group `scope`. -/
def withEntries (q : Query) (es : List (Entry Condition)) (scope : Scope) : Query :=
  { q with filters := ⟨q.filters.entries ++ es, q.filters.depth⟩, lastOpened := scope }

theorem withEntries_withEntries (q : Query) (es fs : List (Entry Condition))
    (scope scope' : Scope) :
    (q.withEntries es scope).withEntries fs scope' = q.withEntries (es ++ fs) scope' := by
  rw [withEntries, withEntries, withEntries, List.append_assoc]

theorem withEntries_nil (q : Query) : q.withEntries [] q.lastOpened = q := by
  cases q
  rw [withEntries, List.append_nil]

/-- A field adds its condition, unless it is left out. -/
theorem apply_field (q : Query) (logic : Logic) (field : Field) :
    q.apply (field.call logic) =
      .ok (q.withEntries (field.condition?.toList.map (.clause logic)) q.lastOpened) := by
  by_cases hleft : field.optional ∧ field.condition.value.Blank
  · obtain ⟨hoptional, hblank⟩ := hleft
    have hnone : field.condition? = none := if_pos ⟨hoptional, hblank⟩
    have hadd : q.addFilter logic field.condition = q := if_pos (Value.isBlank_iff.2 hblank)
    rw [Field.call, if_pos hoptional, apply, hadd, hnone]
    exact congrArg Except.ok q.withEntries_nil.symm
  · have hsome : field.condition? = some field.condition := if_neg hleft
    have hadd : q.apply (field.call logic) =
        .ok (q.addCondition .filters logic field.condition) := by
      unfold Field.call
      split
      case isTrue hoptional =>
        have hblank : ¬ field.condition.value.isBlank = true := fun h =>
          hleft ⟨hoptional, Value.isBlank_iff.1 h⟩
        exact congrArg Except.ok (if_neg hblank)
      case isFalse => rfl
    rw [hadd, hsome]
    rfl

/-- A bracket that was opened before a row of items is closed behind it, or taken away. -/
theorem apply_closeBracket (q : Query) (logic : Logic) (tree : Forest Logic Condition) :
    ((q.openBracket .filters logic).withEntries tree.flatten .filters).apply (.closeBracket true) =
      .ok (q.withEntries (Forest.enclose logic tree .nil).flatten .filters) := by
  have hclose := Group.closeBracket_flatten q.filters.entries logic tree q.filters.depth
    Scope.filters.keyword
  change Except.map _ (Group.closeBracket true Scope.filters.keyword
    ⟨q.filters.entries ++ [.opened logic] ++ tree.flatten, q.filters.depth + 1⟩) = _
  rw [hclose]
  rfl

/-- A form adds what is left of it, whatever brackets are open before it. -/
theorem chain_calls (form : Form) (q : Query) :
    ∃ scope, (scope = q.lastOpened ∨ scope = .filters) ∧
      q.chain form.calls = .ok (q.withEntries form.pruned.flatten scope) := by
  induction form generalizing q with
  | nil =>
    refine ⟨q.lastOpened, .inl rfl, ?_⟩
    exact congrArg Except.ok q.withEntries_nil.symm
  | clause logic field rest ih =>
    obtain ⟨scope, hscope, hrest⟩ := ih
      (q.withEntries (field.condition?.toList.map (.clause logic)) q.lastOpened)
    refine ⟨scope, hscope, ?_⟩
    rw [Form.calls, chain_cons (q.apply_field logic field), hrest, withEntries_withEntries,
      Form.flatten_pruned_clause]
  | bracket logic inner rest ihinner ihrest =>
    obtain ⟨scope, hscope, hinner⟩ := ihinner (q.openBracket .filters logic)
    obtain rfl : scope = .filters := hscope.elim id id
    have hclose := q.apply_closeBracket logic (Form.pruned inner)
    obtain ⟨scope', hscope', hrest⟩ := ihrest
      (q.withEntries (Forest.enclose logic (Form.pruned inner) .nil).flatten .filters)
    obtain rfl : scope' = .filters := hscope'.elim id id
    refine ⟨.filters, .inr rfl, ?_⟩
    rw [Form.calls, chain_cons rfl, chain_append hinner, chain_cons hclose, hrest,
      withEntries_withEntries, Form.flatten_pruned_bracket]

/-- The text of a query does not depend on the group in which the next bracket is closed. -/
theorem render_withEntries_nil (q : Query) (scope : Scope) :
    (q.withEntries [] scope).render = q.render := by
  have hclauses : (q.withEntries [] scope).clauses = q.clauses := by
    cases q
    rw [withEntries, List.append_nil]
    rfl
  have hkind : (q.withEntries [] scope).kind = q.kind := rfl
  rw [render, render, hclauses, hkind]

/-- **Blank inputs of a form leave no trace.** No step of a form fails, whatever query it is made
on. The conditions on documents get the entries of what is left of the form, and but for the group
in which the next bracket is closed nothing else changes. No bracket without conditions is added,
and if nothing is left of the form, the text of the query is as before. -/
theorem form_adds_pruned (form : Form) (q : Query) :
    ∃ q', q.chain form.calls = .ok q' ∧ q.run form.calls = q' ∧
      q' = { q with
        filters := ⟨q.filters.entries ++ form.pruned.flatten, q.filters.depth⟩
        lastOpened := q'.lastOpened } ∧
      (Entry.HasEmpty q'.filters.entries → Entry.HasEmpty q.filters.entries) ∧
      (form.pruned = .nil → q'.render = q.render) := by
  obtain ⟨scope, -, hchain⟩ := chain_calls form q
  refine ⟨q.withEntries form.pruned.flatten scope, hchain, run_of_chain hchain, rfl, ?_,
    fun hnil => ?_⟩
  · exact Forest.hasEmpty_append_dropEmpty
  · rw [hnil]
    exact q.render_withEntries_nil scope

/-- A form with a bracket inside of another, of which all fields are left blank. -/
def unfilled : Form :=
  .bracket .and
    (.clause .and ⟨.equal (.name "title") (.text " \t"), true⟩
      (.bracket .or (.clause .or ⟨.equal (.name "tags") (.list []), true⟩ .nil) .nil))
    (.clause .or ⟨.equal (.name "year") .null, true⟩ .nil)

/-- A selection with an empty bracket, in which the next bracket is closed among the conditions on
groups. -/
def emptyBracketed : Query :=
  empty.run [.select [], .openBracket .filters .and, .closeBracket false, .openBracket .having .and,
    .closeBracket true]

theorem form_adds_pruned_unfilled :
    ∃ q', emptyBracketed.chain unfilled.calls = .ok q' ∧ Entry.HasEmpty q'.filters.entries ∧
      Entry.HasEmpty emptyBracketed.filters.entries ∧ unfilled.pruned = .nil ∧
      q'.render = .ok "SELECT * WHERE ()" := by
  obtain ⟨q', hchain, -, heq, hempty, hrender⟩ := form_adds_pruned unfilled emptyBracketed
  have hpruned : unfilled.pruned = .nil := rfl
  have hhas : Entry.HasEmpty q'.filters.entries := by
    rw [heq]
    exact ⟨.and, List.infix_rfl⟩
  have htext : emptyBracketed.render = .ok "SELECT * WHERE ()" := rfl
  exact ⟨q', hchain, hhas, hempty hhas, hpruned, (hrender hpruned).trans htext⟩

end Query

end SearchQL
