import Mathlib.Data.List.Forall2
import SearchQL.Proofs.Alike
import SearchQL.Proofs.Redact
import SearchQL.Query.Statement

/-!
# Statements over clauses that are alike

Two computations have the same outcome if both fail with the same error or both succeed with
related results. Clause by clause this carries over from the clauses to the statement of every
kind.

* `SameOutcome` is the relation, with its rules for `map` and `bind`.
* `Clauses.Agree` relates the clauses of two queries.
* `Clauses.Agree.statement` is the result: statements over such clauses have the same outcome, and
  their texts are alike.
-/

namespace SearchQL

/-! ## Outcomes -/

/-- Both sides fail with the same error, or both succeed with related results. -/
inductive SameOutcome {ε α β : Type} (R : α → β → Prop) : Except ε α → Except ε β → Prop where
  | ok {a : α} {b : β} (h : R a b) : SameOutcome R (.ok a) (.ok b)
  | error (e : ε) : SameOutcome R (.error e) (.error e)

namespace SameOutcome

variable {ε α α' β β' : Type} {R : α → α' → Prop} {S : β → β' → Prop}
variable {x : Except ε α} {x' : Except ε α'}

theorem bind {f : α → Except ε β} {f' : α' → Except ε β'} (h : SameOutcome R x x')
    (hf : ∀ a a', R a a' → SameOutcome S (f a) (f' a')) : SameOutcome S (x >>= f) (x' >>= f') := by
  cases h with
  | ok h => exact hf _ _ h
  | error e => exact .error e

theorem map {f : α → β} {f' : α' → β'} (h : SameOutcome R x x')
    (hf : ∀ a a', R a a' → S (f a) (f' a')) : SameOutcome S (x.map f) (x'.map f') := by
  cases h with
  | ok h => exact .ok (hf _ _ h)
  | error e => exact .error e

theorem mono {R' : α → α' → Prop} (h : SameOutcome R x x') (hR : ∀ a a', R a a' → R' a a') :
    SameOutcome R' x x' := by
  cases h with
  | ok h => exact .ok (hR _ _ h)
  | error e => exact .error e

/-- The outcome of a list is that of its head and, if there is one, that of its tail. -/
theorem cons {y : Except ε (List α)} {y' : Except ε (List α')} (h : SameOutcome R x x')
    (h' : SameOutcome (List.Forall₂ R) y y') :
    SameOutcome (List.Forall₂ R) (do return (← x) :: (← y)) (do return (← x') :: (← y')) :=
  h.bind fun _ _ ha => h'.bind fun _ _ has => .ok (.cons ha has)

/-- Texts that are alike to some texts are alike to themselves. -/
theorem self {x x' : Except ε (List String)} (h : SameOutcome (List.Forall₂ Alike) x x') :
    SameOutcome (fun ss ts => ss = ts ∧ List.Forall₂ Alike ss ts) x x := by
  cases h with
  | error e => exact .error e
  | ok h =>
    refine .ok ⟨rfl, ?_⟩
    induction h with
    | nil => exact .nil
    | cons hst _ ih => exact .cons hst.self ih

end SameOutcome

/-! ## Clauses -/

/-- The clauses of two queries of a kind that differ at most in literals. The columns that a
selection writes are the same. -/
structure Clauses.Agree (kind : Option Kind) (c c' : Clauses) : Prop where
  columns : kind.any Kind.selects = true →
    SameOutcome (fun ss ts => ss = ts ∧ List.Forall₂ Alike ss ts) c.columns c'.columns
  distinct : c.distinct = c'.distinct
  indexes : SameOutcome (List.Forall₂ Alike) c.indexes c'.indexes
  search : Option.Rel Alike c.search c'.search
  filters : Option.Rel (SameOutcome Alike) c.filters c'.filters
  groupBy : SameOutcome (List.Forall₂ Alike) c.groupBy c'.groupBy
  having : Option.Rel (SameOutcome Alike) c.having c'.having
  orderBy : SameOutcome (List.Forall₂ Alike) c.orderBy c'.orderBy
  limit : c.limit = c'.limit
  offset : c.offset = c'.offset
  options : List.Forall₂ Alike c.options c'.options
  facets : SameOutcome (List.Forall₂ Alike) c.facets c'.facets
  target : Option.Rel (SameOutcome Alike) c.target c'.target
  fields : SameOutcome (List.Forall₂ Alike) c.fields c'.fields
  input : SameOutcome Alike c.input c'.input
  assignments : SameOutcome (List.Forall₂ Alike) c.assignments c'.assignments
  raw : Option.Rel (SameOutcome Alike) c.raw c'.raw

namespace Clauses.Agree

/-! ## Parts of statements -/

theorem listed (keyword : String) {ss ts : List String} (h : List.Forall₂ Alike ss ts)
    (hkeyword : Bare keyword) : Alike (listed keyword ss) (listed keyword ts) := by
  unfold Clauses.listed
  cases h with
  | nil => exact .of_bare bare_empty
  | cons hst hrest =>
    exact (Alike.of_bare hkeyword).append (.joinWith (.word ", " (by decide)) (.cons hst hrest))

theorem conditions (keyword : String) {x y : Option (Except Error String)}
    (h : Option.Rel (SameOutcome Alike) x y) (hkeyword : Bare keyword) :
    SameOutcome Alike (conditions keyword x) (conditions keyword y) := by
  cases h with
  | none => exact .ok (.of_bare bare_empty)
  | some h => exact h.map fun _ _ hst => (Alike.of_bare hkeyword).append hst

/-- A natural number has no quotes. -/
theorem number (n : Nat) : Alike (toString n) (toString n) := by
  refine .of_bare fun c hc => ?_
  have hdigit : c.isDigit = true := by
    rw [Nat.toString_eq_repr, Nat.toList_repr] at hc
    exact Nat.isDigit_of_mem_toDigits (by decide) (by decide) hc
  constructor
  · rintro rfl
    exact absurd hdigit (by decide)
  · rintro rfl
    exact absurd hdigit (by decide)

theorem limitText (limit : Option Nat) : Alike (limitText limit) (limitText limit) := by
  cases limit with
  | none => exact .word "" (by decide)
  | some n => exact .append (.word " LIMIT " (by decide)) (number n)

theorem window (limit offset : Option Nat) : Alike (window limit offset) (window limit offset) := by
  cases limit with
  | none => exact limitText none
  | some n =>
    cases offset with
    | none => exact limitText (some n)
    | some m =>
      have hoffset := (Alike.word " LIMIT " (by decide)).append (number m)
      exact (hoffset.append (.word ", " (by decide))).append (number n)

theorem facetText {ss ts : List String} (h : List.Forall₂ Alike ss ts) :
    Alike (facetText ss) (facetText ts) := by
  refine .joinWith (.of_bare bare_empty) ?_
  rw [List.forall₂_map_left_iff, List.forall₂_map_right_iff]
  exact h.imp fun _ _ hst => .append (.word " FACET " (by decide)) hst

/-- Without repetitions a list of the same texts stays the same. -/
theorem selected {ss : List String} (h : ∀ s ∈ ss, Alike s s) :
    Alike (selected ss) (selected ss) := by
  unfold Clauses.selected
  split
  · exact .word "*" (by decide)
  · refine .joinWith (.word ", " (by decide)) ?_
    rw [List.forall₂_same]
    intro s hs
    exact h s (by simpa using hs)

/-! ## Kinds of statements -/

variable {kind : Option Kind} {c c' : Clauses}

theorem selectionFilter (h : Agree kind c c') :
    SameOutcome Alike c.selectionFilter c'.selectionFilter := by
  have hsearch := h.search
  unfold Clauses.selectionFilter
  revert hsearch
  generalize c.search = search
  generalize c'.search = search'
  intro hsearch
  cases hsearch with
  | none => exact conditions " WHERE " h.filters (by decide)
  | some hst =>
    refine (conditions " AND " h.filters (by decide)).map fun _ _ hrest => ?_
    have hmatch := (Alike.word " WHERE MATCH(" (by decide)).append hst
    exact (hmatch.append (.word ")" (by decide))).append hrest

theorem selection (h : Agree kind c c') (hkind : kind.any Kind.selects = true) :
    SameOutcome Alike c.selection c'.selection := by
  refine (h.columns hkind).bind fun columns _ ⟨hcolumns, hsame⟩ => ?_
  subst hcolumns
  refine h.indexes.bind fun _ _ hindexes => h.selectionFilter.bind fun _ _ hfilter => ?_
  refine h.groupBy.bind fun _ _ hgroup => ?_
  refine (conditions " HAVING " h.having (by decide)).bind fun _ _ hhaving => ?_
  refine h.orderBy.bind fun _ _ horder => h.facets.bind fun _ _ hfacets => .ok ?_
  rw [← h.distinct, ← h.limit, ← h.offset]
  have hhead : Alike ("SELECT " ++ (if c.distinct then "DISTINCT " else ""))
      ("SELECT " ++ (if c.distinct then "DISTINCT " else "")) := by
    cases c.distinct with
    | true => exact .word ("SELECT " ++ "DISTINCT ") (by decide)
    | false => exact .word ("SELECT " ++ "") (by decide)
  rw [List.forall₂_same] at hsame
  have hselected := selected hsame
  have hfrom := (hhead.append hselected).append (listed " FROM " hindexes (by decide))
  have hwhere := (hfrom.append hfilter).append (listed " GROUP BY " hgroup (by decide))
  have hby := (hwhere.append hhaving).append (listed " ORDER BY " horder (by decide))
  have hlimit := hby.append (window c.limit c.offset)
  exact (hlimit.append (listed " OPTION " h.options (by decide))).append (facetText hfacets)

theorem insertion (h : Agree kind c c') (keyword : String)
    (hkeyword : Bare keyword) :
    SameOutcome Alike (c.insertion keyword) (c'.insertion keyword) := by
  have htarget := h.target
  unfold Clauses.insertion
  revert htarget
  generalize c.target = target
  generalize c'.target = target'
  intro htarget
  cases htarget with
  | none => exact .error _
  | some htarget =>
    refine h.fields.bind fun _ _ hfields => htarget.bind fun _ _ htext => ?_
    refine h.input.bind fun _ _ hinput => .ok ?_
    have hhead := (Alike.of_bare hkeyword).append (.word " " (by decide))
    have hname := (hhead.append htext).append (.word " (" (by decide))
    have hlist := hname.append (.joinWith (.word ", " (by decide)) hfields)
    exact (hlist.append (.word ") " (by decide))).append hinput

theorem changeTail (h : Agree kind c c') : SameOutcome Alike c.changeTail c'.changeTail := by
  refine (conditions " WHERE " h.filters (by decide)).bind fun _ _ hfilter => ?_
  refine h.orderBy.bind fun _ _ horder => .ok ?_
  rw [← h.limit]
  exact (hfilter.append (listed " ORDER BY " horder (by decide))).append (limitText c.limit)

theorem updateText (h : Agree kind c c') {target target' : Except Error String}
    (htarget : SameOutcome Alike target target')
    {assignments assignments' : Except Error (List String)}
    (hassignments : SameOutcome (List.Forall₂ Alike) assignments assignments') :
    SameOutcome Alike
      (do
        let target ← target
        let assignments ← assignments
        let tail ← c.changeTail
        return "UPDATE " ++ target ++ " SET " ++ SearchQL.joinWith ", " assignments ++ tail)
      (do
        let target ← target'
        let assignments ← assignments'
        let tail ← c'.changeTail
        return "UPDATE " ++ target ++ " SET " ++ SearchQL.joinWith ", " assignments ++ tail) := by
  refine htarget.bind fun _ _ htext => hassignments.bind fun _ _ htexts => ?_
  refine h.changeTail.bind fun _ _ htail => .ok ?_
  have hhead := (Alike.word "UPDATE " (by decide)).append htext
  have hset := hhead.append (.word " SET " (by decide))
  exact (hset.append (.joinWith (.word ", " (by decide)) htexts)).append htail

theorem update (h : Agree kind c c') : SameOutcome Alike c.update c'.update := by
  have htarget := h.target
  have hassignments := h.assignments
  unfold Clauses.update
  revert htarget hassignments
  generalize c.target = target
  generalize c'.target = target'
  generalize c.assignments = assignments
  generalize c'.assignments = assignments'
  intro htarget hassignments
  cases htarget with
  | none => exact .error _
  | some htarget =>
    -- Without assignments the statement fails before its target is looked at.
    cases hassignments with
    | error e => exact h.updateText htarget (.error e)
    | ok htexts =>
      cases htexts with
      | nil => exact .error _
      | cons hst hrest => exact h.updateText htarget (.ok (.cons hst hrest))

theorem deletion (h : Agree kind c c') : SameOutcome Alike c.deletion c'.deletion := by
  have htarget := h.target
  unfold Clauses.deletion
  revert htarget
  generalize c.target = target
  generalize c'.target = target'
  intro htarget
  cases htarget with
  | none => exact .error _
  | some htarget =>
    refine htarget.bind fun _ _ htext => h.changeTail.bind fun _ _ htail => .ok ?_
    have hhead := (Alike.word "DELETE FROM " (by decide)).append htext
    exact hhead.append htail

theorem rawText (h : Agree kind c c') : SameOutcome Alike c.rawText c'.rawText := by
  have hraw := h.raw
  unfold Clauses.rawText
  revert hraw
  generalize c.raw = raw
  generalize c'.raw = raw'
  intro hraw
  cases hraw with
  | none => exact .error _
  | some h => exact h

/-! ## All kinds -/

/-- **Statements over clauses that are alike** fail with the same error, or have texts that are
alike. -/
theorem statement (h : Agree kind c c') :
    SameOutcome Alike (c.statement kind) (c'.statement kind) := by
  rcases kind with _ | kind
  · exact .error _
  · cases kind with
    | raw => exact h.rawText
    | select => exact h.selection rfl
    | multiSelect => exact h.selection rfl
    | insert => exact h.insertion "INSERT INTO" (by decide)
    | replace => exact h.insertion "REPLACE INTO" (by decide)
    | update => exact h.update
    | delete => exact h.deletion

end Clauses.Agree

end SearchQL
