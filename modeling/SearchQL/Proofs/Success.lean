import Mathlib.Data.List.Forall2
import SearchQL.Error.Basic

/-!
# Computations that have a result

When a computation made of others has a result, and what the result is like: a sequence has one if
each of its steps has, and a list of computations if each of its members has.

* `Succeeds` is the notion, and `not_succeeds_iff` its negation; `succeeds_map`, `succeeds_bind`,
  `succeeds_both` and `succeeds_list` are the rules.
* `ok_map_iff`, `ok_bind_iff`, `ok_both_iff` and `ok_list_iff` say what the result is.
* `error_bind_iff` and `error_list_iff` say with which error they fail, and `fault?` is that error.
* `Yields` says something about the result if there is one, with the rules `Yields.map`,
  `Yields.bind`, `Yields.cons` and `yields_list`.
-/

namespace SearchQL

variable {α β γ : Type}

/-- A computation with a result. -/
def Succeeds (x : Except Error α) : Prop := ∃ a, x = .ok a

@[simp] theorem succeeds_ok (a : α) : Succeeds (.ok a : Except Error α) := ⟨a, rfl⟩

@[simp] theorem not_succeeds_error (e : Error) : ¬ Succeeds (.error e : Except Error α) := nofun

/-- What has no result fails with an error. -/
theorem not_succeeds_iff {x : Except Error α} : ¬ Succeeds x ↔ ∃ e, x = .error e := by
  cases x with
  | error e => exact ⟨fun _ => ⟨e, rfl⟩, fun _ => not_succeeds_error e⟩
  | ok a => exact ⟨fun h => absurd (succeeds_ok a) h, nofun⟩

@[simp] theorem succeeds_map {x : Except Error α} {f : α → β} :
    Succeeds (x.map f) ↔ Succeeds x := by
  cases x with
  | error e => exact ⟨nofun, nofun⟩
  | ok a => exact ⟨fun _ => succeeds_ok a, fun _ => succeeds_ok (f a)⟩

theorem succeeds_bind {x : Except Error α} {f : α → Except Error β} :
    Succeeds (x >>= f) ↔ ∃ a, x = .ok a ∧ Succeeds (f a) := by
  cases x with
  | error e => exact ⟨nofun, nofun⟩
  | ok a =>
    constructor
    · intro h
      exact ⟨a, rfl, h⟩
    · rintro ⟨b, hb, h⟩
      cases hb
      exact h

/-- A sequence whose further steps do not depend on the first one. -/
theorem succeeds_bind_of_iff {x : Except Error α} {f : α → Except Error β} {P : Prop}
    (h : ∀ a, Succeeds (f a) ↔ P) : Succeeds (x >>= f) ↔ Succeeds x ∧ P := by
  rw [succeeds_bind]
  constructor
  · rintro ⟨a, ha, hf⟩
    exact ⟨⟨a, ha⟩, (h a).1 hf⟩
  · rintro ⟨⟨a, ha⟩, hP⟩
    exact ⟨a, ha, (h a).2 hP⟩

theorem succeeds_both {x : Except Error α} {y : Except Error β} {f : α → β → γ} :
    Succeeds (do return f (← x) (← y)) ↔ Succeeds x ∧ Succeeds y :=
  succeeds_bind_of_iff fun a =>
    (succeeds_map (f := f a) : Succeeds (y.map (f a)) ↔ Succeeds y)

/-- A function that goes through a list and gives up at the first failure. -/
theorem succeeds_list {P : α → Prop} {r : List α → Except Error β}
    (hnil : Succeeds (r [])) (hcons : ∀ a as, Succeeds (r (a :: as)) ↔ P a ∧ Succeeds (r as))
    (as : List α) : Succeeds (r as) ↔ ∀ a ∈ as, P a := by
  induction as with
  | nil => simp [hnil]
  | cons a as ih => rw [hcons, ih, List.forall_mem_cons]

/-! ## What the result is -/

theorem ok_map_iff {x : Except Error α} {f : α → β} {b : β} :
    x.map f = .ok b ↔ ∃ a, x = .ok a ∧ f a = b := by
  cases x with
  | error e => exact ⟨nofun, nofun⟩
  | ok a =>
    constructor
    · intro h
      exact ⟨a, rfl, Except.ok.inj h⟩
    · rintro ⟨_, ⟨⟩, rfl⟩
      rfl

theorem ok_bind_iff {x : Except Error α} {f : α → Except Error β} {b : β} :
    x >>= f = .ok b ↔ ∃ a, x = .ok a ∧ f a = .ok b := by
  cases x with
  | error e => exact ⟨nofun, nofun⟩
  | ok a =>
    constructor
    · intro h
      exact ⟨a, rfl, h⟩
    · rintro ⟨_, ⟨⟩, h⟩
      exact h

/-- Two results make one exactly if both are there. -/
theorem ok_both_iff {x : Except Error α} {y : Except Error β} {f : α → β → γ} {c : γ} :
    (do return f (← x) (← y)) = .ok c ↔ ∃ a b, x = .ok a ∧ y = .ok b ∧ f a b = c := by
  have hy (a : α) : y.map (f a) = .ok c ↔ ∃ b, y = .ok b ∧ f a b = c := ok_map_iff
  refine ok_bind_iff.trans (exists_congr fun a => ?_)
  rw [exists_and_left]
  exact and_congr_right fun _ => hy a

/-- A function that goes through a list gives the results of its members, in order. -/
theorem ok_list_iff {f : α → Except Error β} {r : List α → Except Error (List β)}
    (hnil : r [] = .ok []) (hcons : ∀ a as, r (a :: as) = do return (← f a) :: (← r as))
    {as : List α} {bs : List β} :
    r as = .ok bs ↔ List.Forall₂ (fun a b => f a = .ok b) as bs := by
  induction as generalizing bs with
  | nil =>
    rw [hnil, List.forall₂_nil_left_iff]
    exact ⟨fun h => (Except.ok.inj h).symm, fun h => by rw [h]⟩
  | cons a as ih =>
    rw [hcons, ok_both_iff, List.forall₂_cons_left_iff]
    constructor
    · rintro ⟨b, rest, hb, hrest, rfl⟩
      exact ⟨b, rest, hb, ih.1 hrest, rfl⟩
    · rintro ⟨b, rest, hb, hrest, rfl⟩
      exact ⟨b, rest, hb, ih.2 hrest, rfl⟩

/-- A function that goes through a list has no results only for no members. -/
theorem isEmpty_eq_of_ok {f : α → Except Error β} {r : List α → Except Error (List β)}
    (hnil : r [] = .ok []) (hcons : ∀ a as, r (a :: as) = do return (← f a) :: (← r as))
    {as : List α} {bs : List β} (h : r as = .ok bs) : bs.isEmpty = as.isEmpty := by
  cases (ok_list_iff hnil hcons).1 h with
  | nil => rfl
  | cons => rfl

/-! ## Which error is given -/

theorem error_map_iff {x : Except Error α} {f : α → β} {e : Error} :
    x.map f = .error e ↔ x = .error e := by
  cases x with
  | error e' => simp [Except.map]
  | ok a => exact ⟨nofun, nofun⟩

theorem error_bind_iff {x : Except Error α} {f : α → Except Error β} {e : Error} :
    x >>= f = .error e ↔ x = .error e ∨ ∃ a, x = .ok a ∧ f a = .error e := by
  cases x with
  | error e' =>
    constructor
    · rintro ⟨⟩
      exact .inl rfl
    · rintro (⟨⟨⟩⟩ | ⟨_, ⟨⟩, _⟩)
      rfl
  | ok a =>
    constructor
    · intro h
      exact .inr ⟨a, rfl, h⟩
    · rintro (⟨⟨⟩⟩ | ⟨_, ⟨⟩, h⟩)
      exact h

/-- A function that goes through a list fails with the error of the first member that has no
result. -/
theorem error_list_iff {f : α → Except Error β} {r : List α → Except Error (List β)}
    (hnil : r [] = .ok []) (hcons : ∀ a as, r (a :: as) = do return (← f a) :: (← r as))
    {as : List α} {e : Error} :
    r as = .error e ↔ ∃ before a after, as = before ++ a :: after ∧
      (∀ b ∈ before, Succeeds (f b)) ∧ f a = .error e := by
  induction as with
  | nil =>
    rw [hnil]
    exact ⟨nofun, fun ⟨_, _, _, heq, _⟩ => absurd heq (List.append_ne_nil_of_right_ne_nil _
      (List.cons_ne_nil _ _)).symm⟩
  | cons a as ih =>
    have hrest (b : β) (ha : f a = .ok b) : r (a :: as) = .error e ↔ r as = .error e := by
      rw [hcons, ha]
      cases r as with
      | ok bs => exact ⟨nofun, nofun⟩
      | error e' => rfl
    constructor
    · intro h
      cases ha : f a with
      | error e' =>
        rw [hcons, ha] at h
        cases h
        exact ⟨[], a, as, rfl, List.forall_mem_nil _, ha⟩
      | ok b =>
        obtain ⟨before, a', after, rfl, hbefore, ha'⟩ := ih.1 ((hrest b ha).1 h)
        exact ⟨a :: before, a', after, rfl, List.forall_mem_cons.2 ⟨⟨b, ha⟩, hbefore⟩, ha'⟩
    · rintro ⟨before, a', after, heq, hbefore, ha'⟩
      cases before with
      | nil =>
        cases heq
        rw [hcons, ha']
        rfl
      | cons b before =>
        cases heq
        obtain ⟨⟨c, hc⟩, hbefore⟩ := List.forall_mem_cons.1 hbefore
        exact (hrest c hc).2 (ih.2 ⟨before, a', after, rfl, hbefore, ha'⟩)

/-- The error of a computation without a result. -/
def fault? : Except Error α → Option Error
  | .ok _ => none
  | .error e => some e

theorem fault?_eq_some_iff {x : Except Error α} {e : Error} : fault? x = some e ↔ x = .error e := by
  cases x <;> simp [fault?]

@[simp] theorem fault?_map (x : Except Error α) (f : α → β) : fault? (x.map f) = fault? x := by
  cases x <;> rfl

/-- Of two computations the first to fail gives the error. -/
theorem fault?_both (x : Except Error α) (y : Except Error β) (f : α → β → γ) :
    fault? (do return f (← x) (← y)) = (fault? x).or (fault? y) := by
  cases x <;> cases y <;> rfl

/-! ## What the result is like -/

/-- A computation whose result, if there is one, is like this. -/
def Yields (P : α → Prop) (x : Except Error α) : Prop := ∀ a, x = .ok a → P a

namespace Yields

variable {P : α → Prop} {Q : β → Prop} {x : Except Error α}

theorem ok {a : α} (h : P a) : Yields P (.ok a) := by
  rintro _ ⟨⟩
  exact h

theorem error (e : Error) : Yields P (.error e) := nofun

theorem imp {P' : α → Prop} (h : Yields P x) (hP : ∀ a, P a → P' a) : Yields P' x :=
  fun a ha => hP a (h a ha)

theorem bind {f : α → Except Error β} (h : Yields P x) (hf : ∀ a, P a → Yields Q (f a)) :
    Yields Q (x >>= f) := by
  cases x with
  | error e => exact error e
  | ok a => exact hf a (h a rfl)

theorem map {f : α → β} (h : Yields P x) (hf : ∀ a, P a → Q (f a)) : Yields Q (x.map f) := by
  cases x with
  | error e => exact error e
  | ok a => exact ok (hf a (h a rfl))

/-- A list of results, one after the other. -/
theorem cons {y : Except Error (List α)} (h : Yields P x) (h' : Yields (∀ a ∈ ·, P a) y) :
    Yields (∀ a ∈ ·, P a) (do return (← x) :: (← y)) :=
  h.bind fun _ ha => h'.bind fun _ has => ok (List.forall_mem_cons.2 ⟨ha, has⟩)

end Yields

/-- A function that goes through a list, one result for each member. -/
theorem yields_list {P : β → Prop} {f : α → Except Error β} {r : List α → Except Error (List β)}
    (hnil : r [] = .ok []) (hcons : ∀ a as, r (a :: as) = do return (← f a) :: (← r as))
    {as : List α} (h : ∀ a ∈ as, Yields P (f a)) : Yields (∀ b ∈ ·, P b) (r as) := by
  induction as with
  | nil =>
    rw [hnil]
    exact .ok (by simp)
  | cons a as ih =>
    rw [hcons]
    exact (h a (by simp)).cons (ih fun b hb => h b (by simp [hb]))

end SearchQL
