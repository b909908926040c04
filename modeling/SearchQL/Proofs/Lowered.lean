import Mathlib.Tactic.SplitIfs
import SearchQL.Text.CharClass
import SearchQL.Text.LowerCase

/-!
# Lower case is a fixed point, and a blank cuts it apart

Mapping a text to lower case a second time changes nothing: no run of the table leads to a member of
a run, and a sigma becomes one of two characters that stay. Only a sigma looks at its neighbours,
and it looks no further than to the next blank, so texts on both sides of one are mapped by
themselves.

* `CaseRun.image` is what a run makes of a member, and `CaseRun.clears` tells that it stays as it
  is; `clears_lowerRuns` looks at all runs.
* `Lowered` says that a character is its own lower case; `lowered_of_mem_lowerCase` and
  `lowerCase_of_lowered` are the two halves of the first fact.
* `lowerCase_append_blank` is the second fact.
-/

namespace SearchQL

/-! ## Runs of the table -/

namespace CaseRun

/-- The number of the last member of a run; the first member has number 0. -/
def count (run : CaseRun) : Nat := (run.last - run.first) / run.step

/-- The lower case of the member with number `i`. -/
def image (run : CaseRun) (i : Nat) : Nat :=
  (((run.first + i * run.step : Nat) : Int) + run.distance).toNat

/-- Whether `n` is a member of the run. -/
def has (run : CaseRun) (n : Nat) : Bool :=
  run.first ≤ n && n ≤ run.last && (n - run.first) % run.step = 0

/-- Whether the table leaves what a run leads to as it is. Members are looked at one by one only
where the two ranges meet. -/
def clears (run : CaseRun) : List CaseRun → Bool
  | [] => true
  | other :: rest =>
    Nat.blt (run.image run.count) other.first ||
      (Nat.blt other.last (run.image 0) ||
        (List.range (run.count + 1)).all fun i => !other.has (run.image i)) && clears run rest

/-- Whether a run does not lead to the code point `n`, which is in front of all images or behind. -/
def avoids (run : CaseRun) (n : Nat) : Bool :=
  Nat.blt (run.image run.count) n || Nat.blt n (run.image 0)

theorem image_mono (run : CaseRun) {i j : Nat} (h : i ≤ j) : run.image i ≤ run.image j := by
  have hmul : i * run.step ≤ j * run.step := Nat.mul_le_mul_right _ h
  unfold image
  omega

theorem image_ne_of_avoids {run : CaseRun} {n : Nat} (h : run.avoids n = true) {i : Nat}
    (hi : i ≤ run.count) : run.image i ≠ n := by
  have hfirst := run.image_mono (Nat.zero_le i)
  have hlast := run.image_mono hi
  simp only [avoids, Bool.or_eq_true, Nat.blt_eq] at h
  omega

/-- A member has a number. -/
theorem exists_of_has {run : CaseRun} {n : Nat} (h : run.has n = true) :
    ∃ i ≤ run.count, n = run.first + i * run.step := by
  simp only [has, Bool.and_eq_true, decide_eq_true_eq] at h
  obtain ⟨⟨hfirst, hlast⟩, hstep⟩ := h
  refine ⟨(n - run.first) / run.step, Nat.div_le_div_right (by omega), ?_⟩
  have hdiv := Nat.div_add_mod' (n - run.first) run.step
  omega

end CaseRun

theorem lowerCode_cons_of_not_has {run : CaseRun} {n : Nat} (h : run.has n = false)
    (rest : List CaseRun) : lowerCode (run :: rest) n = n ∨
      lowerCode (run :: rest) n = lowerCode rest n := by
  rw [lowerCode]
  split_ifs with hbefore hin hmember
  · exact .inl rfl
  · have hhas : run.has n = true := by
      simp [CaseRun.has, hin, hmember, Nat.le_of_not_lt hbefore]
    rw [h] at hhas
    cases hhas
  · exact .inl rfl
  · exact .inr rfl

/-- A code point is mapped by a run that it is a member of, or else stays. -/
theorem lowerCode_cases (table : List CaseRun) (n : Nat) :
    lowerCode table n = n ∨
      ∃ run ∈ table, ∃ i ≤ run.count, lowerCode table n = run.image i := by
  induction table with
  | nil => exact .inl rfl
  | cons run rest ih =>
    cases hhas : run.has n with
    | true =>
      obtain ⟨i, hi, hn⟩ := CaseRun.exists_of_has hhas
      simp only [CaseRun.has, Bool.and_eq_true, decide_eq_true_eq] at hhas
      obtain ⟨⟨hfirst, hlast⟩, hstep⟩ := hhas
      refine .inr ⟨run, List.mem_cons_self, i, hi, ?_⟩
      rw [lowerCode, if_neg (Nat.not_lt.2 hfirst), if_pos hlast, if_pos hstep, CaseRun.image, ← hn]
    | false =>
      rcases lowerCode_cons_of_not_has hhas rest with heq | heq
      · exact .inl heq
      · rw [heq]
        refine ih.imp_right ?_
        rintro ⟨run', hrun', h⟩
        exact ⟨run', List.mem_cons_of_mem _ hrun', h⟩

theorem lowerCode_of_clears {run : CaseRun} {table : List CaseRun} (h : run.clears table = true)
    {i : Nat} (hi : i ≤ run.count) : lowerCode table (run.image i) = run.image i := by
  have hfirst := run.image_mono (Nat.zero_le i)
  have hlast := run.image_mono hi
  induction table with
  | nil => rfl
  | cons other rest ih =>
    simp only [CaseRun.clears, Bool.or_eq_true, Bool.and_eq_true, Nat.blt_eq, List.all_eq_true,
      List.mem_range, Bool.not_eq_true'] at h
    rcases h with hbefore | ⟨hother, hrest⟩
    · rw [lowerCode, if_pos (by omega)]
    · have hhas : other.has (run.image i) = false := by
        rcases hother with hbehind | hall
        · have hout : ¬ run.image i ≤ other.last := by omega
          simp [CaseRun.has, hout]
        · exact hall i (Nat.lt_succ_of_le hi)
      rcases lowerCode_cons_of_not_has hhas rest with heq | heq
      · exact heq
      · exact heq.trans (ih hrest)

/-- No run leads to a member of a run, nor to the capital I with a dot. -/
theorem clears_lowerRuns :
    (lowerRuns.all fun run => run.clears lowerRuns && run.avoids 0x130) = true := by
  decide +kernel

/-- The lower case of a code point is its own lower case. -/
theorem lowerCode_lowerCode (n : Nat) :
    lowerCode lowerRuns (lowerCode lowerRuns n) = lowerCode lowerRuns n := by
  rcases lowerCode_cases lowerRuns n with heq | ⟨run, hrun, i, hi, heq⟩
  · rw [heq, heq]
  · have hclears := List.all_eq_true.1 clears_lowerRuns run hrun
    rw [Bool.and_eq_true] at hclears
    rw [heq]
    exact lowerCode_of_clears hclears.1 hi

theorem lowerCode_ne_dotted {n : Nat} (h : n ≠ 0x130) : lowerCode lowerRuns n ≠ 0x130 := by
  rcases lowerCode_cases lowerRuns n with heq | ⟨run, hrun, i, hi, heq⟩
  · rwa [heq]
  · have hclears := List.all_eq_true.1 clears_lowerRuns run hrun
    rw [Bool.and_eq_true] at hclears
    rw [heq]
    exact CaseRun.image_ne_of_avoids hclears.2 hi

/-! ## Characters that stay -/

/-- Whether a character is its own lower case. -/
def Lowered (c : Char) : Prop := lowerChar c = [c]

instance : DecidablePred Lowered := fun c => inferInstanceAs (Decidable (lowerChar c = [c]))

theorem lowered_of_lowerCode {c : Char} (hcode : lowerCode lowerRuns c.toNat = c.toNat)
    (hdotted : c.toNat ≠ 0x130) : Lowered c := by
  rw [Lowered, lowerChar, if_neg hdotted, hcode, Char.ofNat_toNat]

/-- A number that is no code point gives the character with number 0. -/
theorem toNat_ofNat_cases (n : Nat) : (Char.ofNat n).toNat = n ∨ (Char.ofNat n).toNat = 0 := by
  by_cases h : n.isValidChar
  · rw [Char.ofNat, dif_pos h]
    exact .inl rfl
  · rw [Char.ofNat, dif_neg h]
    exact .inr rfl

/-- The lower case of a character is made of characters that stay. -/
theorem lowered_of_mem_lowerChar {c d : Char} (h : d ∈ lowerChar c) : Lowered d := by
  unfold lowerChar at h
  split at h
  case isTrue =>
    rw [List.mem_cons, List.mem_singleton] at h
    rcases h with rfl | rfl <;> decide
  case isFalse hc =>
    obtain rfl := List.mem_singleton.1 h
    rcases toNat_ofNat_cases (lowerCode lowerRuns c.toNat) with htoNat | htoNat
    · refine lowered_of_lowerCode ?_ ?_
      · rw [htoNat, lowerCode_lowerCode]
      · rw [htoNat]
        exact lowerCode_ne_dotted hc
    · refine lowered_of_lowerCode ?_ ?_
      · rw [htoNat]
        decide
      · rw [htoNat]
        decide

/-- A sigma does not stay. -/
theorem Lowered.ne_sigma {c : Char} (h : Lowered c) : c ≠ 'Σ' := by
  rintro rfl
  revert h
  decide

/-! ## Texts -/

theorem lowered_of_mem_lowerFrom {before cs : List Char} {c : Char} (h : c ∈ lowerFrom before cs) :
    Lowered c := by
  induction cs generalizing before with
  | nil => cases h
  | cons d cs ih =>
    rw [lowerFrom, List.mem_append] at h
    rcases h with h | h
    · split at h
      · obtain rfl := List.mem_singleton.1 h
        split <;> decide
      · exact lowered_of_mem_lowerChar h
    · exact ih h

/-- The lower case of a text is made of characters that stay. -/
theorem lowered_of_mem_lowerCase {cs : List Char} {c : Char} (h : c ∈ lowerCase cs) : Lowered c :=
  lowered_of_mem_lowerFrom h

theorem lowerFrom_of_lowered (before : List Char) {cs : List Char} (h : ∀ c ∈ cs, Lowered c) :
    lowerFrom before cs = cs := by
  induction cs generalizing before with
  | nil => rfl
  | cons c cs ih =>
    rw [List.forall_mem_cons] at h
    obtain ⟨hc, hcs⟩ := h
    rw [lowerFrom, if_neg hc.ne_sigma, ih _ hcs, show lowerChar c = [c] from hc,
      List.singleton_append]

/-- A text of characters that stay is its own lower case. -/
theorem lowerCase_of_lowered {cs : List Char} (h : ∀ c ∈ cs, Lowered c) : lowerCase cs = cs :=
  lowerFrom_of_lowered [] h

/-! ## Blanks -/

/-- No case is looked for behind a character that has none and is not looked past. -/
theorem meetsCased_append {c : Char} (hcased : isCased c = false)
    (hignorable : isCaseIgnorable c = false) (cs ds : List Char) :
    meetsCased (cs ++ c :: ds) = meetsCased cs := by
  induction cs with
  | nil => simp [meetsCased, hcased, hignorable]
  | cons d cs ih =>
    cases hd : isCaseIgnorable d with
    | true =>
      unfold meetsCased at ih ⊢
      rwa [List.cons_append, List.dropWhile_cons_of_pos hd, List.dropWhile_cons_of_pos hd]
    | false =>
      have hd : ¬ isCaseIgnorable d = true := by simp [hd]
      unfold meetsCased
      rw [List.cons_append, List.dropWhile_cons_of_neg hd, List.dropWhile_cons_of_neg hd]

/-- A blank has no case, and case does not look past it. -/
theorem meetsCased_blank (cs ds : List Char) : meetsCased (cs ++ ' ' :: ds) = meetsCased cs :=
  meetsCased_append (by decide) (by decide) cs ds

/-- What stands before a blank makes no difference behind it. -/
theorem lowerFrom_behind (before earlier cs : List Char) :
    lowerFrom (before ++ ' ' :: earlier) cs = lowerFrom before cs := by
  induction cs generalizing before with
  | nil => rfl
  | cons c cs ih =>
    rw [lowerFrom, lowerFrom, closesWord, closesWord, meetsCased_blank, ← List.cons_append, ih]

theorem lowerFrom_append_blank (before cs ds : List Char) :
    lowerFrom before (cs ++ ' ' :: ds) = lowerFrom before cs ++ ' ' :: lowerCase ds := by
  induction cs generalizing before with
  | nil =>
    have hblank : lowerChar ' ' = [' '] := by decide
    have hsigma : ' ' ≠ 'Σ' := by decide
    have hbehind : lowerFrom (' ' :: before) ds = lowerCase ds := lowerFrom_behind [] before ds
    have hnil : lowerFrom before [] = [] := rfl
    rw [hnil, List.nil_append, List.nil_append, lowerFrom, if_neg hsigma, hblank, hbehind,
      List.singleton_append]
  | cons c cs ih =>
    rw [List.cons_append, lowerFrom, lowerFrom, closesWord, closesWord, meetsCased_blank, ih,
      List.append_assoc]

/-- Texts on both sides of a blank are mapped to lower case by themselves. -/
theorem lowerCase_append_blank (cs ds : List Char) :
    lowerCase (cs ++ ' ' :: ds) = lowerCase cs ++ ' ' :: lowerCase ds :=
  lowerFrom_append_blank [] cs ds

end SearchQL
