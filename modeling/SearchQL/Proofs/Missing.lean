import Mathlib.Data.List.Forall2
import SearchQL.Proofs.Numeral
import SearchQL.Statistics

/-!
# Missing keywords

The keywords of a search and the numbers of their documents stand in the statistics under names with
a position in them. A keyword is missing if its count denotes zero. Of the positions only those of
the words of the search are looked at, and each has names of its own.

* `SearchText.MissingAt` says which keyword is missing at a position.
* `SearchText.missing_congr` says which names the missing keywords depend on, and
  `SearchText.keywordName_injective` and others that names of different positions differ.
* `SearchText.missing_positions` is the result.
-/

namespace SearchQL.SearchText

/-! ## Names -/

/-- A number between brackets tells names of one kind apart. -/
theorem bracketed_injective (kind : String) :
    Function.Injective fun i : Nat => kind ++ toString i ++ "]" := by
  intro i j h
  have hlists : (kind ++ toString i ++ "]").toList = (kind ++ toString j ++ "]").toList :=
    congrArg String.toList h
  simp only [String.toList_append, List.append_assoc, List.append_cancel_left_eq,
    List.append_cancel_right_eq, Nat.toString_eq_ofList_toDigits, String.toList_ofList] at hlists
  calc
    i = Nat.ofDigitChars 10 (Nat.toDigits 10 i) 0 := Nat.ofDigitChars_ten_toDigits.symm
    _ = Nat.ofDigitChars 10 (Nat.toDigits 10 j) 0 := by rw [hlists]
    _ = j := Nat.ofDigitChars_ten_toDigits

theorem keywordName_injective : Function.Injective keywordName := bracketed_injective "keyword["

theorem documentsName_injective : Function.Injective documentsName := bracketed_injective "docs["

/-- A name is that of a keyword or that of a count, not both. -/
theorem keywordName_ne_documentsName (i j : Nat) : keywordName i ≠ documentsName j := by
  intro h
  have hlists : (keywordName i).toList.head? = (documentsName j).toList.head? := by rw [h]
  simp [keywordName, documentsName] at hlists

/-! ## One position -/

variable {statistics : Statistics}

/-- The keyword at a position is in no document. -/
structure MissingAt (statistics : Statistics) (i : Nat) (keyword : String) : Prop where
  keyword : Dict.get? (keywordName i) statistics = some keyword
  count : ∃ count, Dict.get? (documentsName i) statistics = some count ∧ Decimal.Denotes count 0

/-- Whether a keyword was added by the server: it begins with an equals sign or a star. -/
def isAdded (keyword : String) : Bool :=
  keyword.toList.head? == some '=' || keyword.toList.head? == some '*'

theorem isZeroCount_iff {count : String} : isZeroCount count = true ↔ Decimal.Denotes count 0 := by
  have hbound : 0 < UInt64.size := by decide
  rw [isZeroCount, beq_iff_eq, Decimal.unsigned?_trimChars, and_iff_left hbound]

theorem isExpansion_eq (keyword : String) : isExpansion keyword = isAdded keyword := by
  rw [isExpansion, isAdded]
  cases keyword.toList with
  | nil => rfl
  | cons c cs => simp

/-- What is found at a position is missing there, and not passed over by an expanded search. -/
theorem missingAt?_eq_some_iff {expanded : Bool} {i : Nat} {keyword : String} :
    missingAt? statistics expanded i = some keyword ↔
      MissingAt statistics i keyword ∧ ¬ (expanded = true ∧ isAdded keyword = true) := by
  have hentry : MissingAt statistics i keyword ↔
      Dict.get? (keywordName i) statistics = some keyword ∧ ∃ count,
        Dict.get? (documentsName i) statistics = some count ∧ isZeroCount count = true := by
    simp only [isZeroCount_iff]
    exact ⟨fun h => ⟨h.keyword, h.count⟩, fun h => ⟨h.1, h.2⟩⟩
  rw [hentry]
  unfold missingAt?
  cases Dict.get? (keywordName i) statistics with
  | none => simp
  | some found =>
    cases Dict.get? (documentsName i) statistics with
    | none => simp
    | some count =>
      simp only [Option.bind_eq_bind, Option.bind_some, isExpansion_eq]
      constructor
      · intro h
        obtain ⟨hif, hfound⟩ := Option.ite_none_right_eq_some.1 h
        obtain rfl := Option.some.inj hfound
        rw [Bool.and_eq_true, Bool.not_eq_true', ← Bool.not_eq_true, Bool.and_eq_true] at hif
        exact ⟨⟨rfl, count, rfl, hif.1⟩, hif.2⟩
      · rintro ⟨⟨hfound, _, hcount, hzero⟩, hkept⟩
        cases hfound
        cases hcount
        simp [hzero, hkept]

theorem missingAt?_congr {statistics' : Statistics} {i : Nat}
    (hkeyword : Dict.get? (keywordName i) statistics = Dict.get? (keywordName i) statistics')
    (hcount : Dict.get? (documentsName i) statistics = Dict.get? (documentsName i) statistics')
    (expanded : Bool) : missingAt? statistics expanded i = missingAt? statistics' expanded i := by
  rw [missingAt?, missingAt?, hkeyword, hcount]

/-! ## All positions -/

theorem missing_congr {s : SearchText} {statistics' : Statistics}
    (h : ∀ i < s.size,
      Dict.get? (keywordName i) statistics = Dict.get? (keywordName i) statistics' ∧
      Dict.get? (documentsName i) statistics = Dict.get? (documentsName i) statistics')
    (expanded : Bool) : s.missing statistics expanded = s.missing statistics' expanded :=
  List.filterMap_congr fun i hi =>
    have hi := h i (List.mem_range.1 hi)
    missingAt?_congr hi.1 hi.2 expanded

/-- What stands under another name has no say. -/
theorem missing_insert {s : SearchText} {name : String}
    (h : ∀ i < s.size, name ≠ keywordName i ∧ name ≠ documentsName i) (text : String)
    (expanded : Bool) :
    s.missing (Dict.insert name text statistics) expanded = s.missing statistics expanded := by
  refine missing_congr (fun i hi => ?_) expanded
  rw [Dict.get?_insert, Dict.get?_insert, if_neg (h i hi).1.symm, if_neg (h i hi).2.symm]
  exact ⟨rfl, rfl⟩

/-- A function that goes through a list and passes over members, by the members that it takes. -/
theorem forall₂_filterMap {α β : Type} (f : α → Option β) (as : List α) :
    List.Forall₂ (fun a b => f a = some b) (as.filter fun a => (f a).isSome) (as.filterMap f) := by
  induction as with
  | nil => exact .nil
  | cons a as ih =>
    cases ha : f a with
    | none => simpa [ha] using ih
    | some b => simpa [ha] using ih

/-- The positions at which keywords are missing, in order, and their keywords. -/
theorem exists_positions (s : SearchText) (statistics : Statistics) :
    ∃ positions : List Nat, positions.Pairwise (· < ·) ∧
      (∀ i, i ∈ positions ↔ i < s.size ∧ ∃ keyword, MissingAt statistics i keyword) ∧
      List.Forall₂ (MissingAt statistics) positions (s.missing statistics false) := by
  have hmissing {i : Nat} {keyword : String} : missingAt? statistics false i = some keyword ↔
      MissingAt statistics i keyword := by
    rw [missingAt?_eq_some_iff]
    simp
  refine ⟨(List.range s.size).filter fun i => (missingAt? statistics false i).isSome,
    List.pairwise_lt_range.filter _, fun i => ?_, ?_⟩
  · rw [List.mem_filter, List.mem_range, Option.isSome_iff_exists]
    simp only [hmissing]
  · have hfound := forall₂_filterMap (missingAt? statistics false) (List.range s.size)
    exact hfound.imp fun i keyword => hmissing.1

/-- In an expanded search the same keywords are missing but for those that were added. -/
theorem missing_true (s : SearchText) (statistics : Statistics) :
    s.missing statistics true =
      (s.missing statistics false).filter fun keyword => !isAdded keyword := by
  rw [missing, missing, List.filter_filterMap]
  refine List.filterMap_congr fun i _ => Option.ext fun keyword => ?_
  rw [missingAt?_eq_some_iff, Option.filter_eq_some_iff, missingAt?_eq_some_iff]
  simp

/-- **The missing keywords are those of the positions of the search, in order.** Those positions are
below the number of words, and the count of each denotes zero. An expanded search passes over the
keywords that were added and changes nothing else. Statistics that agree on the names of these
positions have the same missing keywords, whatever stands under other names; and no two positions
share a name. -/
theorem missing_positions (s : SearchText) (statistics : Statistics) :
    (∃ positions : List Nat, positions.Pairwise (· < ·) ∧
      (∀ i, i ∈ positions ↔ i < s.size ∧ ∃ keyword, MissingAt statistics i keyword) ∧
      List.Forall₂ (MissingAt statistics) positions (s.missing statistics false)) ∧
    s.missing statistics true =
      (s.missing statistics false).filter (fun keyword => !isAdded keyword) ∧
    (∀ statistics' : Statistics, (∀ i < s.size,
        Dict.get? (keywordName i) statistics = Dict.get? (keywordName i) statistics' ∧
        Dict.get? (documentsName i) statistics = Dict.get? (documentsName i) statistics') →
      ∀ expanded, s.missing statistics expanded = s.missing statistics' expanded) ∧
    (∀ name text, (∀ i < s.size, name ≠ keywordName i ∧ name ≠ documentsName i) →
      ∀ expanded, s.missing (Dict.insert name text statistics) expanded =
        s.missing statistics expanded) ∧
    keywordName.Injective ∧ documentsName.Injective ∧
      ∀ i j, keywordName i ≠ documentsName j :=
  ⟨exists_positions s statistics, missing_true s statistics, fun _ h => missing_congr h,
    fun _ text h => missing_insert h text, keywordName_injective, documentsName_injective,
    keywordName_ne_documentsName⟩

/-- Position 10 is not position 1, and a count with a sign or beyond 64 bits is passed over. -/
theorem missing_positions_signed :
    let s := SearchText.mk "a b c" ["a", "b", "c"]
    let statistics := Dict.ofList [("keyword[0]", "=a"), ("docs[0]", " +00\n"), ("keyword[1]", "b"),
      ("docs[1]", "-0"), ("keyword[2]", "c"), ("docs[2]", "0")]
    s.missing statistics false = ["=a", "c"] ∧ s.missing statistics true = ["c"] ∧
    ∀ expanded, s.missing (Dict.insert "docs[10]" "0" statistics) expanded =
      s.missing statistics expanded := by
  intro s statistics
  obtain ⟨-, htrue, -, hother, -⟩ := missing_positions s statistics
  have hfalse : s.missing statistics false = ["=a", "c"] := by decide +kernel
  refine ⟨hfalse, ?_, hother "docs[10]" "0" (by decide +kernel)⟩
  rw [htrue, hfalse]
  decide

end SearchQL.SearchText
