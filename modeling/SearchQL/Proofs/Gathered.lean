import Mathlib.Data.List.Sort
import SearchQL.Proofs.Binding
import SearchQL.Proofs.Sent
import SearchQL.Statistics

/-!
# Statistics gathered from rows

The rows of an answer are gathered one after another. A row that has a name and a value replaces
what earlier rows told of that name, and every other row is passed over. So the last row of a name
stays, and the order of the rows matters only where two of them tell of the same name.

* `Statistics.Tells` says what a row tells of a name, and `Statistics.LastTells` what the last one
  of several rows tells.
* `Dict.Ascending.ext` makes dictionaries equal whose look-ups agree.
* `Statistics.ofRows_append` is one part of the rows after another, `Statistics.get?_ofRows_iff` all
  of the rows.
* `Statistics.last_row_stays` is the result.
-/

namespace SearchQL

/-! ## Dictionaries by their look-ups -/

namespace Dict

variable {α : Type} {d d' : List (String × α)}

/-- Dictionaries are equal if each key has the same value in both. -/
theorem Ascending.ext (h : Ascending d) (h' : Ascending d')
    (hget : ∀ key, get? key d = get? key d') : d = d' := by
  -- the order is that of the keys, which is no partial order on pairs, but antisymmetric
  have hpairs (d : List (String × α)) (h : Ascending d) : d.Pairwise fun p q => p.1 < q.1 :=
    List.pairwise_map.1 h
  have : Std.Irrefl fun p q : String × α => p.1 < q.1 := ⟨fun p => String.lt_irrefl p.1⟩
  have : Std.Antisymm fun p q : String × α => p.1 < q.1 :=
    ⟨fun p q hpq hqp => absurd hqp (String.lt_asymm hpq)⟩
  refine (hpairs d h).eq_of_mem_iff (hpairs d' h') fun p => ?_
  rw [h.mem_iff_get?, h'.mem_iff_get?, hget]

/-- With ascending keys a look-up finds the same from either end. -/
theorem Ascending.lookup_reverse (h : Ascending d) (key : String) :
    d.reverse.lookup key = get? key d := by
  induction d with
  | nil => rfl
  | cons p d ih =>
    obtain ⟨l, a⟩ := p
    obtain ⟨hl, hd⟩ := List.pairwise_cons.1 h
    rw [List.reverse_cons, List.lookup_append, ih hd, get?, List.lookup_cons, List.lookup_nil]
    by_cases hkey : key = l
    · subst hkey
      have hnone : get? key d = none := Option.eq_none_iff_forall_ne_some.2 fun b hb =>
        have hmem : (key, b) ∈ d := (mem_iff_get? hd).2 hb
        String.lt_irrefl key (hl key (List.mem_map_of_mem hmem))
      simp [hnone]
    · have hbeq : (key == l) = false := by simpa using hkey
      simp [hkey, hbeq]

end Dict

theorem Json.text?_eq_some_iff {value : Json} {text : String} :
    value.text? = some text ↔ value = .text text := by
  cases value <;> simp [text?]

namespace Statistics

/-! ## What a row tells -/

/-- The text of a value: a text itself, and the compact text of any other value. -/
inductive Shows : Json → String → Prop where
  | text (s : String) : Shows (.text s) s
  | other (value : Json) (h : ∀ s, value ≠ .text s) : Shows value value.compact

/-- What a row tells of a name: the name is a text in one of its fields, and the value that the text
is of stands in another. -/
structure Tells (row : Row) (name text : String) : Prop where
  name : Dict.get? "Variable_name" row = some (.text name)
  value : ∃ value, Dict.get? "Value" row = some value ∧ Shows value text

/-- What the last row that tells of a name tells. -/
def LastTells (rows : List Row) (name text : String) : Prop :=
  ∃ before row after, rows = before ++ row :: after ∧ Tells row name text ∧
    ∀ later ∈ after, ∀ text', ¬ Tells later name text'

/-- No two of the rows tell of the same name. -/
def Apart (rows : List Row) : Prop :=
  rows.Pairwise fun row later =>
    ∀ name text text', Tells row name text → ¬ Tells later name text'

variable {row : Row} {rows rows' : List Row} {name text : String}

theorem shows_iff {value : Json} : Shows value text ↔ valueText value = text := by
  constructor
  · rintro (_ | ⟨_, hvalue⟩)
    · rfl
    · cases value with
      | text s => exact absurd rfl (hvalue s)
      | _ => rfl
  · rintro rfl
    cases value with
    | text s => exact .text s
    | _ => exact .other _ nofun

/-- A row is taken exactly if it tells of a name. -/
theorem entry?_eq_some_iff : entry? row = some (name, text) ↔ Tells row name text := by
  have htells : Tells row name text ↔ Dict.get? "Variable_name" row = some (.text name) ∧
      ∃ value, Dict.get? "Value" row = some value ∧ Shows value text :=
    ⟨fun h => ⟨h.name, h.value⟩, fun h => ⟨h.1, h.2⟩⟩
  simp only [htells, shows_iff, entry?, Option.bind_eq_bind, Option.bind_eq_some_iff,
    Json.text?_eq_some_iff, Option.pure_def, Option.some.injEq, Prod.mk.injEq]
  grind

theorem entry?_eq_none_iff : entry? row = none ↔
    (∀ name, Dict.get? "Variable_name" row ≠ some (.text name)) ∨
      Dict.get? "Value" row = none := by
  rw [Option.eq_none_iff_forall_ne_some]
  constructor
  · intro h
    by_contra hnot
    push Not at hnot
    obtain ⟨⟨name, hname⟩, hvalue⟩ := hnot
    obtain ⟨value, hvalue⟩ := Option.ne_none_iff_exists'.1 hvalue
    exact h (name, valueText value)
      (entry?_eq_some_iff.2 ⟨hname, value, hvalue, shows_iff.2 rfl⟩)
  · rintro hmissing ⟨name, text⟩ hentry
    obtain ⟨hname, value, hvalue, -⟩ := entry?_eq_some_iff.1 hentry
    rcases hmissing with hnone | hnone
    · exact hnone name hname
    · cases hvalue.symm.trans hnone

/-! ## One part of the rows after another -/

theorem ascending_ofRows (rows : List Row) : Dict.Ascending (ofRows rows) :=
  have hempty : Dict.Ascending ([] : Statistics) := .nil
  hempty.insertAll (rows.filterMap entry?)

/-- What later rows tell goes before what earlier ones tell. -/
theorem get?_ofRows_append (rows rows' : List Row) (name : String) :
    Dict.get? name (ofRows (rows ++ rows')) =
      (Dict.get? name (ofRows rows')).or (Dict.get? name (ofRows rows)) := by
  have hgathered (rows : List Row) :
      Dict.get? name (ofRows rows) = (rows.filterMap entry?).reverse.lookup name :=
    (Dict.get?_insertAll _ [] name).trans (Option.or_none ..)
  rw [hgathered, hgathered, hgathered, List.filterMap_append, List.reverse_append,
    List.lookup_append]

theorem ofRows_append (rows rows' : List Row) :
    ofRows (rows ++ rows') = Dict.insertAll (ofRows rows) (ofRows rows') := by
  refine (ascending_ofRows _).ext ((ascending_ofRows rows).insertAll _) fun name => ?_
  rw [get?_ofRows_append, Dict.get?_insertAll, (ascending_ofRows rows').lookup_reverse]

/-- A row that tells nothing changes nothing. -/
theorem ofRows_passed (h : entry? row = none) (rows rows' : List Row) :
    ofRows (rows ++ row :: rows') = ofRows (rows ++ rows') := by
  rw [ofRows, ofRows, List.filterMap_append, List.filterMap_append, List.filterMap_cons_none h]

theorem get?_ofRows_singleton : Dict.get? name (ofRows [row]) = some text ↔
    Tells row name text := by
  rw [← entry?_eq_some_iff]
  cases hentry : entry? row with
  | none =>
    rw [ofRows, List.filterMap_cons_none hentry, List.filterMap_nil]
    exact ⟨nofun, nofun⟩
  | some entry =>
    have hone : ofRows [row] = [entry] := by
      rw [ofRows, List.filterMap_cons_some hentry, List.filterMap_nil]
      rfl
    obtain ⟨key, value⟩ := entry
    rw [hone, Dict.get?]
    by_cases hkey : name = key
    · simp [hkey]
    · simp [hkey, Dict.get?, Ne.symm hkey]

/-! ## All rows -/

theorem not_lastTells_nil : ¬ LastTells [] name text := by
  rintro ⟨before, row, after, hrows, -⟩
  simp at hrows

/-- A further row tells last of its own name, and leaves other names as they are. -/
theorem lastTells_concat : LastTells (rows ++ [row]) name text ↔
    Tells row name text ∨ (∀ text', ¬ Tells row name text') ∧ LastTells rows name text := by
  constructor
  · rintro ⟨before, found, after, hrows, hfound, hafter⟩
    -- the row that was found is the further one, or stands in front of it
    rcases List.eq_nil_or_concat after with rfl | ⟨after, last, rfl⟩
    · obtain ⟨-, hlast⟩ := List.append_inj' hrows rfl
      cases hlast
      exact .inl hfound
    · rw [List.concat_eq_append, ← List.cons_append, ← List.append_assoc] at hrows
      obtain ⟨rfl, hlast⟩ := List.append_inj' hrows rfl
      cases hlast
      rw [List.concat_eq_append, List.forall_mem_append] at hafter
      exact .inr ⟨hafter.2 row List.mem_cons_self, before, found, after, rfl, hfound, hafter.1⟩
  · rintro (hrow | ⟨hrow, before, found, after, rfl, hfound, hafter⟩)
    · exact ⟨rows, row, [], rfl, hrow, nofun⟩
    · refine ⟨before, found, after ++ [row], by simp, hfound, ?_⟩
      rw [List.forall_mem_append, List.forall_mem_singleton]
      exact ⟨hafter, hrow⟩

/-- The statistics have for each name what the last row tells of it. -/
theorem get?_ofRows_iff :
    Dict.get? name (ofRows rows) = some text ↔ LastTells rows name text := by
  induction rows using List.reverseRecOn with
  | nil => exact ⟨nofun, fun h => absurd h not_lastTells_nil⟩
  | append_singleton rows row ih =>
    rw [get?_ofRows_append, Option.or_eq_some_iff, lastTells_concat, ih, get?_ofRows_singleton,
      Option.eq_none_iff_forall_ne_some]
    simp only [ne_eq, get?_ofRows_singleton]

/-- Where any row tells of a name, one of them is the last. -/
theorem exists_lastTells_iff :
    (∃ text, LastTells rows name text) ↔ ∃ row ∈ rows, ∃ text, Tells row name text := by
  induction rows using List.reverseRecOn with
  | nil => simp [not_lastTells_nil]
  | append_singleton rows row ih =>
    simp only [lastTells_concat, exists_or, exists_and_left, ih, List.mem_append,
      List.mem_singleton, or_and_right, exists_eq_left]
    by_cases hrow : ∃ text, Tells row name text
    · simp [hrow]
    · have hnone : ∀ text, ¬ Tells row name text := not_exists.1 hrow
      simp [hnone]

/-! ## The order of the rows -/

/-- If no two rows tell of the same name, each of them is the last of its name. -/
theorem lastTells_iff_of_apart (h : Apart rows) :
    LastTells rows name text ↔ ∃ row ∈ rows, Tells row name text := by
  constructor
  · rintro ⟨before, row, after, rfl, hrow, -⟩
    exact ⟨row, by simp, hrow⟩
  · rintro ⟨row, hmem, hrow⟩
    obtain ⟨before, after, rfl⟩ := List.append_of_mem hmem
    obtain ⟨-, hrest, -⟩ := List.pairwise_append.1 h
    refine ⟨before, row, after, rfl, hrow, fun later hlater text' => ?_⟩
    exact List.rel_of_pairwise_cons hrest hlater name text text' hrow

/-- Rows are apart exactly if the names that are taken from them differ. -/
theorem apart_iff : Apart rows ↔ ((rows.filterMap entry?).map Prod.fst).Nodup := by
  rw [List.Nodup, List.pairwise_map, List.pairwise_filterMap, Apart]
  simp only [Prod.forall, entry?_eq_some_iff]
  exact List.Pairwise.iff (by grind)

theorem Apart.perm (h : Apart rows) (hperm : rows.Perm rows') : Apart rows' :=
  hperm.pairwise h fun hne name text text' htext htext' => hne name text' text htext' htext

/-- Rows that tell of different names may come in any order. -/
theorem ofRows_perm (h : Apart rows) (hperm : rows.Perm rows') : ofRows rows = ofRows rows' := by
  refine (ascending_ofRows rows).ext (ascending_ofRows rows') fun name => Option.ext fun text => ?_
  rw [get?_ofRows_iff, get?_ofRows_iff, lastTells_iff_of_apart h,
    lastTells_iff_of_apart (h.perm hperm)]
  simp only [hperm.mem_iff]

/-! ## Asking for them -/

variable {σ : Type}

/-- The missing keywords are read from the answer to one statement. -/
theorem fetchMissing_eq (executor : Executor σ) (expanded : Bool) (s : SearchText) :
    s.fetchMissing executor expanded = (do
      let response ← executor .raw "SHOW META"
      liftM (response.toRows.map fun rows => s.missing (ofRows rows) expanded)) := by
  have hstatement : (Command.statistics none).execute executor = executor .raw "SHOW META" :=
    Query.execute_eq executor rfl rfl
  have hread (response : Response) :
      (liftM (response.toRows.map fun rows => s.missing (ofRows rows) expanded) :
        Session σ (List String)) = do
          let rows ← response.toRows
          return s.missing (ofRows rows) expanded := by
    cases response.toRows <;> rfl
  simp only [hread, SearchText.fetchMissing, fetchStatistics, hstatement, bind_assoc, pure_bind]

/-- Answers with the same statistics have the same missing keywords. -/
theorem fetchMissing_congr {executor executor' : Executor σ} {state state' next : σ}
    {response response' : Response} (hgathered : ofRows rows = ofRows rows')
    (hanswer : executor .raw "SHOW META" state = (.ok response, next))
    (hanswer' : executor' .raw "SHOW META" state' = (.ok response', next))
    (hrows : response.Carries rows) (hrows' : response'.Carries rows') (expanded : Bool)
    (s : SearchText) :
    s.fetchMissing executor expanded state = s.fetchMissing executor' expanded state' := by
  simp only [fetchMissing_eq, session_bind, hanswer, hanswer', session_liftM,
    Response.toRows_eq_ok_iff.2 hrows, Response.toRows_eq_ok_iff.2 hrows', Except.map, hgathered]

/-- **The last row of a name stays, and rows of different names come in any order.** A name has the
text that the last row tells of it, and has one if any row tells of it; rows without a name or a
value are passed over. Rows after others override what those told. If no two rows tell of the same
name they may come in any order, also as the answer from which the missing keywords are read; for
these one statement is sent. -/
theorem last_row_stays (rows rows' : List Row) :
    (∀ name text, Dict.get? name (ofRows rows) = some text ↔
      ∃ before row after, rows = before ++ row :: after ∧ Tells row name text ∧
        ∀ later ∈ after, ∀ text', ¬ Tells later name text') ∧
    (∀ name, (∃ text, Dict.get? name (ofRows rows) = some text) ↔
      ∃ row ∈ rows, ∃ text, Tells row name text) ∧
    (∀ row, (∀ name, Dict.get? "Variable_name" row ≠ some (.text name)) ∨
        Dict.get? "Value" row = none →
      ofRows (rows ++ row :: rows') = ofRows (rows ++ rows')) ∧
    ofRows (rows ++ rows') = Dict.insertAll (ofRows rows) (ofRows rows') ∧
    (∀ name, Dict.get? name (ofRows (rows ++ rows')) =
      (Dict.get? name (ofRows rows')).or (Dict.get? name (ofRows rows))) ∧
    (Apart rows → rows.Perm rows' → ofRows rows = ofRows rows' ∧
      ∀ (executor executor' : Executor σ) (state state' next : σ) (response response' : Response),
        executor .raw "SHOW META" state = (.ok response, next) →
        executor' .raw "SHOW META" state' = (.ok response', next) →
        response.Carries rows → response'.Carries rows' →
        ∀ expanded (s : SearchText),
          s.fetchMissing executor expanded state = s.fetchMissing executor' expanded state') ∧
    ∀ (executor : Executor σ) expanded (s : SearchText) state log,
      s.fetchMissing executor.noting expanded (state, log) =
        match executor .raw "SHOW META" state with
        | (.ok response, next) =>
          (response.toRows.map fun rows => s.missing (ofRows rows) expanded,
            next, log ++ [(.raw, "SHOW META")])
        | (.error e, next) => (.error e, next, log ++ [(.raw, "SHOW META")]) := by
  refine ⟨fun _ _ => get?_ofRows_iff, fun name => ?_, fun row h => ?_, ofRows_append rows rows',
    get?_ofRows_append rows rows', fun hapart hperm => ?_, fun executor expanded s state log => ?_⟩
  · simp only [get?_ofRows_iff]
    exact exists_lastTells_iff
  · exact ofRows_passed (entry?_eq_none_iff.2 h) rows rows'
  · have hgathered := ofRows_perm hapart hperm
    exact ⟨hgathered, fun executor executor' state state' next response response' hanswer hanswer'
      hrows hrows' => fetchMissing_congr hgathered hanswer hanswer' hrows hrows'⟩
  · rw [fetchMissing_eq]
    exact noting_bind executor .raw "SHOW META" _ state log

/-- Rows in reverse order, with one that tells nothing and one whose value is no text. -/
theorem last_row_stays_reversed :
    let rows : List Row := [[("Value", .text "a"), ("Variable_name", .text "keyword[0]")],
      [("Value", .int 3)], [("Value", .int 0), ("Variable_name", .text "docs[0]")]]
    let answering (rows : List Row) : Executor Unit := fun _ _ => return .rows rows
    let s := SearchText.mk "a" ["a"]
    ofRows rows = [("docs[0]", "0"), ("keyword[0]", "a")] ∧ ofRows rows = ofRows rows.reverse ∧
    s.fetchMissing (answering rows) false () = s.fetchMissing (answering rows.reverse) false () ∧
    s.fetchMissing (answering rows).noting false ((), []) =
      (.ok ["a"], (), [(.raw, "SHOW META")]) := by
  intro rows answering s
  have hapart : Apart rows := apart_iff.2 (by decide +kernel)
  have hmissing : s.missing (ofRows rows) false = ["a"] := by decide +kernel
  obtain ⟨-, -, -, -, -, hperm, hsent⟩ := last_row_stays rows rows.reverse
  obtain ⟨hgathered, hfetched⟩ := hperm hapart rows.reverse_perm.symm
  refine ⟨by decide +kernel, hgathered, ?_, ?_⟩
  · exact hfetched (answering rows) (answering rows.reverse) () () () (.rows rows)
      (.rows rows.reverse) rfl rfl (.rows rows) (.rows rows.reverse) false s
  · rw [hsent (answering rows) false s () [], ← hmissing]
    rfl

/-- Two rows of one name are not apart, and there the later one stays. -/
example :
    let row (value : Json) : Row := [("Value", value), ("Variable_name", .text "total")]
    ofRows [row (.text "20"), row (.int 7)] = [("total", "7")] ∧
    ofRows [row (.int 7), row (.text "20")] = [("total", "20")] := by
  decide +kernel

end Statistics

end SearchQL
