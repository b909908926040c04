import SearchQL.Proofs.Success
import SearchQL.Session

/-!
# What is sent, and what is made of the answer

A query is executed in four ways, which differ in what they make of the answer. Each sends the text
of the query once, with its kind; without a text nothing is sent. The two ways that read rows go
by the same rows, one up to the first that cannot be read, the other no further than the first.

* `Executor.noting` notes what an executor is sent.
* `Query.SendsText` says of a session that it sends the text of a query and reads the answer.
* `Response.Carries` are the rows of an answer, `Response.CarriesSets` its result sets, and
  `Response.ReadsRows` is what is read from them.
* `Query.execution_sends_once` is the result.
-/

namespace SearchQL

variable {σ α β : Type}

/-! ## Sessions one after the other -/

theorem session_bind (session : Session σ α) (next : α → Session σ β) (s : σ) :
    (session >>= next) s = match session s with
      | (.ok a, s') => next a s'
      | (.error e, s') => (.error e, s') := by
  show (match session s with | (a, s') => ExceptT.bindCont next a s') = _
  rcases session s with ⟨e | a, s'⟩
  · rfl
  · rfl

/-- A computation without a state leaves the state as it is. -/
theorem session_liftM (x : Except Error α) (s : σ) : (liftM x : Session σ α) s = (x, s) := by
  cases x with
  | ok a => rfl
  | error e => rfl

/-! ## Executors that note what they are sent -/

/-- The executor that answers as another one does and notes what it is sent. -/
def Executor.noting (executor : Executor σ) : Executor (σ × List (Kind × String)) :=
  fun kind sql => ExceptT.mk fun (s, sent) =>
    let (answer, s) := (executor kind sql).run s
    (answer, s, sent ++ [(kind, sql)])

/-- One statement is noted, whatever the answer. -/
theorem noting_bind (executor : Executor σ) (kind : Kind) (text : String)
    (read : Response → Except Error β) (s : σ) (log : List (Kind × String)) :
    (do
      let response ← executor.noting kind text
      liftM (read response) : Session _ β) (s, log) = match executor kind text s with
        | (.ok response, s') => (read response, s', log ++ [(kind, text)])
        | (.error e, s') => (.error e, s', log ++ [(kind, text)]) := by
  have hnoting : executor.noting kind text (s, log) =
      ((executor kind text s).1, (executor kind text s).2, log ++ [(kind, text)]) := rfl
  rw [session_bind, hnoting]
  rcases executor kind text s with ⟨e | response, s'⟩
  · rfl
  · exact session_liftM (read _) _

namespace Query

variable {q : Query} {kind : Kind} {text : String}

/-! ## Queries with and without a text -/

/-- Only a query of some kind has a text. -/
theorem exists_kind_of_render (h : q.render = .ok text) : ∃ kind, q.kind = some kind := by
  cases hkind : q.kind with
  | none =>
    rw [render, hkind] at h
    cases h
  | some kind => exact ⟨kind, rfl⟩

/-- A query is sent with its kind. -/
theorem execute_eq (executor : Executor σ) (hkind : q.kind = some kind)
    (htext : q.render = .ok text) : q.execute executor = executor kind text := by
  rw [execute, hkind, htext]
  rfl

theorem execute_eq_throw (executor : Executor σ) {e : Error} (htext : q.render = .error e) :
    q.execute executor = throw e := by
  rw [execute, htext]
  rfl

theorem fetchSets_eq (executor : Executor σ) (hkind : q.kind = some .multiSelect)
    (htext : q.render = .ok text) :
    q.fetchSets executor = (do
      let response ← executor .multiSelect text
      response.toSets) := by
  rw [fetchSets, if_pos hkind, execute_eq executor hkind htext]

theorem fetchSets_eq_throw (executor : Executor σ) (hkind : q.kind ≠ some .multiSelect) :
    q.fetchSets executor = throw (.invalidQuery .noFacets) := by
  rw [fetchSets, if_neg hkind]

/-! ## Sessions that send the text of a query -/

/-- A session that sends the text of a query once, if it has one, and reads the answer. -/
structure SendsText (executor : Executor σ) (q : Query) (read : Response → Except Error β)
    (session : Session (σ × List (Kind × String)) β) : Prop where
  /-- Without a text nothing is sent, and the error of the text is given. -/
  unsent : ∀ e, q.render = .error e → ∀ s log, session (s, log) = (.error e, s, log)
  /-- A text is sent once, with the kind of the query, and its answer is read; an error in place of
  an answer is given as it is. -/
  sent : ∀ text, q.render = .ok text → ∃ kind, q.kind = some kind ∧ ∀ s log,
    session (s, log) = match executor kind text s with
      | (.ok response, s') => (read response, s', log ++ [(kind, text)])
      | (.error e, s') => (.error e, s', log ++ [(kind, text)])
  /-- Nothing is sent exactly if there is no text. -/
  quiet : ∀ s log, (session (s, log)).2.2 = log ↔ ∃ e, q.render = .error e

/-- Whatever is read from the answer, the text is sent once. -/
theorem sendsText_execute_bind (executor : Executor σ) (q : Query)
    (read : Response → Except Error β) :
    SendsText executor q read (do
      let response ← q.execute executor.noting
      liftM (read response)) := by
  cases htext : q.render with
  | error e =>
    rw [execute_eq_throw executor.noting htext]
    refine ⟨fun e' he' s log => ?_, fun text htext' => ?_, fun s log => ?_⟩
    · cases htext.symm.trans he'
      rfl
    · cases htext.symm.trans htext'
    · exact ⟨fun _ => ⟨e, htext⟩, fun _ => rfl⟩
  | ok text =>
    obtain ⟨kind, hkind⟩ := exists_kind_of_render htext
    rw [execute_eq executor.noting hkind htext]
    refine ⟨fun e he => ?_, fun text' htext' => ?_, fun s log => ?_⟩
    · cases htext.symm.trans he
    · cases htext.symm.trans htext'
      exact ⟨kind, hkind, noting_bind executor kind text read⟩
    · have hlog : log ++ [(kind, text)] ≠ log := by simp
      rw [noting_bind, htext]
      rcases executor kind text s with ⟨e | response, s'⟩
      · exact ⟨fun h => absurd h hlog, nofun⟩
      · exact ⟨fun h => absurd h hlog, nofun⟩

end Query

namespace Response

/-! ## The rows of an answer -/

/-- The rows that an answer carries: those of its first result set, if it has several. -/
inductive Carries : Response → List Row → Prop where
  | rows (given : List Row) : Carries (.rows given) given
  | first (given : List Row) (rest : List (List Row)) : Carries (.sets (given :: rest)) given
  | noSets : Carries (.sets []) []

variable {response : Response} {rows : List Row}

theorem toRows_eq_ok_iff : response.toRows = .ok rows ↔ response.Carries rows := by
  constructor
  · intro h
    match response, h with
    | .rows given, rfl => exact .rows given
    | .sets [], rfl => exact .noSets
    | .sets (given :: rest), rfl => exact .first given rest
  · rintro (_ | _ | _) <;> rfl

/-- Only a report has no rows. -/
theorem toRows_eq_error_iff {e : Error} : response.toRows = .error e ↔
    ∃ report, response = .report report ∧ e = .invalidQuery (.noRows report) := by
  cases response <;> simp [toRows, eq_comm]

/-- The result sets that an answer carries: all that it has, and rows as one set. -/
inductive CarriesSets : Response → List (List Row) → Prop where
  | sets (given : List (List Row)) : CarriesSets (.sets given) given
  | rows (given : List Row) : CarriesSets (.rows given) [given]

theorem toSets_eq_ok_iff {sets : List (List Row)} :
    response.toSets = .ok sets ↔ response.CarriesSets sets := by
  constructor
  · intro h
    match response, h with
    | .sets given, rfl => exact .sets given
    | .rows given, rfl => exact .rows given
  · rintro (_ | _) <;> rfl

/-- Only a report has no result sets. -/
theorem toSets_eq_error_iff {e : Error} : response.toSets = .error e ↔
    ∃ report, response = .report report ∧ e = .invalidQuery (.noResultSets report) := by
  cases response <;> simp [toSets, eq_comm]

/-- All rows of an answer, each read. -/
def readAll (read : Row → Except Error α) (response : Response) : Except Error (List α) := do
  let rows ← response.toRows
  rows.mapM read

/-- The first row of an answer, if there is one, read. -/
def readFirst (read : Row → Except Error α) (response : Response) : Except Error (Option α) := do
  let rows ← response.toRows
  rows.head?.mapM read

theorem mapM_eq_ok_iff {read : Row → Except Error α} {items : List α} :
    rows.mapM read = .ok items ↔ List.Forall₂ (fun row item => read row = .ok item) rows items :=
  ok_list_iff (r := List.mapM read) rfl fun _ _ => List.mapM_cons

theorem mapM_eq_error_iff {read : Row → Except Error α} {e : Error} :
    rows.mapM read = .error e ↔ ∃ before row after, rows = before ++ row :: after ∧
      (∀ earlier ∈ before, Succeeds (read earlier)) ∧ read row = .error e :=
  error_list_iff (r := List.mapM read) rfl fun _ _ => List.mapM_cons

/-- What the two ways to read rows make of an answer. -/
structure ReadsRows (read : Row → Except Error α) (response : Response) : Prop where
  /-- All items are given if the answer carries rows and each of them can be read. -/
  all : ∀ items, response.readAll read = .ok items ↔ ∃ rows, response.Carries rows ∧
    List.Forall₂ (fun row item => read row = .ok item) rows items
  /-- Otherwise there are no rows, or the first one that cannot be read gives the error. -/
  all_error : ∀ e, response.readAll read = .error e ↔ response.toRows = .error e ∨
    ∃ before row after, response.Carries (before ++ row :: after) ∧
      (∀ earlier ∈ before, Succeeds (read earlier)) ∧ read row = .error e
  /-- Only the first row is looked at. -/
  first : ∀ row rest, response.Carries (row :: rest) →
    response.readFirst read = (read row).map some
  first_none : response.Carries [] → response.readFirst read = .ok none
  first_error : ∀ e, response.toRows = .error e → response.readFirst read = .error e
  /-- The two agree where all rows can be read. -/
  agree : ∀ items, response.readAll read = .ok items → response.readFirst read = .ok items.head?
  /-- The result sets are those that the answer carries. -/
  sets : ∀ sets, response.toSets = .ok sets ↔ response.CarriesSets sets
  /-- Only a report has no rows, and no result sets. -/
  noRows : ∀ e, response.toRows = .error e ↔
    ∃ report, response = .report report ∧ e = .invalidQuery (.noRows report)
  noSets : ∀ e, response.toSets = .error e ↔
    ∃ report, response = .report report ∧ e = .invalidQuery (.noResultSets report)

theorem readFirst_of_cons (read : Row → Except Error α) {row : Row} {rest : List Row}
    (h : response.Carries (row :: rest)) : response.readFirst read = (read row).map some := by
  rw [readFirst, toRows_eq_ok_iff.2 h]
  rfl

theorem readFirst_of_nil (read : Row → Except Error α) (h : response.Carries []) :
    response.readFirst read = .ok none := by
  rw [readFirst, toRows_eq_ok_iff.2 h]
  rfl

theorem readsRows (read : Row → Except Error α) (response : Response) :
    response.ReadsRows read where
  all items := by
    rw [readAll, ok_bind_iff]
    simp only [toRows_eq_ok_iff, mapM_eq_ok_iff]
  all_error e := by
    rw [readAll, error_bind_iff]
    refine or_congr_right ?_
    constructor
    · rintro ⟨rows, hrows, h⟩
      obtain ⟨before, row, after, rfl, hbefore, hrow⟩ := mapM_eq_error_iff.1 h
      exact ⟨before, row, after, toRows_eq_ok_iff.1 hrows, hbefore, hrow⟩
    · rintro ⟨before, row, after, hcarries, hbefore, hrow⟩
      exact ⟨_, toRows_eq_ok_iff.2 hcarries,
        mapM_eq_error_iff.2 ⟨before, row, after, rfl, hbefore, hrow⟩⟩
  first row rest := readFirst_of_cons read
  first_none := readFirst_of_nil read
  first_error e h := by
    rw [readFirst, h]
    rfl
  agree items h := by
    rw [readAll, ok_bind_iff] at h
    obtain ⟨rows, hrows, hitems⟩ := h
    rw [toRows_eq_ok_iff] at hrows
    cases mapM_eq_ok_iff.1 hitems with
    | nil => exact readFirst_of_nil read hrows
    | cons hrow hrest =>
      rw [readFirst_of_cons read hrows, hrow]
      rfl
  sets _ := toSets_eq_ok_iff
  noRows _ := toRows_eq_error_iff
  noSets _ := toSets_eq_error_iff

end Response

namespace Query

/-! ## The four ways to execute a query -/

theorem sendsText_execute (executor : Executor σ) (q : Query) :
    SendsText executor q .ok (q.execute executor.noting) := by
  have h := sendsText_execute_bind executor q .ok
  have hpure : (fun response => liftM (Except.ok response : Except Error Response)) =
      (pure : Response → Session (σ × List (Kind × String)) Response) := rfl
  rw [hpure, bind_pure] at h
  exact h

theorem sendsText_fetchAll (executor : Executor σ) (read : Row → Except Error α) (q : Query) :
    SendsText executor q (Response.readAll read) (q.fetchAll executor.noting read) := by
  have h := sendsText_execute_bind executor q (Response.readAll read)
  simp only [Response.readAll, liftM_bind] at h
  exact h

theorem sendsText_fetchFirst (executor : Executor σ) (read : Row → Except Error α) (q : Query) :
    SendsText executor q (Response.readFirst read) (q.fetchFirst executor.noting read) := by
  have h := sendsText_execute_bind executor q (Response.readFirst read)
  simp only [Response.readFirst, liftM_bind] at h
  exact h

theorem sendsText_fetchSets (executor : Executor σ) {q : Query}
    (hkind : q.kind = some .multiSelect) :
    SendsText executor q Response.toSets (q.fetchSets executor.noting) := by
  rw [fetchSets, if_pos hkind]
  exact sendsText_execute_bind executor q Response.toSets

/-- Result sets are asked for only of a query with facets that has a text. -/
theorem fetchSets_quiet_iff (executor : Executor σ) (q : Query) (s : σ)
    (log : List (Kind × String)) : (q.fetchSets executor.noting (s, log)).2.2 = log ↔
      q.kind ≠ some .multiSelect ∨ ∃ e, q.render = .error e := by
  by_cases hkind : q.kind = some .multiSelect
  · rw [(sendsText_fetchSets executor hkind).quiet]
    simp [hkind]
  · rw [fetchSets_eq_throw executor.noting hkind]
    exact ⟨fun _ => .inl hkind, fun _ => rfl⟩

/-- **A query is sent as its text, at most once, and the ways to read the answer agree.** Each way
to execute a query sends its text once, with its kind, if there is a text, and gives its error
otherwise; result sets are asked for only of a query with facets. Of the same answer, all rows are
given if each can be read, and the first row is then the first of them; the result sets are given as
they are, and rows as one of them. -/
theorem execution_sends_once (executor : Executor σ) (read : Row → Except Error α) (q : Query) :
    SendsText executor q .ok (q.execute executor.noting) ∧
    SendsText executor q (Response.readAll read) (q.fetchAll executor.noting read) ∧
    SendsText executor q (Response.readFirst read) (q.fetchFirst executor.noting read) ∧
    (q.kind = some .multiSelect →
      SendsText executor q Response.toSets (q.fetchSets executor.noting)) ∧
    (q.kind ≠ some .multiSelect → ∀ s log,
      q.fetchSets executor.noting (s, log) = (.error (.invalidQuery .noFacets), s, log)) ∧
    (∀ s log, (q.fetchSets executor.noting (s, log)).2.2 = log ↔
      q.kind ≠ some .multiSelect ∨ ∃ e, q.render = .error e) ∧
    ∀ response : Response, response.ReadsRows read := by
  refine ⟨sendsText_execute executor q, sendsText_fetchAll executor read q,
    sendsText_fetchFirst executor read q, sendsText_fetchSets executor, fun hkind s log => ?_,
    fetchSets_quiet_iff executor q, Response.readsRows read⟩
  rw [fetchSets_eq_throw executor.noting hkind]
  rfl

/-- A row that cannot be read keeps all rows from being given, but not the first one. A connection
that fails gives its own error. -/
theorem execution_sends_once_mistyped :
    let executor := Executor.canned (.ok (.sets [[[("id", .int 1)], [("id", .null)], []], []]))
    let broken := Executor.canned (.error (.transport "pool timed out"))
    let read := Row.int ⟨false, 64⟩ "id"
    let q := selectingFrom (.name "rt")
    let log : List (Kind × String) := [(.select, "SELECT * FROM `rt`")]
    q.fetchAll executor.noting read ([], []) =
      (.error (.serialization (.otherType "null" "u64")), log, log) ∧
    q.fetchFirst executor.noting read ([], []) = (.ok (some 1), log, log) ∧
    q.fetchSets executor.noting ([], []) = (.error (.invalidQuery .noFacets), [], []) ∧
    q.fetchAll broken.noting read ([], []) = (.error (.transport "pool timed out"), log, log) ∧
    ∃ e, empty.execute executor.noting ([], []) = (.error e, [], []) := by
  intro executor broken read q log
  obtain ⟨-, hall, hfirst, -, hsets, -⟩ := execution_sends_once executor read q
  obtain ⟨kind, ⟨⟩, hall⟩ := hall.sent _ rfl
  obtain ⟨kind, ⟨⟩, hfirst⟩ := hfirst.sent _ rfl
  obtain ⟨kind, ⟨⟩, hbroken⟩ := (execution_sends_once broken read q).2.1.sent _ rfl
  have hunset := (execution_sends_once executor read empty).1.unsent _ rfl
  exact ⟨hall [] [], hfirst [] [], hsets nofun [] [], hbroken [] [], _, hunset [] []⟩

end Query

end SearchQL
