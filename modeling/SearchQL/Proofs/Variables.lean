import Mathlib.Data.List.Forall2
import SearchQL.Error.Message
import SearchQL.Proofs.Numeral
import SearchQL.Proofs.Success
import SearchQL.Settings

/-!
# Settings from variables

A variable that is set gives its setting exactly what stands in it: the host as it is, and of the
others the number that their text denotes, if it has the width of the setting. Variables that are
not set leave the defaults. The first variable in order that denotes no such number is named in the
error.

* `Settings.Variable` is a variable with a number, and `Settings.numbers` are all of them, in order.
* `Settings.ofLookup_eq` reads the settings off the numbers of these variables.
* `Settings.variables_exact` is the result.
-/

namespace SearchQL

/-! ## Numbers in texts -/

namespace Decimal

/-- A text denotes one number at most. -/
theorem Denotes.unique {text : String} {m n : Nat} (hm : Denotes text m) (hn : Denotes text n) :
    m = n := by
  have hread {k : Nat} (hk : Denotes text k) (hle : k ≤ max m n) :
      unsigned? (max m n + 1) (trimChars text.toList) = some k :=
    unsigned?_trimChars.2 ⟨hk, Nat.lt_succ_of_le hle⟩
  have hboth := (hread hm (Nat.le_max_left m n)).symm.trans (hread hn (Nat.le_max_right m n))
  exact Option.some.inj hboth

/-- The digits of a number denote it, with white space around them. -/
theorem denotes_toString {before after : String} (hbefore : blankText before = true)
    (hafter : blankText after = true) (n : Nat) :
    Denotes (before ++ toString n ++ after) n := by
  have hdigits := natural?_eq_some_iff.1 (natural?_toDigits n)
  refine ⟨before.toList, [], Nat.toDigits 10 n, after.toList, ?_, ?_, .inl rfl, hdigits⟩
  · simp
  · exact List.forall_mem_append.2 ⟨List.all_eq_true.1 hbefore, List.all_eq_true.1 hafter⟩

end Decimal

namespace Settings

/-! ## One variable -/

/-- A variable with a number in it. -/
structure Variable where
  key : String
  /-- The first number that is too large for the setting. -/
  bound : Nat
  setting : Settings → Nat

namespace Variable

variable {lookup : String → Option String} {v : Variable}

/-- The number in the variable, if it is set. -/
def read (v : Variable) (lookup : String → Option String) : Except Error (Option Nat) :=
  readVariable lookup v.bound v.key

/-- The variable is not set, or denotes a number of the width of its setting. -/
def Usable (v : Variable) (lookup : String → Option String) : Prop :=
  ∀ text, lookup v.key = some text → ∃ n < v.bound, Decimal.Denotes text n

/-- The setting is what the variable denotes, or the default if it is not set. -/
structure Gives (v : Variable) (lookup : String → Option String) (s : Settings) : Prop where
  set : ∀ text, lookup v.key = some text → Decimal.Denotes text (v.setting s)
  unset : lookup v.key = none → v.setting s = v.setting {}

theorem read_of_unset (h : lookup v.key = none) : v.read lookup = .ok none := by
  rw [read, readVariable, h]

theorem read_of_set {text : String} (h : lookup v.key = some text) :
    v.read lookup = (parseVariable v.bound v.key text).map some := by
  rw [read, readVariable, h]

theorem parseVariable_eq_ok_iff {bound n : Nat} {key text : String} :
    parseVariable bound key text = .ok n ↔ Decimal.Denotes text n ∧ n < bound := by
  rw [← Decimal.unsigned?_trimChars, parseVariable]
  cases Decimal.unsigned? bound (trimChars text.toList) <;> simp

theorem parseVariable_eq_error_iff {bound : Nat} {key text : String} {e : Error} :
    parseVariable bound key text = .error e ↔
      (¬ ∃ n < bound, Decimal.Denotes text n) ∧ e = .configuration (.badValue key text) := by
  have hnone : (¬ ∃ n < bound, Decimal.Denotes text n) ↔
      Decimal.unsigned? bound (trimChars text.toList) = none := by
    simp only [Option.eq_none_iff_forall_ne_some, ne_eq, Decimal.unsigned?_trimChars, not_exists,
      and_comm]
  rw [hnone, parseVariable]
  cases Decimal.unsigned? bound (trimChars text.toList) with
  | none => simp [eq_comm]
  | some n => simp

/-- What is read from a variable is the number that it denotes, if it is set. -/
theorem read_eq_ok_iff {given : Option Nat} : v.read lookup = .ok given ↔
    (∀ text, lookup v.key = some text →
      ∃ n, given = some n ∧ Decimal.Denotes text n ∧ n < v.bound) ∧
    (lookup v.key = none → given = none) := by
  cases hkey : lookup v.key with
  | none => simp [read_of_unset hkey, eq_comm]
  | some text =>
    simp only [read_of_set hkey, ok_map_iff, parseVariable_eq_ok_iff]
    simp [and_comm, eq_comm]

theorem read_eq_error_iff {e : Error} : v.read lookup = .error e ↔
    ∃ text, lookup v.key = some text ∧ (¬ ∃ n < v.bound, Decimal.Denotes text n) ∧
      e = .configuration (.badValue v.key text) := by
  cases hkey : lookup v.key with
  | none => simp [read_of_unset hkey]
  | some text => simp [read_of_set hkey, error_map_iff, parseVariable_eq_error_iff]

theorem succeeds_read : Succeeds (v.read lookup) ↔ v.Usable lookup := by
  rw [← not_iff_not, not_succeeds_iff, Usable]
  simp only [read_eq_error_iff, not_forall, exists_prop]
  constructor
  · rintro ⟨_, text, htext, hnone, -⟩
    exact ⟨text, htext, hnone⟩
  · rintro ⟨text, htext, hnone⟩
    exact ⟨_, text, htext, hnone, rfl⟩

/-- A setting that is what is read, or else the default, is the one that the variable gives. -/
theorem gives_of_read {given : Option Nat} {s : Settings} (hread : v.read lookup = .ok given)
    (hs : v.setting s = given.getD (v.setting {})) : v.Gives lookup s := by
  obtain ⟨hset, hunset⟩ := read_eq_ok_iff.1 hread
  refine ⟨fun text htext => ?_, fun hnone => ?_⟩
  · obtain ⟨n, rfl, hdenotes, -⟩ := hset text htext
    rw [hs]
    exact hdenotes
  · rw [hs, hunset hnone, Option.getD_none]

/-- What is read has the width of the setting. -/
theorem lt_of_read {given : Option Nat} (hread : v.read lookup = .ok given) :
    ∀ n ∈ given, n < v.bound := by
  intro n hn
  obtain ⟨hset, hunset⟩ := read_eq_ok_iff.1 hread
  cases hkey : lookup v.key with
  | none => simp [hunset hkey] at hn
  | some text =>
    obtain ⟨m, rfl, -, hlt⟩ := hset text hkey
    obtain rfl := Option.mem_some_iff.1 hn
    exact hlt

theorem Gives.unique {s s' : Settings} (h : v.Gives lookup s) (h' : v.Gives lookup s') :
    v.setting s = v.setting s' := by
  cases hkey : lookup v.key with
  | none => rw [h.unset hkey, h'.unset hkey]
  | some text => exact (h.set text hkey).unique (h'.set text hkey)

/-- The numbers in variables, up to the first that is not usable. -/
def readAll (lookup : String → Option String) : List Variable → Except Error (List (Option Nat))
  | [] => .ok []
  | v :: vs => do return (← v.read lookup) :: (← readAll lookup vs)

theorem succeeds_readAll (lookup : String → Option String) (vs : List Variable) :
    Succeeds (readAll lookup vs) ↔ ∀ v ∈ vs, v.Usable lookup := by
  simp only [← succeeds_read]
  exact succeeds_list (r := readAll lookup) (succeeds_ok []) (fun _ _ => succeeds_both) vs

theorem readAll_eq_error_iff {vs : List Variable} {e : Error} :
    readAll lookup vs = .error e ↔ ∃ before v after, vs = before ++ v :: after ∧
      (∀ earlier ∈ before, Succeeds (earlier.read lookup)) ∧ v.read lookup = .error e :=
  error_list_iff (r := readAll lookup) rfl fun _ _ => rfl

theorem readAll_eq_ok_iff {vs : List Variable} {given : List (Option Nat)} :
    readAll lookup vs = .ok given ↔ List.Forall₂ (fun v o => v.read lookup = .ok o) vs given :=
  ok_list_iff (r := readAll lookup) rfl fun _ _ => rfl

end Variable

/-! ## All variables -/

/-- The variables with numbers, in the order in which they are read. -/
def numbers : List Variable :=
  [⟨"SPHINX_PORT", UInt16.size, fun s => s.service.toNat⟩,
    ⟨"SPHINX_MAX_CONNECTIONS", UInt32.size, fun s => s.maxConnections.toNat⟩,
    ⟨"SPHINX_ACQUIRE_TIMEOUT_SECS", UInt64.size, fun s => s.acquireTimeout.toNat⟩]

/-- The settings with a host and numbers, in the order of the variables. -/
def ofNumbers (host : Option String) (given : List (Option Nat)) : Settings :=
  ofOptions host (given.getD 0 none) (given.getD 1 none) (given.getD 2 none)

theorem ofLookup_eq (lookup : String → Option String) :
    ofLookup lookup =
      (Variable.readAll lookup numbers).map (ofNumbers (lookup "SPHINX_HOST")) := by
  simp only [numbers, Variable.readAll, Variable.read, ofLookup]
  rcases readVariable lookup UInt16.size "SPHINX_PORT" with e | service
  · rfl
  rcases readVariable lookup UInt32.size "SPHINX_MAX_CONNECTIONS" with e | maxConnections
  · rfl
  rcases readVariable lookup UInt64.size "SPHINX_ACQUIRE_TIMEOUT_SECS" with e | acquireTimeout
  · rfl
  rfl

theorem setting_lt {v : Variable} (hv : v ∈ numbers) (s : Settings) : v.setting s < v.bound := by
  simp only [numbers, List.mem_cons, List.not_mem_nil, or_false] at hv
  rcases hv with rfl | rfl | rfl
  · exact s.service.toNat_lt
  · exact s.maxConnections.toNat_lt
  · exact s.acquireTimeout.toNat_lt

/-- Settings are their host and the numbers that variables give. -/
theorem eq_of_numbers {s s' : Settings} (hhost : s.host = s'.host)
    (h : ∀ v ∈ numbers, v.setting s = v.setting s') : s = s' := by
  simp only [numbers, List.forall_mem_cons, UInt16.toNat_inj, UInt32.toNat_inj,
    UInt64.toNat_inj] at h
  obtain ⟨hservice, hmaxConnections, hacquireTimeout, -⟩ := h
  cases s
  cases s'
  simp_all

/-- A number of the width of a setting is kept, and the default where there is none. -/
theorem setting_getD {α : Type} {ofNat : Nat → α} {toNat : α → Nat} {bound : Nat}
    (h : ∀ n < bound, toNat (ofNat n) = n) {given : Option Nat} (hgiven : ∀ n ∈ given, n < bound)
    (default : α) : toNat ((given.map ofNat).getD default) = given.getD (toNat default) := by
  cases given with
  | none => rfl
  | some n => exact h n (hgiven n rfl)

/-- The settings with the numbers that are read are those that the variables give. -/
theorem gives_ofNumbers {lookup : String → Option String} {given : List (Option Nat)}
    (h : Variable.readAll lookup numbers = .ok given) (host : Option String) :
    ∀ v ∈ numbers, v.Gives lookup (ofNumbers host given) := by
  rw [Variable.readAll_eq_ok_iff] at h
  simp only [numbers, List.forall₂_cons_left_iff, List.forall₂_nil_left_iff] at h
  obtain ⟨service, _, hservice, ⟨maxConnections, _, hmaxConnections,
    ⟨acquireTimeout, _, hacquireTimeout, rfl, rfl⟩, rfl⟩, rfl⟩ := h
  have hport : ∀ n < UInt16.size, n.toUInt16.toNat = n := fun n => Nat.mod_eq_of_lt
  have hcount : ∀ n < UInt32.size, n.toUInt32.toNat = n := fun n => Nat.mod_eq_of_lt
  have hseconds : ∀ n < UInt64.size, n.toUInt64.toNat = n := fun n => Nat.mod_eq_of_lt
  rw [numbers, List.forall_mem_cons, List.forall_mem_cons, List.forall_mem_singleton]
  exact ⟨Variable.gives_of_read hservice (setting_getD hport (Variable.lt_of_read hservice) _),
    Variable.gives_of_read hmaxConnections
      (setting_getD hcount (Variable.lt_of_read hmaxConnections) _),
    Variable.gives_of_read hacquireTimeout
      (setting_getD hseconds (Variable.lt_of_read hacquireTimeout) _)⟩

/-- The settings are read exactly if the host and the variables give them. -/
theorem ofLookup_eq_ok_iff {lookup : String → Option String} {s : Settings} :
    ofLookup lookup = .ok s ↔
      s.host = (lookup "SPHINX_HOST").getD ({} : Settings).host ∧
        ∀ v ∈ numbers, v.Gives lookup s := by
  have hgives {s : Settings} (h : ofLookup lookup = .ok s) :
      s.host = (lookup "SPHINX_HOST").getD ({} : Settings).host ∧
        ∀ v ∈ numbers, v.Gives lookup s := by
    rw [ofLookup_eq, ok_map_iff] at h
    obtain ⟨given, hgiven, rfl⟩ := h
    exact ⟨rfl, gives_ofNumbers hgiven _⟩
  refine ⟨hgives, fun ⟨hhost, hnumbers⟩ => ?_⟩
  have husable : ∀ v ∈ numbers, v.Usable lookup := fun v hv text htext =>
    ⟨v.setting s, setting_lt hv s, (hnumbers v hv).set text htext⟩
  obtain ⟨given, hgiven⟩ := (Variable.succeeds_readAll lookup numbers).2 husable
  have hok : ofLookup lookup = .ok (ofNumbers (lookup "SPHINX_HOST") given) := by
    rw [ofLookup_eq, hgiven]
    rfl
  obtain ⟨hhost', hnumbers'⟩ := hgives hok
  rw [hok, eq_of_numbers (hhost.trans hhost'.symm) fun v hv =>
    (hnumbers v hv).unique (hnumbers' v hv)]

/-- The first variable that is not usable gives the error. -/
theorem ofLookup_eq_error_iff {lookup : String → Option String} {e : Error} :
    ofLookup lookup = .error e ↔ ∃ before v after text, numbers = before ++ v :: after ∧
      (∀ earlier ∈ before, earlier.Usable lookup) ∧ lookup v.key = some text ∧
      (¬ ∃ n < v.bound, Decimal.Denotes text n) ∧ e = .configuration (.badValue v.key text) := by
  rw [ofLookup_eq, error_map_iff, Variable.readAll_eq_error_iff]
  simp only [Variable.succeeds_read, Variable.read_eq_error_iff, exists_and_left]

/-! ## The result -/

/-- **Settings are read from variables exactly.** They are read exactly if each variable with a
number that is set denotes one of the width of its setting. Then each setting is what its variable
gives, the host as it is, and every other setting is the default. Otherwise the first variable that
does not is named in the error. So settings are read back from the digits of their numbers, with
white space around them or not. -/
theorem variables_exact (lookup : String → Option String) :
    ((∃ s, ofLookup lookup = .ok s) ↔ ∀ v ∈ numbers, ∀ text, lookup v.key = some text →
      ∃ n < v.bound, Decimal.Denotes text n) ∧
    (∀ s, ofLookup lookup = .ok s ↔
      s.host = (lookup "SPHINX_HOST").getD ({} : Settings).host ∧
      ∀ v ∈ numbers, (∀ text, lookup v.key = some text → Decimal.Denotes text (v.setting s)) ∧
        (lookup v.key = none → v.setting s = v.setting {})) ∧
    (∀ e, ofLookup lookup = .error e → ∃ before v after text, numbers = before ++ v :: after ∧
      (∀ earlier ∈ before, earlier.Usable lookup) ∧ lookup v.key = some text ∧
      (¬ ∃ n < v.bound, Decimal.Denotes text n) ∧ e = .configuration (.badValue v.key text) ∧
      e.message =
        "Configuration error: " ++ (v.key ++ " has an invalid value: " ++ Quoted.encode text)) ∧
    ∀ s : Settings, lookup "SPHINX_HOST" = some s.host →
      (∀ v ∈ numbers, ∃ before after, blankText before = true ∧ blankText after = true ∧
        lookup v.key = some (before ++ toString (v.setting s) ++ after)) →
      ofLookup lookup = .ok s := by
  refine ⟨?_, fun s => ?_, fun e he => ?_, fun s hhost hnumbers => ?_⟩
  · have hreads := Variable.succeeds_readAll lookup numbers
    rw [← succeeds_map (f := ofNumbers (lookup "SPHINX_HOST")), ← ofLookup_eq] at hreads
    exact hreads
  · rw [ofLookup_eq_ok_iff]
    exact and_congr_right fun _ => forall₂_congr fun v _ =>
      ⟨fun h => ⟨h.set, h.unset⟩, fun h => ⟨h.1, h.2⟩⟩
  · obtain ⟨before, v, after, text, hnumbers, hbefore, htext, hnone, rfl⟩ :=
      ofLookup_eq_error_iff.1 he
    exact ⟨before, v, after, text, hnumbers, hbefore, htext, hnone, rfl, rfl⟩
  · refine ofLookup_eq_ok_iff.2 ⟨by rw [hhost, Option.getD_some], fun v hv => ?_⟩
    obtain ⟨before, after, hbefore, hafter, htext⟩ := hnumbers v hv
    refine ⟨fun text h => ?_, fun h => ?_⟩
    · cases htext.symm.trans h
      exact Decimal.denotes_toString hbefore hafter (v.setting s)
    · cases htext.symm.trans h

/-- Variables at the limits of their settings, with white space that is not plain, and variables of
which two are too large. -/
theorem variables_exact_limits :
    let s : Settings := ⟨" h ", 65535, 0, 18446744073709551615⟩
    let lookup : String → Option String := fun key =>
      if key = "SPHINX_HOST" then some " h "
      else if key = "SPHINX_PORT" then some "\u00a065535\n"
      else if key = "SPHINX_MAX_CONNECTIONS" then some "0"
      else some "\u300018446744073709551615"
    let beyond : String → Option String := fun key =>
      if key = "SPHINX_PORT" then some " +0065535"
      else if key = "SPHINX_MAX_CONNECTIONS" then some "4294967296"
      else if key = "SPHINX_ACQUIRE_TIMEOUT_SECS" then some "18446744073709551616"
      else none
    ofLookup lookup = .ok s ∧ (¬ ∃ s, ofLookup beyond = .ok s) ∧
    ∃ e : Error, ofLookup beyond = .error e ∧ e.message =
      "Configuration error: SPHINX_MAX_CONNECTIONS has an invalid value: \"4294967296\"" := by
  intro s lookup beyond
  obtain ⟨-, -, -, hback⟩ := variables_exact lookup
  obtain ⟨hreads, -, hfails, -⟩ := variables_exact beyond
  have herror : ofLookup beyond =
      .error (.configuration (.badValue "SPHINX_MAX_CONNECTIONS" "4294967296")) := rfl
  refine ⟨hback s rfl ?_, fun h => ?_, ?_⟩
  · rw [numbers, List.forall_mem_cons, List.forall_mem_cons, List.forall_mem_singleton]
    exact ⟨⟨"\u00a0", "\n", by decide, by decide, by decide⟩,
      ⟨"", "", by decide, by decide, by decide⟩,
      ⟨"\u3000", "", by decide, by decide, by decide⟩⟩
  · have hsecond : ⟨"SPHINX_MAX_CONNECTIONS", UInt32.size, fun s => s.maxConnections.toNat⟩ ∈
        numbers := List.mem_of_getElem? (i := 1) rfl
    have hlarge : parseVariable UInt32.size "SPHINX_MAX_CONNECTIONS" "4294967296" =
        .error (.configuration (.badValue "SPHINX_MAX_CONNECTIONS" "4294967296")) := rfl
    exact (Variable.parseVariable_eq_error_iff.1 hlarge).1
      (hreads.1 h _ hsecond "4294967296" rfl)
  · obtain ⟨_, v, _, text, -, -, -, -, hcause, hmessage⟩ := hfails _ herror
    rw [Error.configuration.injEq, SettingFault.badValue.injEq] at hcause
    obtain ⟨hkey, rfl⟩ := hcause
    refine ⟨_, herror, ?_⟩
    rw [hmessage, ← hkey]
    decide +kernel

end Settings

end SearchQL
