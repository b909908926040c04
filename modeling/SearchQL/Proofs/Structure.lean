import SearchQL.Proofs.Edge
import SearchQL.Proofs.Outcome
import SearchQL.Query.Build
import SearchQL.Query.Render

/-!
# The structure of a statement

User text does not decide how a statement is split into tokens: a query and the query without its
user text fail alike, or have texts that are alike. The proof follows the rendering functions, one
statement for each of them, over all queries, values, columns and conditions at once.

* `Operand` is what the induction carries for values: their texts are alike, and trimming leaves
  them as they are.
* `Query.clauses_redact` is the case of a query: its clauses are alike to those of the redacted one.
* `Query.tokens_agree` is the result for two queries that differ only in user text.
-/

namespace SearchQL

/-! ## Operands -/

/-- Alike texts without white space at their ends. -/
structure Operand (s t : String) : Prop where
  alike : Alike s t
  left : Edged s
  right : Edged t

namespace Operand

theorem of_bare {s : String} (hbare : Bare s) (hedged : Edged s) : Operand s s :=
  ⟨.of_bare hbare, hedged, hedged⟩

theorem literal (s t : String) : Operand (Literal.encode s) (Literal.encode t) :=
  ⟨.literal s t, .literal s, .literal t⟩

theorem parenthesised {s t : String} (h : Alike s t) :
    Operand (parenthesised s) (parenthesised t) := by
  have hopen := (Alike.word "(" (by decide)).append h
  exact ⟨hopen.append (.word ")" (by decide)), .parenthesised s, .parenthesised t⟩

/-- Bare characters behind an optional sign. -/
theorem of_sign {s : String} {negative : Prop} [Decidable negative] {cs : List Char}
    (h : s.toList = (if negative then ['-'] else []) ++ cs)
    (hcs : ∀ c ∈ cs, c.isDigit = true ∨ c = '.') (hedged : Edged s) : Operand s s := by
  refine of_bare (fun c hc => ?_) hedged
  have hc : c = '-' ∨ c.isDigit = true ∨ c = '.' := by
    rw [h, List.mem_append] at hc
    rcases hc with hc | hc
    · split at hc
      · exact .inl (List.mem_singleton.1 hc)
      · simp at hc
    · exact .inr (hcs c hc)
  rcases hc with rfl | hdigit | rfl
  · decide
  · exact ⟨ne_of_isDigit hdigit (by decide), ne_of_isDigit hdigit (by decide)⟩
  · decide

theorem ofInt (n : Int) : Operand (toString n) (toString n) :=
  of_sign (toList_toString n) (fun _ hc => .inl (isDigit_of_mem_toDigits hc)) (.ofInt n)

theorem fixed (x : Binary64) : Operand x.fixed x.fixed := by
  refine of_sign (toList_fixed x) (fun c hc => ?_) (.fixed x)
  simp only [Binary64.pointed, List.mem_append, List.mem_cons] at hc
  rcases hc with hc | rfl | hc
  · exact .inl (isDigit_of_mem_toDigits hc)
  · exact .inr rfl
  · exact .inl (isDigit_of_mem_sixDigits hc)

theorem forall_alike {ss ts : List String} (h : List.Forall₂ Operand ss ts) :
    List.Forall₂ Alike ss ts :=
  h.imp fun _ _ hst => hst.alike

theorem bracketed (sep : String) {ss ts : List String} (h : List.Forall₂ Operand ss ts)
    (hsep : Bare sep := by decide) : Operand (bracketed sep ss) (bracketed sep ts) :=
  parenthesised (.joinWith (.of_bare hsep) (forall_alike h))

theorem append {s s' t t' : String} (h : Operand s t) (mid : String) (h' : Operand s' t')
    (hmid : Bare mid := by decide) : Operand (s ++ mid ++ s') (t ++ mid ++ t') :=
  ⟨(h.alike.append (.of_bare hmid)).append h'.alike, h.left.append mid h'.left,
    h.right.append mid h'.right⟩

/-- A list with members has its ends in them. -/
theorem joinWith (sep : String) {ss ts : List String} (hne : ss ≠ [])
    (h : List.Forall₂ Operand ss ts) (hsep : Bare sep := by decide) :
    Operand (joinWith sep ss) (joinWith sep ts) := by
  induction h with
  | nil => exact absurd rfl hne
  | cons hst hrest ih =>
    cases hrest with
    | nil => exact hst
    | cons _ _ => exact hst.append sep (ih (by simp)) hsep

theorem dotted (name : String) : Operand (Identifier.dotted name) (Identifier.dotted name) :=
  ⟨.dotted name, .dotted name, .dotted name⟩

end Operand

/-- The texts of a column before an operator: both empty, or operands. -/
def Subject (s t : String) : Prop := s = "" ∧ t = "" ∨ Operand s t

/-- How the texts of a column at a place are related. -/
def Place.Agree : Place → String → String → Prop
  | .predicate => Subject
  | _ => Alike

namespace Place.Agree

theorem alike {place : Place} {s t : String} (h : place.Agree s t) : Alike s t := by
  cases place with
  | column => exact h
  | index => exact h
  | predicate =>
    rcases h with ⟨rfl, rfl⟩ | h
    · exact .of_bare bare_empty
    · exact h.alike

theorem name (place : Place) (name : String) : place.Agree (place.name name) (place.name name) := by
  cases place with
  | column => exact Alike.dotted name
  | index => exact Alike.segment name
  | predicate =>
    by_cases hname : name = ""
    · exact .inl ⟨by simp [Place.name, hname], by simp [Place.name, hname]⟩
    · have htext : Place.predicate.name name = Identifier.dotted name := by simp [Place.name, hname]
      rw [htext]
      exact .inr (.dotted name)

theorem parenthesised (place : Place) {s t : String} (h : Alike s t) :
    place.Agree (parenthesised s) (parenthesised t) := by
  cases place with
  | column => exact (Operand.parenthesised h).alike
  | index => exact (Operand.parenthesised h).alike
  | predicate => exact .inr (.parenthesised h)

theorem label {place : Place} {s t : String} (h : place.Agree s t) (label : String) :
    place.Agree (s ++ place.label label) (t ++ place.label label) := by
  have haliasing : Alike (Identifier.aliasing label) (Identifier.aliasing label) :=
    .append (.word " AS " (by decide)) (.segment label)
  cases place with
  | column => exact Alike.append h haliasing
  | index => exact Alike.append h haliasing
  | predicate => simpa [Place.label] using h

end Place.Agree

/-! ## Conditions -/

namespace Operator

theorem symbol_of_named : ∀ op ∈ named, Bare op.symbol ∧ Edged op.symbol := by decide

/-- Around a named operator only the blank behind an empty column name is trimmed. -/
theorem compose_operand {op : Operator} (hop : op ∈ named)
    {left left' right right' : Except Error String} (hleft : SameOutcome Subject left left')
    (hright : SameOutcome Operand right right') :
    SameOutcome Operand (op.compose left right) (op.compose left' right') := by
  refine hleft.bind fun s t hst => hright.bind fun s' t' hst' => .ok ?_
  obtain ⟨hbare, hedged⟩ := symbol_of_named op hop
  have hsymbol : Operand op.symbol op.symbol := .of_bare hbare hedged
  rcases hst with ⟨rfl, rfl⟩ | hst
  · have h := hsymbol.append " " hst'
    have htrim : ∀ u, trim ("" ++ " " ++ op.symbol ++ " " ++ u) =
        trim (" " ++ (op.symbol ++ " " ++ u)) := fun u => by simp [String.append_assoc]
    rw [htrim, htrim, h.left.trim_blank_append, h.right.trim_blank_append]
    exact h
  · have h := (hst.append " " hsymbol).append " " hst'
    rw [h.left.trim_eq, h.right.trim_eq]
    exact h

/-- A range is only written with both of its bounds. -/
theorem operand_operand {op : Operator} {count : Nat} {x x' : Except Error (List String)}
    (hcount : ∀ texts, x = .ok texts → texts.length = count)
    (h : SameOutcome (List.Forall₂ Operand) x x') :
    SameOutcome Operand (op.operand count x) (op.operand count x') := by
  unfold Operator.operand
  split
  · split
    · rename_i hcount'
      cases h with
      | error e => exact .error e
      | ok h =>
        refine .ok (Operand.joinWith " AND " ?_ h)
        rintro rfl
        simpa [hcount'] using hcount [] rfl
    · exact .error _
  · split
    · exact h.map fun _ _ htexts => Operand.bracketed "," htexts
    · exact h.map fun _ _ htexts => Operand.bracketed ", " htexts

end Operator

/-- Each value has one text. -/
theorem Value.length_renderAll {values : List Value} {texts : List String}
    (h : Value.renderAll values = .ok texts) : texts.length = values.length := by
  induction values generalizing texts with
  | nil =>
    obtain rfl : [] = texts := by simpa [Value.renderAll] using h
    rfl
  | cons value rest ih =>
    rw [Value.renderAll] at h
    cases hvalue : value.render with
    | error e => simp [hvalue, bind, Except.bind] at h
    | ok text =>
      cases hrest : Value.renderAll rest with
      | error e => simp [hvalue, hrest, bind, Except.bind] at h
      | ok texts' =>
        obtain rfl : text :: texts' = texts := by
          simpa [hvalue, hrest, bind, Except.bind, pure, Except.pure] using h
        simp [ih hrest]

/-! ## Rendering -/

/-- A rendered entry of a group: the same bracket, or operands joined by the same logic. -/
inductive Entry.Agree : Entry String → Entry String → Prop where
  | opened (logic : Logic) : Entry.Agree (.opened logic) (.opened logic)
  | closed : Entry.Agree .closed .closed
  | clause (logic : Logic) {s t : String} (h : Operand s t) :
    Entry.Agree (.clause logic s) (.clause logic t)

namespace Group

theorem joint_alike (started afterOpen : Bool) (logic : Logic) :
    Alike (joint started afterOpen logic) (joint started afterOpen logic) := by
  revert started afterOpen logic
  have hbare : ∀ started afterOpen, Bare (joint started afterOpen .and) ∧
      Bare (joint started afterOpen .or) := by decide
  intro started afterOpen logic
  cases logic with
  | and => exact .of_bare (hbare started afterOpen).1
  | or => exact .of_bare (hbare started afterOpen).2

/-- The text of a group depends on its clauses only through their texts. -/
theorem layOut_alike {entries entries' : List (Entry String)}
    (h : List.Forall₂ Entry.Agree entries entries') (started afterOpen : Bool) :
    Alike (layOut started afterOpen entries) (layOut started afterOpen entries') := by
  induction h generalizing started afterOpen with
  | nil => exact .of_bare bare_empty
  | cons hentry hrest ih =>
    cases hentry with
    | opened logic =>
      have hopen := (joint_alike started afterOpen logic).append (.word "(" (by decide))
      exact hopen.append (ih true true)
    | closed => exact (Alike.word ")" (by decide)).append (ih true false)
    | clause logic hst =>
      have hleft := bne_iff_ne.2 hst.left.ne_empty
      have hright := bne_iff_ne.2 hst.right.ne_empty
      simp only [layOut, hleft, hright, Bool.or_true]
      exact ((joint_alike started afterOpen logic).append hst.alike).append (ih true false)

theorem balancedText_alike (label : String) (depth : Nat)
    {x x' : Except Error (List (Entry String))} (h : SameOutcome (List.Forall₂ Entry.Agree) x x') :
    SameOutcome Alike (balancedText label depth x) (balancedText label depth x') := by
  unfold balancedText
  split
  · exact .error _
  · exact h.map fun _ _ hentries => layOut_alike hentries false false

end Group

/-- The argument of MATCH is one literal, whatever is searched for. -/
theorem Search.argument_redact (searches : List Search) :
    Option.Rel Alike (if searches.isEmpty then none else some (Search.argument searches))
      (if (searches.map Search.redact).isEmpty then none
        else some (Search.argument (searches.map Search.redact))) := by
  cases searches with
  | nil => exact .none
  | cons search rest => exact .some (.literal _ _)

/-- The statement of a query from its clauses. -/
theorem Clauses.Agree.render {q : Query} (h : Clauses.Agree q.kind q.clauses q.redact.clauses) :
    SameOutcome Alike q.render q.redact.render := by
  rw [Query.render, Query.render, Query.kind_redact]
  exact h.statement

mutual

theorem Value.render_redact : ∀ v : Value, v.isPlain = true →
    SameOutcome Operand v.render v.redact.render
  | .null, _ => .ok (.of_bare (by decide) (by decide))
  | .bool true, _ => .ok (.literal "1" "1")
  | .bool false, _ => .ok (.literal "0" "0")
  | .int n, _ => .ok (.ofInt n)
  | .float x, _ => by
    simp only [Value.redact, Value.render, Binary64.render]
    split
    · exact .ok (.fixed x)
    · exact .error _
  | .text s, _ => .ok (.literal s "")
  | .list items, h => by
    rw [Value.isPlain] at h
    simp only [Value.redact, Value.render]
    exact (Value.renderAll_redact items h).map fun _ _ htexts => Operand.bracketed ", " htexts
  | .query q, h => by
    rw [Value.isPlain] at h
    simp only [Value.redact, Value.render_query]
    exact (Query.clauses_redact q h).render.map fun _ _ => Operand.parenthesised
  | .template _, h => by simp [Value.isPlain] at h

theorem Value.renderAll_redact : ∀ values : List Value, Value.allPlain values = true →
    SameOutcome (List.Forall₂ Operand) (Value.renderAll values)
      (Value.renderAll (Value.redactAll values))
  | [], _ => .ok .nil
  | value :: rest, h => by
    rw [Value.allPlain, Bool.and_eq_true] at h
    exact (Value.render_redact value h.1).cons (Value.renderAll_redact rest h.2)

theorem Value.renderRows_redact : ∀ rows : List (List Value), Value.rowsPlain rows = true →
    SameOutcome (List.Forall₂ Alike) (Value.renderRows rows)
      (Value.renderRows (Value.redactRows rows))
  | [], _ => .ok .nil
  | row :: rest, h => by
    rw [Value.rowsPlain, Bool.and_eq_true] at h
    refine (Value.renderAll_redact row h.1).bind fun _ _ hrow => ?_
    refine (Value.renderRows_redact rest h.2).bind fun _ _ hrest => .ok (.cons ?_ hrest)
    exact (Operand.bracketed ", " hrow).alike

theorem Column.render_redact (place : Place) : ∀ c : Column, c.isPlain = true →
    SameOutcome place.Agree (c.render place) (c.redact.render place)
  | .name name, _ => .ok (.name place name)
  | .template _, h => by simp [Column.isPlain] at h
  | .query q, h => by
    rw [Column.isPlain] at h
    simp only [Column.redact, Column.render_query]
    exact (Query.clauses_redact q h).render.map fun _ _ => Place.Agree.parenthesised place
  | .aliased column label, h => by
    rw [Column.isPlain] at h
    simp only [Column.redact, Column.render]
    exact (Column.render_redact place column h).map fun _ _ hst => hst.label label

theorem Column.renderAll_redact (place : Place) : ∀ columns : List Column,
    Column.allPlain columns = true →
    SameOutcome (List.Forall₂ Alike) (Column.renderAll place columns)
      (Column.renderAll place (Column.redactAll columns))
  | [], _ => .ok .nil
  | column :: rest, h => by
    rw [Column.allPlain, Bool.and_eq_true] at h
    have hcolumn := (Column.render_redact place column h.1).mono fun _ _ => Place.Agree.alike
    exact hcolumn.cons (Column.renderAll_redact place rest h.2)

theorem Column.renderTarget_redact : ∀ target : Option Column, Column.optionPlain target = true →
    Option.Rel (SameOutcome Alike) (Column.renderTarget target)
      (Column.renderTarget (Column.redactOption target))
  | none, _ => .none
  | some column, h => by
    rw [Column.optionPlain] at h
    exact .some ((Column.render_redact .index column h).mono fun _ _ => Place.Agree.alike)

theorem Condition.render_redact : ∀ condition : Condition, condition.isPlain = true →
    SameOutcome Operand condition.render condition.redact.render
  | ⟨column, op, value⟩, h => by
    simp only [Condition.isPlain, Bool.and_eq_true, decide_eq_true_eq] at h
    obtain ⟨⟨hcolumn, hop⟩, hvalue⟩ := h
    have hleft := Column.render_redact .predicate column hcolumn
    cases value with
    | list items =>
      rw [Value.isPlain] at hvalue
      simp only [Condition.redact, Value.redact, Condition.render, Value.length_redactAll]
      exact Operator.compose_operand hop hleft (Operator.operand_operand
        (fun _ => Value.length_renderAll) (Value.renderAll_redact items hvalue))
    | _ =>
      exact Operator.compose_operand (Operator.before_named hop _) hleft
        (Value.render_redact _ hvalue)

theorem Condition.renderEntries_redact : ∀ entries : List (Entry Condition),
    Condition.entriesPlain entries = true →
    SameOutcome (List.Forall₂ Entry.Agree) (Condition.renderEntries entries)
      (Condition.renderEntries (Condition.redactEntries entries))
  | [], _ => .ok .nil
  | .opened logic :: rest, h => by
    rw [Condition.entriesPlain] at h
    exact (Condition.renderEntries_redact rest h).map fun _ _ => .cons (.opened logic)
  | .closed :: rest, h => by
    rw [Condition.entriesPlain] at h
    exact (Condition.renderEntries_redact rest h).map fun _ _ => .cons .closed
  | .clause logic condition :: rest, h => by
    rw [Condition.entriesPlain, Bool.and_eq_true] at h
    refine (Condition.render_redact condition h.1).bind fun _ _ hst => ?_
    exact (Condition.renderEntries_redact rest h.2).bind fun _ _ hrest =>
      .ok (.cons (.clause logic hst) hrest)

theorem Condition.renderClause_redact (scope : Scope) : ∀ group : Group Condition,
    Condition.groupPlain group = true →
    Option.Rel (SameOutcome Alike) (Condition.renderClause scope group)
      (Condition.renderClause scope (Condition.redactGroup group))
  | ⟨entries, depth⟩, h => by
    rw [Condition.groupPlain] at h
    simp only [Condition.redactGroup, Condition.renderClause, Condition.isEmpty_redactEntries]
    split
    · exact .none
    · exact .some (Group.balancedText_alike _ _ (Condition.renderEntries_redact entries h))

theorem Facet.render_redact : ∀ facet : Facet, facet.isPlain = true →
    SameOutcome Alike facet.render facet.redact.render
  | .body _, h => by simp [Facet.isPlain] at h
  | .template _, h => by simp [Facet.isPlain] at h
  | .query q, h => by
    rw [Facet.isPlain] at h
    exact (Query.clauses_redact q h).render

theorem Facet.renderAll_redact : ∀ facets : List Facet, Facet.allPlain facets = true →
    SameOutcome (List.Forall₂ Alike) (Facet.renderAll facets)
      (Facet.renderAll (Facet.redactAll facets))
  | [], _ => .ok .nil
  | facet :: rest, h => by
    rw [Facet.allPlain, Bool.and_eq_true] at h
    exact (Facet.render_redact facet h.1).cons (Facet.renderAll_redact rest h.2)

theorem OrderKey.renderAll_redact : ∀ keys : List OrderKey, OrderKey.allPlain keys = true →
    SameOutcome (List.Forall₂ Alike) (OrderKey.renderAll keys)
      (OrderKey.renderAll (OrderKey.redactAll keys))
  | [], _ => .ok .nil
  | ⟨column, direction⟩ :: rest, h => by
    rw [OrderKey.allPlain, Bool.and_eq_true] at h
    refine (Column.render_redact .column column h.1).bind fun _ _ hst => ?_
    refine (OrderKey.renderAll_redact rest h.2).bind fun _ _ hrest => .ok (.cons ?_ hrest)
    have hspace := hst.alike.append (.word " " (by decide))
    cases direction with
    | ascending => exact hspace.append (.word "ASC" (by decide))
    | descending => exact hspace.append (.word "DESC" (by decide))

theorem Assignment.renderAll_redact : ∀ assignments : List Assignment,
    Assignment.allPlain assignments = true →
    SameOutcome (List.Forall₂ Alike) (Assignment.renderAll assignments)
      (Assignment.renderAll (Assignment.redactAll assignments))
  | [], _ => .ok .nil
  | ⟨column, value⟩ :: rest, h => by
    simp only [Assignment.allPlain, Bool.and_eq_true] at h
    refine (Column.render_redact .column column h.1.1).bind fun _ _ hst => ?_
    refine (Value.render_redact value h.1.2).bind fun _ _ hvalue => ?_
    refine (Assignment.renderAll_redact rest h.2).bind fun _ _ hrest => .ok (.cons ?_ hrest)
    exact (hst.alike.append (.word " = " (by decide))).append hvalue.alike

theorem Input.render_redact : ∀ input : Input, input.isPlain = true →
    SameOutcome Alike input.render input.redact.render
  | .rows rows, h => by
    rw [Input.isPlain] at h
    refine (Value.renderRows_redact rows h).map fun _ _ hrows => ?_
    exact (Alike.word "VALUES " (by decide)).append (.joinWith (.word ", " (by decide)) hrows)
  | .query q, h => by
    rw [Input.isPlain] at h
    exact (Query.clauses_redact q h).render

theorem Query.clauses_redact : ∀ q : Query, q.isPlain = true →
    Clauses.Agree q.kind q.clauses q.redact.clauses
  | ⟨kind, columns, distinct, indexes, searches, groupBy, having, options, facets, offset, target,
      fields, input, assignments, raw, filters, orderBy, limit, lastOpened⟩, h => by
    simp only [Query.isPlain, Bool.and_eq_true] at h
    obtain ⟨⟨⟨⟨⟨⟨⟨⟨⟨⟨⟨⟨⟨hcolumns, hindexes⟩, hsearches⟩, hgroupBy⟩, hhaving⟩, hoptions⟩, hfacets⟩,
      htarget⟩, hfields⟩, hinput⟩, hassignments⟩, hraw⟩, hfilters⟩, horderBy⟩ := h
    obtain rfl : options = [] := by simpa using hoptions
    obtain rfl : raw = none := by simpa using hraw
    simp only [Query.redact, Query.clauses]
    exact {
      columns := fun hkind => by
        rw [if_pos hkind]
        exact (Column.renderAll_redact .column columns hcolumns).self
      distinct := rfl
      indexes := Column.renderAll_redact .index indexes hindexes
      search := Search.argument_redact searches
      filters := Condition.renderClause_redact .filters filters hfilters
      groupBy := Column.renderAll_redact .column groupBy hgroupBy
      having := Condition.renderClause_redact .having having hhaving
      orderBy := OrderKey.renderAll_redact orderBy horderBy
      limit := rfl
      offset := rfl
      options := .nil
      facets := Facet.renderAll_redact facets hfacets
      target := Column.renderTarget_redact target htarget
      fields := Column.renderAll_redact .column fields hfields
      input := Input.render_redact input hinput
      assignments := Assignment.renderAll_redact assignments hassignments
      raw := .none }

end

/-- **A plain query and the query without its user text** fail with the same error, or have texts
that differ only in literals. -/
theorem Query.render_redact (q : Query) (h : q.isPlain = true) :
    SameOutcome Alike q.render q.redact.render :=
  (Query.clauses_redact q h).render

/-! ## User text -/

/-- **User text cannot change the structure of a statement.** Two plain queries that differ only in
user text both have a statement or neither has. If they have, both statements are split into
tokens, equally many of them, and the tokens are equal up to the payloads of literals. -/
theorem Query.tokens_agree (q q' : Query) (hq : q.isPlain = true) (hq' : q'.isPlain = true)
    (hredact : q.redact = q'.redact) :
    ((∃ s, q.render = .ok s) ↔ ∃ s', q'.render = .ok s') ∧
      ∀ s s', q.render = .ok s → q'.render = .ok s' →
        ∃ tokens tokens', Token.split s = some tokens ∧ Token.split s' = some tokens' ∧
          tokens.length = tokens'.length ∧
          tokens.map Token.hollow = tokens'.map Token.hollow := by
  have h := Query.render_redact q hq
  have h' := Query.render_redact q' hq'
  rw [← hredact] at h'
  generalize q.redact.render = y at h h'
  generalize q.render = x at h ⊢
  generalize q'.render = x' at h' ⊢
  cases h with
  | error e =>
    cases h' with
    | error e => exact ⟨by simp, by simp⟩
  | ok hs =>
    cases h' with
    | ok hs' =>
      refine ⟨by simp, ?_⟩
      rintro s s' ⟨rfl⟩ ⟨rfl⟩
      obtain ⟨tokens, tokens', htokens, htokens', hhollow⟩ := (hs.trans hs'.symm).exists_split
      have hlength : tokens.length = tokens'.length := by
        simpa using congrArg List.length hhollow
      exact ⟨tokens, tokens', htokens, htokens', hlength, hhollow⟩

/-- A selection with what a user typed in its search and in the condition of a sub-query. -/
def Query.typed (s : String) : Query :=
  let tagged := (Query.selectingFrom (.name "tags")).addFilter .and (.equal (.name "tag") (.text s))
  ((Query.selectingFrom (.name "docs")).addSearch ⟨none, .text s⟩).addCondition .filters .and
    ⟨.name "id", .inList, .query tagged⟩

/-- A text that would close its literal is one literal in the search and one in the sub-query. -/
theorem Query.tokens_agree_typed :
    (typed "a").isPlain = true ∧ (typed "\\' OR 1 -- ").isPlain = true ∧
      (typed "a").redact = (typed "\\' OR 1 -- ").redact ∧
      (typed "a").render =
        .ok ("SELECT * FROM `docs` WHERE MATCH('a') AND " ++
          "`id` IN (SELECT * FROM `tags` WHERE `tag` = 'a')") ∧
      ∃ s s' tokens tokens', (typed "a").render = .ok s ∧
        (typed "\\' OR 1 -- ").render = .ok s' ∧
        Token.split s = some tokens ∧ Token.split s' = some tokens' ∧
        tokens.length = tokens'.length ∧
        tokens.map Token.hollow = tokens'.map Token.hollow := by
  have hplain : (typed "a").isPlain = true := by decide
  have hplain' : (typed "\\' OR 1 -- ").isPlain = true := by decide
  have hredact : (typed "a").redact = (typed "\\' OR 1 -- ").redact := rfl
  have hrender : (typed "a").render = .ok ("SELECT * FROM `docs` WHERE MATCH('a') AND " ++
      "`id` IN (SELECT * FROM `tags` WHERE `tag` = 'a')") := by
    decide +kernel
  obtain ⟨hiff, hagree⟩ := Query.tokens_agree _ _ hplain hplain' hredact
  obtain ⟨s', hs'⟩ := hiff.1 ⟨_, hrender⟩
  obtain ⟨tokens, tokens', h⟩ := hagree _ s' hrender hs'
  exact ⟨hplain, hplain', hredact, hrender, _, s', tokens, tokens', hrender, hs', h⟩

end SearchQL
