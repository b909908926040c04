import SearchQL.Query.Basic

/-!
# User text in a query

Two notions that say which parts of a query come from a user of the search and which from its
author.

* `Query.isPlain` says that a query, with all queries inside it, holds no trusted text: no
  templates, no facet texts and no options, and only the named operators.
* `Query.redact` takes the user text out: the contents of text values and of plain search terms
  become empty. Two queries are equal but for user text if they are equal after redaction.

The selected columns of a selection are left as they are. Equal texts among them are written once,
so that user text in a sub-query there can decide how many columns there are.
-/

namespace SearchQL

/-- Whether a query of this kind writes its selected columns. -/
def Kind.selects : Kind → Bool
  | .select | .multiSelect => true
  | _ => false

/-! ## Plain queries -/

/-- Whether a term is plain text. -/
def Term.isPlain : Term → Bool
  | .text _ => true
  | .template _ => false

/-- Whether the fields and the term of a search are plain text. -/
def Search.isPlain (s : Search) : Bool := (s.fields.getD []).all Term.isPlain && s.term.isPlain

mutual

/-- Whether a value holds no trusted text. -/
def Value.isPlain : Value → Bool
  | .list items => Value.allPlain items
  | .query q => q.isPlain
  | .template _ => false
  | _ => true

/-- Whether all values hold no trusted text. -/
def Value.allPlain : List Value → Bool
  | [] => true
  | value :: rest => value.isPlain && Value.allPlain rest

/-- Whether all rows hold no trusted text. -/
def Value.rowsPlain : List (List Value) → Bool
  | [] => true
  | row :: rest => Value.allPlain row && Value.rowsPlain rest

/-- Whether a column holds no trusted text. -/
def Column.isPlain : Column → Bool
  | .name _ => true
  | .template _ => false
  | .query q => q.isPlain
  | .aliased column _ => column.isPlain

/-- Whether all columns hold no trusted text. -/
def Column.allPlain : List Column → Bool
  | [] => true
  | column :: rest => column.isPlain && Column.allPlain rest

/-- Whether a column, if there is one, holds no trusted text. -/
def Column.optionPlain : Option Column → Bool
  | none => true
  | some column => column.isPlain

/-- Whether a condition holds no trusted text and has a named operator. -/
def Condition.isPlain : Condition → Bool
  | ⟨column, op, value⟩ => column.isPlain && decide (op ∈ Operator.named) && value.isPlain

/-- Whether all conditions among the entries are plain. -/
def Condition.entriesPlain : List (Entry Condition) → Bool
  | [] => true
  | .opened _ :: rest => Condition.entriesPlain rest
  | .closed :: rest => Condition.entriesPlain rest
  | .clause _ condition :: rest => condition.isPlain && Condition.entriesPlain rest

/-- Whether all conditions of a group are plain. -/
def Condition.groupPlain : Group Condition → Bool
  | ⟨entries, _⟩ => Condition.entriesPlain entries

/-- Whether a facet holds no trusted text. -/
def Facet.isPlain : Facet → Bool
  | .body _ => false
  | .template _ => false
  | .query q => q.isPlain

/-- Whether all facets hold no trusted text. -/
def Facet.allPlain : List Facet → Bool
  | [] => true
  | facet :: rest => facet.isPlain && Facet.allPlain rest

/-- Whether all columns of an order hold no trusted text. -/
def OrderKey.allPlain : List OrderKey → Bool
  | [] => true
  | ⟨column, _⟩ :: rest => column.isPlain && OrderKey.allPlain rest

/-- Whether all assignments hold no trusted text. -/
def Assignment.allPlain : List Assignment → Bool
  | [] => true
  | ⟨column, value⟩ :: rest => column.isPlain && value.isPlain && Assignment.allPlain rest

/-- Whether what is inserted holds no trusted text. -/
def Input.isPlain : Input → Bool
  | .rows rows => Value.rowsPlain rows
  | .query q => q.isPlain

/-- Whether a query and the queries inside it hold no trusted text and only named operators. -/
def Query.isPlain : Query → Bool
  | ⟨_, columns, _, indexes, searches, groupBy, having, options, facets, _, target, fields, input,
      assignments, raw, filters, orderBy, _, _⟩ =>
    Column.allPlain columns && Column.allPlain indexes && searches.all Search.isPlain &&
    Column.allPlain groupBy && Condition.groupPlain having && options.isEmpty &&
    Facet.allPlain facets && Column.optionPlain target && Column.allPlain fields &&
    input.isPlain && Assignment.allPlain assignments && raw.isNone &&
    Condition.groupPlain filters && OrderKey.allPlain orderBy

end

/-! ## Redaction -/

/-- A term without its plain text. -/
def Term.redact : Term → Term
  | .text _ => .text ""
  | .template t => .template t

/-- A search without plain text. -/
def Search.redact (s : Search) : Search := ⟨s.fields.map (·.map Term.redact), s.term.redact⟩

mutual

/-- A value without the contents of its texts. -/
def Value.redact : Value → Value
  | .text _ => .text ""
  | .list items => .list (Value.redactAll items)
  | .query q => .query q.redact
  | .null => .null
  | .bool b => .bool b
  | .int n => .int n
  | .float x => .float x
  | .template t => .template t

/-- Values without the contents of their texts. -/
def Value.redactAll : List Value → List Value
  | [] => []
  | value :: rest => value.redact :: Value.redactAll rest

/-- Rows without the contents of their texts. -/
def Value.redactRows : List (List Value) → List (List Value)
  | [] => []
  | row :: rest => Value.redactAll row :: Value.redactRows rest

/-- A column without user text in its sub-query. -/
def Column.redact : Column → Column
  | .name name => .name name
  | .template t => .template t
  | .query q => .query q.redact
  | .aliased column label => .aliased column.redact label

/-- Columns without user text. -/
def Column.redactAll : List Column → List Column
  | [] => []
  | column :: rest => column.redact :: Column.redactAll rest

/-- A column, if there is one, without user text. -/
def Column.redactOption : Option Column → Option Column
  | none => none
  | some column => some column.redact

/-- A condition without user text. -/
def Condition.redact : Condition → Condition
  | ⟨column, op, value⟩ => ⟨column.redact, op, value.redact⟩

/-- Entries without user text in their conditions. -/
def Condition.redactEntries : List (Entry Condition) → List (Entry Condition)
  | [] => []
  | .opened logic :: rest => .opened logic :: Condition.redactEntries rest
  | .closed :: rest => .closed :: Condition.redactEntries rest
  | .clause logic condition :: rest =>
    .clause logic condition.redact :: Condition.redactEntries rest

/-- A group without user text in its conditions. -/
def Condition.redactGroup : Group Condition → Group Condition
  | ⟨entries, depth⟩ => ⟨Condition.redactEntries entries, depth⟩

/-- A facet without user text. -/
def Facet.redact : Facet → Facet
  | .body s => .body s
  | .template t => .template t
  | .query q => .query q.redact

/-- Facets without user text. -/
def Facet.redactAll : List Facet → List Facet
  | [] => []
  | facet :: rest => facet.redact :: Facet.redactAll rest

/-- An order without user text in its columns. -/
def OrderKey.redactAll : List OrderKey → List OrderKey
  | [] => []
  | ⟨column, direction⟩ :: rest => ⟨column.redact, direction⟩ :: OrderKey.redactAll rest

/-- Assignments without user text. -/
def Assignment.redactAll : List Assignment → List Assignment
  | [] => []
  | ⟨column, value⟩ :: rest => ⟨column.redact, value.redact⟩ :: Assignment.redactAll rest

/-- What is inserted, without user text. -/
def Input.redact : Input → Input
  | .rows rows => .rows (Value.redactRows rows)
  | .query q => .query q.redact

/-- A query without user text, except in the columns that it selects. -/
def Query.redact : Query → Query
  | ⟨kind, columns, distinct, indexes, searches, groupBy, having, options, facets, offset, target,
      fields, input, assignments, raw, filters, orderBy, limit, lastOpened⟩ =>
    { kind
      columns := if kind.any Kind.selects then columns else Column.redactAll columns
      distinct
      indexes := Column.redactAll indexes
      searches := searches.map Search.redact
      groupBy := Column.redactAll groupBy
      having := Condition.redactGroup having
      options
      facets := Facet.redactAll facets
      offset
      target := Column.redactOption target
      fields := Column.redactAll fields
      input := input.redact
      assignments := Assignment.redactAll assignments
      raw
      filters := Condition.redactGroup filters
      orderBy := OrderKey.redactAll orderBy
      limit
      lastOpened }

end

/-! ## What redaction keeps -/

@[simp] theorem Query.kind_redact (q : Query) : q.redact.kind = q.kind := by
  cases q
  rfl

@[simp] theorem Value.length_redactAll (values : List Value) :
    (Value.redactAll values).length = values.length := by
  induction values with
  | nil => rfl
  | cons value rest ih => simp [Value.redactAll, ih]

@[simp] theorem Condition.isEmpty_redactEntries (entries : List (Entry Condition)) :
    (Condition.redactEntries entries).isEmpty = entries.isEmpty := by
  cases entries with
  | nil => rfl
  | cons entry rest => cases entry <;> rfl

end SearchQL
