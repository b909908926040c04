import SearchQL.Query.Build

/-!
# Runs of steps

The steps that build a query as data, and runs of them.

* `Call` lists the steps; `Query.apply` makes one of them and may fail.
* `Query.step` leaves the query as it is if the step fails, and `Query.run` goes on after it.
-/

namespace SearchQL

/-- A step in building a query. -/
inductive Call where
  | select (columns : List Column)
  | distinct (distinct : Bool)
  | index (index : Column)
  | search (search : Search)
  | facet (facet : Facet)
  | groupBy (columns : List Column)
  | option (option : String)
  | limit (limit : Nat)
  | offset (offset : Nat)
  | condition (scope : Scope) (logic : Logic) (condition : Condition)
  | conditions (scope : Scope) (logic : Logic) (conditions : List Condition)
  | filter (logic : Logic) (condition : Condition)
  | openBracket (scope : Scope) (logic : Logic)
  | closeBracket (dropIfEmpty : Bool)
  | order (key : OrderKey)
  | setOrder (keys : List OrderKey)
  | reset
  | insertInto (insertion : Insertion) (target : Column)
  | insertRow (insertion : Insertion) (target : Column) (row : List Assignment)
  | target (target : Column)
  | fields (fields : List Column)
  | row (row : List Value)
  | rows (rows : List (List Value))
  | insertQuery (query : Query)
  | update (target : Column)
  | assign (assignments : List Assignment)
  | delete (target : Column)
  | raw (template : Template)
  | bindRaw (placeholder : String) (value : Value)

namespace Query

/-- The query after a step. -/
def apply (q : Query) : Call → Except Error Query
  | .select columns => .ok (q.select columns)
  | .distinct distinct => .ok (q.setDistinct distinct)
  | .index index => .ok (q.addIndex index)
  | .search search => .ok (q.addSearch search)
  | .facet facet => .ok (q.addFacet facet)
  | .groupBy columns => .ok (q.groupRows columns)
  | .option option => .ok (q.addOption option)
  | .limit limit => .ok (q.setLimit limit)
  | .offset offset => .ok (q.setOffset offset)
  | .condition scope logic condition => .ok (q.addCondition scope logic condition)
  | .conditions scope logic conditions => .ok (q.addConditions scope logic conditions)
  | .filter logic condition => .ok (q.addFilter logic condition)
  | .openBracket scope logic => .ok (q.openBracket scope logic)
  | .closeBracket dropIfEmpty => q.closeBracket dropIfEmpty
  | .order key => .ok (q.addOrder key)
  | .setOrder keys => .ok (q.setOrder keys)
  | .reset => .ok q.reset
  | .insertInto insertion target => .ok (q.insertInto insertion target)
  | .insertRow insertion target row => .ok (q.insertRow insertion target row)
  | .target target => .ok (q.setTarget target)
  | .fields fields => .ok (q.setFields fields)
  | .row row => q.addRow row
  | .rows rows => q.addRows rows
  | .insertQuery query => q.insertQuery query
  | .update target => .ok (q.update target)
  | .assign assignments => .ok (q.assign assignments)
  | .delete target => .ok (q.delete target)
  | .raw template => .ok (q.setRaw template)
  | .bindRaw placeholder value => .ok (q.bindRaw placeholder value)

/-- The query after a step, or the same query if the step fails. -/
def step (q : Query) (call : Call) : Query :=
  match q.apply call with
  | .ok q' => q'
  | .error _ => q

/-- The query after a run of steps, those that fail left out. -/
def run (q : Query) (calls : List Call) : Query := calls.foldl step q

@[simp] theorem run_nil (q : Query) : q.run [] = q := rfl

@[simp] theorem run_cons (q : Query) (call : Call) (calls : List Call) :
    q.run (call :: calls) = (q.step call).run calls := rfl

@[simp] theorem run_append (q : Query) (calls calls' : List Call) :
    q.run (calls ++ calls') = (q.run calls).run calls' := by
  simp [run]

end Query

end SearchQL
