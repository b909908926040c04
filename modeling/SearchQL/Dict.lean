/-!
# Dictionaries

Finite maps from texts, kept as lists of pairs with ascending keys, so that equal maps are equal
lists and listing a map goes through its keys in order.

* `Dict.insert` adds a pair or replaces the value of a key; `Dict.get?` looks a key up.
* `Dict.get?_insert` says what a look-up finds after an insertion.
* `Dict.ofList` inserts the pairs of a list from left to right, so that the last value of a key
  stays.
-/

namespace SearchQL.Dict

variable {α : Type}

/-- The value of `key`. -/
def get? (key : String) : List (String × α) → Option α
  | [] => none
  | (k, a) :: rest => if key = k then some a else get? key rest

/-- The map in which `key` has the value `a`; a value that it had is replaced. -/
def insert (key : String) (a : α) : List (String × α) → List (String × α)
  | [] => [(key, a)]
  | (k, b) :: rest =>
    if key = k then (key, a) :: rest
    else if key < k then (key, a) :: (k, b) :: rest
    else (k, b) :: insert key a rest

/-- `base` with the pairs of a list inserted from left to right. -/
def insertAll (base : List (String × α)) (pairs : List (String × α)) : List (String × α) :=
  pairs.foldl (fun d p => insert p.1 p.2 d) base

/-- The map of the pairs of a list, in which the last value of a key stays. -/
def ofList (pairs : List (String × α)) : List (String × α) := insertAll [] pairs

/-- After an insertion the key has the new value, and every other key what it had. -/
theorem get?_insert (key key' : String) (a : α) (d : List (String × α)) :
    get? key' (insert key a d) = if key' = key then some a else get? key' d := by
  induction d with
  | nil => simp [insert, get?]
  | cons p rest ih =>
    obtain ⟨k, b⟩ := p
    by_cases h : key = k
    · subst h
      by_cases h' : key' = key <;> simp [insert, get?, h']
    · by_cases hlt : key < k
      · simp [insert, get?, h, hlt]
      · by_cases h' : key' = k
        · simp [insert, get?, h, hlt, h', Ne.symm h]
        · simp [insert, get?, h, hlt, h', ih]

end SearchQL.Dict
