/-!
# Tables

A table maps names to values. It lists its names in the order in which they first came, each of them once.

- `Table.insert`: the last value given to a name is the one that stays.
- `Table.get?`: the value of a name.
-/

namespace TwoVenue

/-- Names with their values. -/
structure Table (α : Type) where
  entries : List (String × α)
deriving DecidableEq

namespace Table

variable {α : Type}

/-- The table without names. -/
def empty : Table α := ⟨[]⟩

/-- Gives `name` the value `a` in a list of entries. -/
def put (name : String) (a : α) : List (String × α) → List (String × α)
  | [] => [(name, a)]
  | e :: rest => if e.1 = name then (name, a) :: rest else e :: put name a rest

/-- The table in which `name` has the value `a`. -/
def insert (t : Table α) (name : String) (a : α) : Table α := ⟨put name a t.entries⟩

/-- The value of a name in a list of entries. -/
def find? (name : String) : List (String × α) → Option α
  | [] => none
  | e :: rest => if e.1 = name then some e.2 else find? name rest

/-- The value of a name. -/
def get? (t : Table α) (name : String) : Option α := find? name t.entries

/-- The names in order. -/
def names (t : Table α) : List String := t.entries.map (·.1)

theorem find?_put (entries : List (String × α)) (name other : String) (a : α) :
    find? other (put name a entries) = if name = other then some a else find? other entries := by
  induction entries with
  | nil => simp [put, find?]
  | cons e rest ih => grind [put, find?]

/-- A look-up sees the last insertion. -/
theorem get?_insert (t : Table α) (name other : String) (a : α) :
    (t.insert name a).get? other = if name = other then some a else t.get? other :=
  find?_put t.entries name other a

@[simp] theorem get?_empty (name : String) : (empty : Table α).get? name = none := rfl

end Table

end TwoVenue
