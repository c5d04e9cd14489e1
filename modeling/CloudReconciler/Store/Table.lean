/-! # Tables — values by key

    A table is a list of entries with distinct keys, in the order in which
    the keys came.  `find?` is its view: `insert` is known by what it does
    to it. -/

namespace CloudReconciler

/-- Values by key, in the order in which the keys came. -/
structure Table (κ α : Type) where
  entries : List (κ × α) := []
  deriving Repr

namespace Table

variable {κ α : Type} [DecidableEq κ]

/-- A table without entries. -/
def empty : Table κ α := ⟨[]⟩

instance : Inhabited (Table κ α) := ⟨empty⟩

/-- The first value of a key in a list of entries. -/
def lookup (key : κ) : List (κ × α) → Option α
  | [] => none
  | (k, a) :: rest => if k = key then some a else lookup key rest

/-- A list of entries with the value of a key replaced, or added at the end. -/
def put (key : κ) (value : α) : List (κ × α) → List (κ × α)
  | [] => [(key, value)]
  | (k, a) :: rest => if k = key then (k, value) :: rest else (k, a) :: put key value rest

/-- The value of a key. -/
def find? (t : Table κ α) (key : κ) : Option α := lookup key t.entries

/-- The table with a value for the key. -/
def insert (t : Table κ α) (key : κ) (value : α) : Table κ α := ⟨put key value t.entries⟩

/-- The table without the key. -/
def erase (t : Table κ α) (key : κ) : Table κ α := ⟨t.entries.filter fun e => e.1 ≠ key⟩

/-- The number of keys. -/
def size (t : Table κ α) : Nat := t.entries.length

theorem lookup_put (key k : κ) (value : α) (l : List (κ × α)) :
    lookup k (put key value l) = if k = key then some value else lookup k l := by
  induction l with
  | nil => simp only [put, lookup, eq_comm]
  | cons e rest ih =>
      obtain ⟨k', a⟩ := e
      by_cases h : k' = key
      · subst h
        by_cases hk : k = k' <;> simp [put, lookup, hk, eq_comm]
      · by_cases hk : k' = k
        · subst hk
          simp [put, lookup, h]
        · simp [put, lookup, h, hk, ih]

@[simp] theorem find?_empty (key : κ) : (empty : Table κ α).find? key = none := rfl

theorem find?_insert (t : Table κ α) (key k : κ) (value : α) :
    (t.insert key value).find? k = if k = key then some value else t.find? k :=
  lookup_put key k value t.entries

end Table

end CloudReconciler
