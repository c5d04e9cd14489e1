import CloudReconciler.Numeric.Binary64

/-! # JSON values — the documents that requests, replies and objects are made of

    An object keeps its members in the order they were written, repeated
    names included.  A token that obeys the grammar without denoting a
    value (a string that is not Unicode text, a number beyond the doubles)
    is `unreadable`: it may be skipped, but never decoded. -/

namespace CloudReconciler

/-- A JSON number: a natural below `2 ^ 64`, a negative down to `-2 ^ 63`, or a double. -/
inductive Number where
  | natural (n : Nat)
  | negative (n : Nat)
  | real (x : Binary64)
  deriving DecidableEq, Repr, Inhabited

namespace Number

/-- The number of an integer. -/
def ofInt (i : Int) : Number := if 0 ≤ i then .natural i.toNat else .negative i.natAbs

/-- The integer of a number written without fraction and exponent. -/
def int? : Number → Option Int
  | .natural n => some n
  | .negative n => some (-n)
  | .real _ => none

theorem int?_ofInt (i : Int) : (ofInt i).int? = some i := by
  unfold ofInt
  split
  · next h => simp [int?, Int.toNat_of_nonneg h]
  · next h => simp only [int?, Option.some.injEq]; omega

end Number

/-- A JSON document. -/
inductive Json where
  | null
  | bool (b : Bool)
  | number (n : Number)
  | string (s : String)
  | array (items : List Json)
  | object (members : List (String × Json))
  | unreadable
  deriving Repr, Inhabited

namespace Json

/-- The number of a natural. -/
def nat (n : Nat) : Json := .number (.natural n)

/-- The number of an integer. -/
def int (i : Int) : Json := .number (.ofInt i)

/-- A list of texts. -/
def strings (texts : List String) : Json := .array (texts.map .string)

/-! ## Traversals -/

mutual

/-- How deeply arrays and objects are nested; a scalar has depth 0. -/
def depth : Json → Nat
  | .array items => depthItems items + 1
  | .object members => depthMembers members + 1
  | _ => 0

def depthItems : List Json → Nat
  | [] => 0
  | item :: rest => max (depth item) (depthItems rest)

def depthMembers : List (String × Json) → Nat
  | [] => 0
  | (_, value) :: rest => max (depth value) (depthMembers rest)

end

mutual

/-- No part of the document is unreadable. -/
def isReadable : Json → Bool
  | .unreadable => false
  | .array items => readableItems items
  | .object members => readableMembers members
  | _ => true

def readableItems : List Json → Bool
  | [] => true
  | item :: rest => isReadable item && readableItems rest

def readableMembers : List (String × Json) → Bool
  | [] => true
  | (_, value) :: rest => isReadable value && readableMembers rest

end

/-- Decoders refuse documents in which more arrays and objects than this are nested. -/
def depthLimit : Nat := 127

/-- A document that may be decoded whole below `outer` enclosing arrays and objects. -/
def isWhole (outer : Nat) (j : Json) : Bool := j.isReadable && outer + j.depth ≤ depthLimit

/-! ## Members by name -/

/-- The value of the last member of that name. -/
def lookup (name : String) (members : List (String × Json)) : Option Json :=
  members.foldl (fun found (key, value) => if key = name then some value else found) none

/-- Members in the order of their names, with the member in the place of one of the same name. -/
def insertSorted (name : String) (value : Json) : List (String × Json) → List (String × Json)
  | [] => [(name, value)]
  | (key, old) :: rest =>
      if name < key then (name, value) :: (key, old) :: rest
      else if name = key then (name, value) :: rest
      else (key, old) :: insertSorted name value rest

mutual

/-- The same document with members in the order of their names; of repeated names the last counts. -/
def sorted : Json → Json
  | .array items => .array (sortedItems items)
  | .object members => .object (sortedMembers [] members)
  | other => other

def sortedItems : List Json → List Json
  | [] => []
  | item :: rest => sorted item :: sortedItems rest

def sortedMembers (done : List (String × Json)) : List (String × Json) → List (String × Json)
  | [] => done
  | (key, value) :: rest => sortedMembers (insertSorted key (sorted value) done) rest

end

/-- The member of an object, if it is an object that has one of that name. -/
def get? (name : String) : Json → Option Json
  | .object members => lookup name members
  | _ => none

/-- The object without the members of that name. -/
def erase (name : String) (members : List (String × Json)) : List (String × Json) :=
  members.filter fun (key, _) => key ≠ name

/-- The object with that member in the place of the first one of its name, or at the end. -/
def put (name : String) (value : Json) : List (String × Json) → List (String × Json)
  | [] => [(name, value)]
  | (key, old) :: rest =>
      if key = name then (name, value) :: rest else (key, old) :: put name value rest

end Json

end CloudReconciler
