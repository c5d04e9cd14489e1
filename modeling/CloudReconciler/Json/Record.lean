import CloudReconciler.Json.Basic

/-! # Records — decoding documents with named members

    A record is an object whose known members occur at most once, or an
    array of the members' values in declaration order.  Unknown members are
    skipped unread.  A member is needed, optional (absent or null), or
    stands for a default when it is absent. -/

namespace CloudReconciler.Json

/-- The known members of a record; an array must hold the first `atLeast` of them. -/
def record? (names : List String) (atLeast : Nat) : Json → Option (List (String × Json))
  | .object members =>
      let known := members.filter fun (key, _) => key ∈ names
      if (known.map Prod.fst).Nodup then some known else none
  | .array items =>
      if atLeast ≤ items.length ∧ items.length ≤ names.length then some (names.zip items) else none
  | _ => none

/-- The value of a member that must be there. -/
def needed {α : Type} (decode : Json → Option α) (name : String)
    (members : List (String × Json)) : Option α :=
  (lookup name members).bind decode

/-- The value of a member, or the default if it is absent. -/
def defaulted {α : Type} (decode : Json → Option α) (default : α) (name : String)
    (members : List (String × Json)) : Option α :=
  match lookup name members with
  | none => some default
  | some value => decode value

/-- A value or null. -/
def nullable {α : Type} (decode : Json → Option α) : Json → Option (Option α)
  | .null => some none
  | value => (decode value).map some

/-- The value of a member that may be absent or null. -/
def optional {α : Type} (decode : Json → Option α) (name : String)
    (members : List (String × Json)) : Option (Option α) :=
  defaulted (nullable decode) none name members

/-! ## Scalars and lists -/

def string? : Json → Option String
  | .string s => some s
  | _ => none

def bool? : Json → Option Bool
  | .bool b => some b
  | _ => none

/-- An integer between two bounds. -/
def intWithin? (least greatest : Int) : Json → Option Int
  | .number n =>
      match n.int? with
      | some i => if least ≤ i ∧ i ≤ greatest then some i else none
      | none => none
  | _ => none

def int64? (j : Json) : Option Int64 := (j.intWithin? Int64.minValue.toInt Int64.maxValue.toInt).map Int64.ofInt

def int32? (j : Json) : Option Int32 := (j.intWithin? Int32.minValue.toInt Int32.maxValue.toInt).map Int32.ofInt

def uint16? (j : Json) : Option UInt16 := (j.intWithin? 0 (UInt16.size - 1 : Nat)).map (UInt16.ofNat ·.toNat)

def uint64? (j : Json) : Option UInt64 := (j.intWithin? 0 (UInt64.size - 1 : Nat)).map (UInt64.ofNat ·.toNat)

/-- Every item of a list decoded. -/
def each? {α : Type} (decode : Json → Option α) : List Json → Option (List α)
  | [] => some []
  | item :: rest =>
      match decode item, each? decode rest with
      | some a, some as => some (a :: as)
      | _, _ => none

/-- An array with every item decoded. -/
def list? {α : Type} (decode : Json → Option α) : Json → Option (List α)
  | .array items => each? decode items
  | _ => none

/-- The name of a case: a string, or an object with one member of that name that holds nothing. -/
def case? (isNothing : Json → Bool) : Json → Option String
  | .string name => some name
  | .object [(name, content)] => if isNothing content then some name else none
  | _ => none

/-- Null holds nothing. -/
def isNull : Json → Bool
  | .null => true
  | _ => false

/-- Null and the empty object hold nothing. -/
def isNullOrEmpty : Json → Bool
  | .null => true
  | .object [] => true
  | _ => false

/-! ## Encoding -/

/-- The member of an optional value, if there is one. -/
def member? {α : Type} (name : String) (encode : α → Json) : Option α → List (String × Json)
  | none => []
  | some a => [(name, encode a)]

/-- The member of a list, unless it is empty. -/
def listMember {α : Type} (name : String) (encode : α → Json) : List α → List (String × Json)
  | [] => []
  | as => [(name, .array (as.map encode))]

end CloudReconciler.Json
