import CloudReconciler.Json.Basic

/-! # Schemas — what a document of a kind may hold

    A schema is a document itself: a type, a description and what else is
    known about the values. -/

namespace CloudReconciler

/-- What is known about the values at one place of a document. -/
structure Schema where
  members : List (String × Json)

namespace Schema

/-- A schema as a document. -/
def toJson (s : Schema) : Json := .object s.members

/-- Values of a type. -/
def ofType (type about : String) : Schema :=
  ⟨[("type", .string type), ("description", .string about)]⟩

/-- A schema about which more is known. -/
def and (s : Schema) (name : String) (value : Json) : Schema := ⟨s.members ++ [(name, value)]⟩

def text (about : String) : Schema := ofType "string" about

def bool (about : String) : Schema := ofType "boolean" about

def integer (format about : String) : Schema :=
  (ofType "integer" about).and "format" (.string format)

/-- Points in time. -/
def time (about : String) : Schema := (text about).and "format" (.string "date-time")

/-- One of some names. -/
def oneOf (about : String) (names : List String) : Schema :=
  (text about).and "enum" (Json.strings names)

/-- Lists of values. -/
def listOf (about : String) (items : Schema) : Schema :=
  (ofType "array" about).and "items" items.toJson

/-- Lists of texts. -/
def texts (about : String) : Schema :=
  (ofType "array" about).and "items" (.object [("type", .string "string")])

/-- The value may be null. -/
def nullable (s : Schema) : Schema := s.and "nullable" (.bool true)

/-- The value that an absent member stands for. -/
def withDefault (s : Schema) (value : Json) : Schema := s.and "default" value

/-- A member of a record and whether it has to be there. -/
structure Member where
  name : String
  schema : Schema
  isRequired : Bool := false

/-- Records with the given members. -/
def record (about : String) (members : List Member) : Schema :=
  let required := (members.filter (·.isRequired)).map Member.name
  let s := (ofType "object" about).and "properties"
    (.object (members.map fun m => (m.name, m.schema.toJson)))
  if required.isEmpty then s else s.and "required" (Json.strings (required.mergeSort (· ≤ ·)))

end Schema

end CloudReconciler
