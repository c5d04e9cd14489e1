import CloudReconciler.Resource.Condition

/-! # Metadata — what the cluster keeps about every object

    The engine reads names, generation, deletion timestamp and finalizers.
    All other members are carried along: they are checked when read and
    written back as they are.  Of a repeated member the last counts, null
    means absent, and times are written to the second. -/

namespace CloudReconciler

/-- What the cluster keeps about an object. -/
structure Metadata where
  annotations : Option (List (String × Json)) := none
  creationTimestamp : Option Instant := none
  deletionGracePeriodSeconds : Option Int64 := none
  deletionTimestamp : Option Instant := none
  finalizers : Option (List String) := none
  generateName : Option String := none
  generation : Option Int64 := none
  labels : Option (List (String × Json)) := none
  managedFields : Option (List Json) := none
  name : Option String := none
  namespace_ : Option String := none
  ownerReferences : Option (List Json) := none
  resourceVersion : Option String := none
  selfLink : Option String := none
  uid : Option String := none
  deriving Repr, Inhabited

namespace Metadata

/-- The name, or the stem of a name that the cluster was to complete, or nothing. -/
def anyName (m : Metadata) : String := m.name.getD (m.generateName.getD "")

/-- The finalizers; an absent list holds none. -/
def finalizerList (m : Metadata) : List String := m.finalizers.getD []

/-- The finalizer is attached. -/
def hasFinalizer (m : Metadata) (finalizer : String) : Bool := finalizer ∈ m.finalizerList

/-- The object is marked for deletion. -/
def isMarked (m : Metadata) : Bool := m.deletionTimestamp.isSome

/-- Attaches a finalizer after the others. -/
def attach (m : Metadata) (finalizer : String) : Metadata :=
  { m with finalizers := some (m.finalizerList ++ [finalizer]) }

/-- Releases a finalizer and keeps the others in order. -/
def release (m : Metadata) (finalizer : String) : Metadata :=
  { m with finalizers := m.finalizers.map (·.filter (· ≠ finalizer)) }

/-! ## Documents -/

/-- The members of an object. -/
def members? : Json → Option (List (String × Json))
  | .object members => some members
  | _ => none

/-- A member that may be absent or null; every occurrence is decoded and the last one counts. -/
def field {α : Type} (decode : Json → Option α) (name : String) (m : List (String × Json)) :
    Option (Option α) := do
  let found := m.filter fun (key, _) => key = name
  return (← Json.each? (Json.nullable decode) (found.map Prod.snd)).getLast?.join

/-- A map of texts in the order of their names. -/
def texts? (j : Json) : Option (List (String × Json)) := do
  let members ← members? j
  if members.all fun (_, value) => value.string?.isSome then
    some (Json.sortedMembers [] members)
  else none

def timeJson (t : Instant) : Json := .string (Rfc3339.writeSeconds t)

/-- A reference to the owner of an object, with the texts that it lacks left empty. -/
def ownerReference? (j : Json) : Option Json := do
  let m ← members? j
  let text (name : String) : Option (String × Json) := do
    return (name, .string ((← field Json.string? name m).getD ""))
  return .object
    ([← text "apiVersion"] ++
      Json.member? "blockOwnerDeletion" .bool (← field Json.bool? "blockOwnerDeletion" m) ++
      Json.member? "controller" .bool (← field Json.bool? "controller" m) ++
      [← text "kind", ← text "name", ← text "uid"])

/-- A document kept as it is, below the arrays and objects around it. -/
def whole? (outer : Nat) (j : Json) : Option Json := if j.isWhole outer then some j.sorted else none

/-- What one manager set in an object that stands below `outer` arrays and objects. -/
def managedFields? (outer : Nat) (j : Json) : Option Json := do
  let m ← members? j
  let text (name : String) : Option (List (String × Json)) := do
    return Json.member? name .string (← field Json.string? name m)
  return .object
    ((← text "apiVersion") ++ (← text "fieldsType") ++
      Json.member? "fieldsV1" id (← field (whole? (outer + 3)) "fieldsV1" m) ++
      (← text "manager") ++ (← text "operation") ++ (← text "subresource") ++
      Json.member? "time" timeJson (← field Instant.ofJson? "time" m))

/-- The metadata a document describes, below `outer` arrays and objects. -/
def ofJson? (outer : Nat) (j : Json) : Option Metadata := do
  let m ← members? j
  return {
    annotations := ← field texts? "annotations" m
    creationTimestamp := ← field Instant.ofJson? "creationTimestamp" m
    deletionGracePeriodSeconds := ← field Json.int64? "deletionGracePeriodSeconds" m
    deletionTimestamp := ← field Instant.ofJson? "deletionTimestamp" m
    finalizers := ← field (Json.list? Json.string?) "finalizers" m
    generateName := ← field Json.string? "generateName" m
    generation := ← field Json.int64? "generation" m
    labels := ← field texts? "labels" m
    managedFields := ← field (Json.list? (managedFields? outer)) "managedFields" m
    name := ← field Json.string? "name" m
    namespace_ := ← field Json.string? "namespace" m
    ownerReferences := ← field (Json.list? ownerReference?) "ownerReferences" m
    resourceVersion := ← field Json.string? "resourceVersion" m
    selfLink := ← field Json.string? "selfLink" m
    uid := ← field Json.string? "uid" m }

def toJson (m : Metadata) : Json :=
  let integer (i : Int64) : Json := Json.int i.toInt
  .object
    (Json.member? "annotations" .object m.annotations ++
      Json.member? "creationTimestamp" timeJson m.creationTimestamp ++
      Json.member? "deletionGracePeriodSeconds" integer m.deletionGracePeriodSeconds ++
      Json.member? "deletionTimestamp" timeJson m.deletionTimestamp ++
      Json.member? "finalizers" Json.strings m.finalizers ++
      Json.member? "generateName" .string m.generateName ++
      Json.member? "generation" integer m.generation ++
      Json.member? "labels" .object m.labels ++
      Json.member? "managedFields" .array m.managedFields ++
      Json.member? "name" .string m.name ++
      Json.member? "namespace" .string m.namespace_ ++
      Json.member? "ownerReferences" .array m.ownerReferences ++
      Json.member? "resourceVersion" .string m.resourceVersion ++
      Json.member? "selfLink" .string m.selfLink ++
      Json.member? "uid" .string m.uid)

end Metadata

end CloudReconciler
