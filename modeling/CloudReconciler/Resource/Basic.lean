import CloudReconciler.Resource.Metadata
import CloudReconciler.Resource.Status
import CloudReconciler.Text.Blank

/-! # Resources — declarative objects and what the engine needs of their kinds

    A resource is metadata, a spec and, once the engine has written one, a
    status.  A kind tells how to find the owning tenant in its spec and the
    engine's record in its status. -/

namespace CloudReconciler

/-- An object of a kind with the given spec and status. -/
structure Resource (Spec St : Type) where
  metadata : Metadata
  spec : Spec
  status : Option St := none
  deriving Repr, Inhabited

/-- Values with a document form; decoding is told how many arrays and objects stand around. -/
class Document (α : Type) where
  encode : α → Json
  decode? : Nat → Json → Option α

/-- How the cluster's API names a kind. -/
structure KindName where
  kind : String
  plural : String
  singular : String
  short : String
  deriving DecidableEq, Repr

/-- The group of every kind. -/
def KindName.group : String := "cloud.resource-operator.io"

/-- The version of every kind. -/
def KindName.version : String := "v1alpha1"

/-- Group and version as they stand in documents. -/
def KindName.apiVersion : String := group ++ "/" ++ version

/-- What the engine needs to know about a kind. -/
class Managed (Spec : Type) (St : outParam Type) where
  name : KindName
  /-- The finalizer that guards the removal of the remote resource. -/
  finalizer : String
  /-- The tenant as the spec names it. -/
  tenantText : Spec → String
  /-- The status in which nothing is recorded. -/
  blank : St
  /-- The engine's record inside a status. -/
  record : St → Status
  /-- The status with another engine's record. -/
  withRecord : St → Status → St
  record_withRecord : ∀ s r, record (withRecord s r) = r
  record_blank : record blank = {}

namespace Resource

variable {Spec St : Type}

/-- The namespace, empty if there is none. -/
def namespaceText (o : Resource Spec St) : String := o.metadata.namespace_.getD ""

/-- The name of the object. -/
def name (o : Resource Spec St) : String := o.metadata.anyName

section

variable [Managed Spec St]

/-- The owning tenant, unless it is blank. -/
def tenant? (o : Resource Spec St) : Option String :=
  let t := Managed.tenantText o.spec
  if Text.isBlankText t then none else some t

/-- The engine's record, if the object has a status. -/
def record? (o : Resource Spec St) : Option Status := o.status.map (Managed.record Spec)

/-- The engine's record, which starts blank. -/
def recordOrBlank (o : Resource Spec St) : Status := o.record?.getD {}

/-- The object with another engine's record. -/
def withRecord (o : Resource Spec St) (r : Status) : Resource Spec St :=
  { o with status := some (Managed.withRecord Spec (o.status.getD (Managed.blank Spec)) r) }

@[simp] theorem record?_withRecord (o : Resource Spec St) (r : Status) :
    (o.withRecord r).record? = some r := by
  simp [record?, withRecord, Managed.record_withRecord]

@[simp] theorem metadata_withRecord (o : Resource Spec St) (r : Status) :
    (o.withRecord r).metadata = o.metadata := rfl

@[simp] theorem spec_withRecord (o : Resource Spec St) (r : Status) :
    (o.withRecord r).spec = o.spec := rfl

/-- The phase; an object without status has not been picked up. -/
def phase (o : Resource Spec St) : Phase := o.recordOrBlank.phase

/-- The identifier of the remote resource, if a usable one is recorded. -/
def remoteId? (o : Resource Spec St) : Option String :=
  o.recordOrBlank.resourceId.filter (· ≠ "")

/-! ## Documents -/

variable [Document Spec] [Document St]

/-- The object as a document. -/
def toJson (o : Resource Spec St) : Json :=
  .object
    ([("apiVersion", .string KindName.apiVersion),
      ("kind", .string (Managed.name Spec).kind),
      ("metadata", o.metadata.toJson), ("spec", Document.encode o.spec)] ++
      Json.member? "status" Document.encode o.status)

/-- The object a document describes. -/
def ofJson? (j : Json) : Option (Resource Spec St) := do
  let m ← j.record? ["metadata", "spec", "status"] 3
  return {
    metadata := ← Json.needed (Metadata.ofJson? 1) "metadata" m
    spec := ← Json.needed (Document.decode? 1) "spec" m
    status := ← Json.optional (Document.decode? 1) "status" m }

end

end Resource

instance : Document Status where
  encode := Status.toJson
  decode? _ := Status.ofJson? Json.isNull

end CloudReconciler
