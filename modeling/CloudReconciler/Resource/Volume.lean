import CloudReconciler.Resource.Basic

/-! # Volumes — block storage created inside a project

    A volume's status holds the engine's record side by side with the
    identifier of the remote project that the volume was created in. -/

namespace CloudReconciler

/-- A reference to another object of the cluster. -/
structure Reference where
  name : String
  /-- Namespace of the object; that of the referring object if absent or empty. -/
  namespace_ : Option String := none
  deriving DecidableEq, Repr, Inhabited

namespace Reference

def toJson (r : Reference) : Json :=
  .object (("name", .string r.name) :: Json.member? "namespace" .string r.namespace_)

def ofJson? (j : Json) : Option Reference := do
  let m ← j.record? ["name", "namespace"] 1
  return ⟨← Json.needed Json.string? "name" m, ← Json.optional Json.string? "namespace" m⟩

end Reference

/-- A region of the provider. -/
structure Location where
  value : String
  deriving DecidableEq, Repr, Inhabited

namespace Location

def toJson (l : Location) : Json := .object [("value", .string l.value)]

def ofJson? (j : Json) : Option Location := do
  let m ← j.record? ["value"] 1
  return ⟨← Json.needed Json.string? "value" m⟩

end Location

/-- What is wanted of a volume. -/
structure VolumeSpec where
  /-- Owning tenant. -/
  tenant : String := ""
  tags : List String := []
  location : Location
  sizeGb : Int32
  billingPeriod : String
  dataCenter : String
  /-- Performance tier. -/
  tier : Option String := none
  bootable : Bool := false
  /-- Image that a bootable volume starts from. -/
  image : Option String := none
  /-- The project that owns the volume. -/
  project : Reference
  deriving DecidableEq, Repr, Inhabited

namespace VolumeSpec

def toJson (s : VolumeSpec) : Json :=
  .object
    (("tenant", .string s.tenant) ::
      (Json.listMember "tags" .string s.tags ++
        [("location", s.location.toJson), ("sizeGb", .int s.sizeGb.toInt),
          ("billingPeriod", .string s.billingPeriod), ("dataCenter", .string s.dataCenter)] ++
        Json.member? "type" .string s.tier ++ [("bootable", .bool s.bootable)] ++
        Json.member? "image" .string s.image ++ [("projectReference", s.project.toJson)]))

def ofJson? (j : Json) : Option VolumeSpec := do
  let m ← j.record?
    ["tenant", "tags", "location", "sizeGb", "billingPeriod", "dataCenter", "type", "bootable",
      "image", "projectReference"] 10
  return {
    tenant := ← Json.defaulted Json.string? "" "tenant" m
    tags := ← Json.defaulted (Json.list? Json.string?) [] "tags" m
    location := ← Json.needed Location.ofJson? "location" m
    sizeGb := ← Json.needed Json.int32? "sizeGb" m
    billingPeriod := ← Json.needed Json.string? "billingPeriod" m
    dataCenter := ← Json.needed Json.string? "dataCenter" m
    tier := ← Json.optional Json.string? "type" m
    bootable := ← Json.defaulted Json.bool? false "bootable" m
    image := ← Json.optional Json.string? "image" m
    project := ← Json.needed Reference.ofJson? "projectReference" m }

end VolumeSpec

/-- What is recorded about a volume. -/
structure VolumeStatus where
  record : Status := {}
  /-- Remote project that the volume was created in. -/
  projectId : Option String := none
  deriving DecidableEq, Repr, Inhabited

namespace VolumeStatus

def toJson (s : VolumeStatus) : Json :=
  .object (s.record.members ++ Json.member? "projectID" .string s.projectId)

/-- The status a document describes: all members but the project's are kept whole and then read
    as the engine's record. -/
def ofJson? (outer : Nat) : Json → Option VolumeStatus
  | .object members => do
      let own := members.filter fun (key, _) => key = "projectID"
      let others := members.filter fun (key, _) => key ≠ "projectID"
      if 1 < own.length || !(others.all fun (_, value) => value.isWhole (outer + 1)) then none
      return {
        record := ← Status.ofJson? Json.isNullOrEmpty (.object others)
        projectId := ← Json.optional Json.string? "projectID" own }
  | _ => none

end VolumeStatus

instance : Document VolumeSpec where
  encode := VolumeSpec.toJson
  decode? _ := VolumeSpec.ofJson?

instance : Document VolumeStatus where
  encode := VolumeStatus.toJson
  decode? := VolumeStatus.ofJson?

instance : Managed VolumeSpec VolumeStatus where
  name := ⟨"BlockStorage", "blockstorages", "blockstorage", "bs"⟩
  finalizer := "blockstorage.cloud.resource-operator.io/finalizer"
  tenantText := VolumeSpec.tenant
  blank := {}
  record := VolumeStatus.record
  withRecord s r := { s with record := r }
  record_withRecord _ _ := rfl
  record_blank := rfl

/-- A volume. -/
abbrev Volume := Resource VolumeSpec VolumeStatus

/-- The remote project recorded for a volume. -/
def Resource.projectId? (v : Volume) : Option String := v.status.bind VolumeStatus.projectId

end CloudReconciler
