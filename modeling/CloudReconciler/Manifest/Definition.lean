import CloudReconciler.Manifest.Schema
import CloudReconciler.Resource.Project
import CloudReconciler.Resource.Volume

/-! # Definitions — how the cluster learns about the kinds

    A definition names a kind, says which columns its listings have, and
    gives the schema of its spec and status.  Members come in the order of
    their names. -/

namespace CloudReconciler

/-- A column of a kind's listings. -/
structure Column where
  name : String
  path : String
  type : String

/-- What the cluster is told about a kind. -/
structure Definition where
  kind : KindName
  columns : List Column
  spec : Schema
  status : Schema

namespace Definition

open Schema

/-! ## Schemas -/

/-- The schema of conditions. -/
def conditionSchema : Schema :=
  record "Kubernetes-style condition for status reporting"
    [⟨"type", text "Type of condition (e.g., Synchronized)", true⟩,
      ⟨"status",
        oneOf "Status of the condition (True, False, Unknown)"
          ([Verdict.holds, .fails, .unknown].map Verdict.wire), true⟩,
      ⟨"reason", text "Machine-readable reason for the condition", true⟩,
      ⟨"message", text "Human-readable message", true⟩,
      ⟨"lastTransitionTime", time "Last time the condition status changed", true⟩]

/-- The members of the engine's record. -/
def statusMembers : List Member :=
  [⟨"phase",
      (oneOf "Current lifecycle phase" (Phase.all.map Phase.wire)).withDefault
        Phase.uninitialized.toJson, false⟩,
    ⟨"message", (text "Human-readable outcome of the last transition").nullable, false⟩,
    ⟨"resourceID", (text "Identifier of the resource in the remote cloud API").nullable, false⟩,
    ⟨"observedGeneration",
      (integer "int64" "Generation of the spec last acted upon").nullable, false⟩,
    ⟨"phaseStartTime", (time "When the current phase was entered").nullable, false⟩,
    ⟨"conditions", listOf "Conditions representing the resource state" conditionSchema, false⟩]

/-- The schema of the engine's record. -/
def statusSchema : Schema :=
  (record
      "Observed state written by the reconciliation engine\n\nEmbedded in the status of every managed resource kind."
      statusMembers).nullable

/-- The schema of the specs of projects. -/
def projectSpecSchema : Schema :=
  record "Specification for a Project"
    [⟨"tenant", (text "Owning tenant").withDefault (.string ""), false⟩,
      ⟨"description",
        (text "Free-form description shown in the provider console").nullable, false⟩,
      ⟨"tags", texts "Tags attached to the remote project", false⟩,
      ⟨"default",
        (bool "Whether this is the tenant's default project").withDefault (.bool false), false⟩]

/-- The schema of the specs of volumes. -/
def volumeSpecSchema : Schema :=
  record "Specification for a BlockStorage volume"
    [⟨"tenant", (text "Owning tenant").withDefault (.string ""), false⟩,
      ⟨"tags", texts "Tags attached to the remote volume", false⟩,
      ⟨"location",
        record "Region for the volume"
          [⟨"value", text "Provider location code (e.g., ITBG-Bergamo)", true⟩], true⟩,
      ⟨"sizeGb", integer "int32" "Size in GB (1-16384)", true⟩,
      ⟨"billingPeriod", text "Billing period (Hour, Month)", true⟩,
      ⟨"dataCenter", text "Data center within the region", true⟩,
      ⟨"type", (text "Performance tier (Standard, Performance)").nullable, false⟩,
      ⟨"bootable",
        (bool "Whether the volume can be used as a boot disk").withDefault (.bool false), false⟩,
      ⟨"image", (text "Image to initialize a bootable volume from").nullable, false⟩,
      ⟨"projectReference",
        record "Project that owns this volume"
          [⟨"name", text "Name of the referenced object", true⟩,
            ⟨"namespace",
              (text
                "Namespace of the referenced object; defaults to the referrer's namespace").nullable,
              false⟩], true⟩]

/-- The schema of the statuses of volumes. -/
def volumeStatusSchema : Schema :=
  (record "Status for a BlockStorage volume"
      (statusMembers ++
        [⟨"projectID", (text "Remote project the volume was created in").nullable, false⟩])).nullable

/-! ## Kinds -/

/-- The age of an object as a column. -/
def age : Column := ⟨"Age", ".metadata.creationTimestamp", "date"⟩

/-- The phase of an object as a column. -/
def phase : Column := ⟨"Phase", ".status.phase", "string"⟩

/-- The definition of projects. -/
def project : Definition where
  kind := Managed.name ProjectSpec
  columns := [phase, ⟨"ID", ".status.resourceID", "string"⟩, age]
  spec := projectSpecSchema
  status := statusSchema

/-- The definition of volumes. -/
def volume : Definition where
  kind := Managed.name VolumeSpec
  columns := [phase, ⟨"Size", ".spec.sizeGb", "integer"⟩, age]
  spec := volumeSpecSchema
  status := volumeStatusSchema

/-! ## Documents -/

def columnJson (c : Column) : Json :=
  .object [("jsonPath", .string c.path), ("name", .string c.name), ("type", .string c.type)]

/-- The schema of whole objects. -/
def objectSchema (d : Definition) : Schema :=
  (record
      ("Auto-generated derived type for " ++ d.kind.kind ++ "Spec via \x60CustomResource\x60")
      [⟨"spec", d.spec, true⟩, ⟨"status", d.status, false⟩]).and "title" (.string d.kind.kind)

/-- The definition as a document. -/
def toJson (d : Definition) : Json :=
  let names : Json := .object
    [("categories", .array []), ("kind", .string d.kind.kind), ("plural", .string d.kind.plural),
      ("shortNames", Json.strings [d.kind.short]), ("singular", .string d.kind.singular)]
  let version : Json := .object
    [("additionalPrinterColumns", .array (d.columns.map columnJson)),
      ("name", .string KindName.version),
      ("schema", .object [("openAPIV3Schema", d.objectSchema.toJson)]), ("served", .bool true),
      ("storage", .bool true), ("subresources", .object [("status", .object [])])]
  Json.sorted <| .object
    [("apiVersion", .string "apiextensions.k8s.io/v1"),
      ("kind", .string "CustomResourceDefinition"),
      ("metadata", .object [("name", .string (d.kind.plural ++ "." ++ KindName.group))]),
      ("spec", .object
        [("group", .string KindName.group), ("names", names), ("scope", .string "Namespaced"),
          ("versions", .array [version])])]

end Definition

end CloudReconciler
