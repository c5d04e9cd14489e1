import CloudReconciler.Resource.Basic

/-! # Projects — groups of remote resources of one tenant -/

namespace CloudReconciler

/-- What is wanted of a project. -/
structure ProjectSpec where
  /-- Owning tenant. -/
  tenant : String := ""
  /-- Text shown in the provider's console. -/
  description : Option String := none
  tags : List String := []
  /-- The project is the tenant's default one. -/
  isDefault : Bool := false
  deriving DecidableEq, Repr, Inhabited

namespace ProjectSpec

def toJson (s : ProjectSpec) : Json :=
  .object
    (("tenant", .string s.tenant) ::
      (Json.member? "description" .string s.description ++
        Json.listMember "tags" .string s.tags ++ [("default", .bool s.isDefault)]))

def ofJson? (j : Json) : Option ProjectSpec := do
  let m ← j.record? ["tenant", "description", "tags", "default"] 0
  return {
    tenant := ← Json.defaulted Json.string? "" "tenant" m
    description := ← Json.optional Json.string? "description" m
    tags := ← Json.defaulted (Json.list? Json.string?) [] "tags" m
    isDefault := ← Json.defaulted Json.bool? false "default" m }

end ProjectSpec

instance : Document ProjectSpec where
  encode := ProjectSpec.toJson
  decode? _ := ProjectSpec.ofJson?

instance : Managed ProjectSpec Status where
  name := ⟨"Project", "projects", "project", "proj"⟩
  finalizer := "project.cloud.resource-operator.io/finalizer"
  tenantText := ProjectSpec.tenant
  blank := {}
  record := id
  withRecord _ r := r
  record_withRecord _ _ := rfl
  record_blank := rfl

/-- A project. -/
abbrev Project := Resource ProjectSpec Status

end CloudReconciler
