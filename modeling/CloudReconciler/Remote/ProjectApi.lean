import CloudReconciler.Remote.Gateway

/-! # Project endpoints of the remote API -/

namespace CloudReconciler

/-- What the remote API calls a resource. -/
structure RemoteIdentity where
  id : String := ""
  name : String := ""
  deriving DecidableEq, Repr, Inhabited

namespace RemoteIdentity

def toJson (i : RemoteIdentity) : Json := .object [("id", .string i.id), ("name", .string i.name)]

def ofJson? (j : Json) : Option RemoteIdentity := do
  let m ← j.record? ["id", "name"] 0
  return ⟨← Json.defaulted Json.string? "" "id" m, ← Json.defaulted Json.string? "" "name" m⟩

end RemoteIdentity

/-- Properties of a remote project. -/
structure ProjectProperties where
  description : Option String := none
  isDefault : Bool := false
  deriving DecidableEq, Repr, Inhabited

namespace ProjectProperties

def toJson (p : ProjectProperties) : Json :=
  .object (Json.member? "description" .string p.description ++ [("default", .bool p.isDefault)])

def ofJson? (j : Json) : Option ProjectProperties := do
  let m ← j.record? ["description", "default"] 0
  return {
    description := ← Json.optional Json.string? "description" m
    isDefault := ← Json.defaulted Json.bool? false "default" m }

end ProjectProperties

/-- What is sent to create or change a project. -/
structure ProjectRequest where
  name : String
  tags : List String := []
  properties : ProjectProperties
  deriving DecidableEq, Repr, Inhabited

namespace ProjectRequest

def toJson (r : ProjectRequest) : Json :=
  .object
    [("metadata", .object (("name", .string r.name) :: Json.listMember "tags" .string r.tags)),
      ("properties", r.properties.toJson)]

def ofJson? (j : Json) : Option ProjectRequest := do
  let m ← j.record? ["metadata", "properties"] 2
  let about ← Json.needed (Json.record? ["name", "tags"] 1) "metadata" m
  return {
    name := ← Json.needed Json.string? "name" about
    tags := ← Json.defaulted (Json.list? Json.string?) [] "tags" about
    properties := ← Json.needed ProjectProperties.ofJson? "properties" m }

end ProjectRequest

/-- A project as the remote API describes it. -/
structure RemoteProject where
  identity : RemoteIdentity
  properties : ProjectProperties := {}
  deriving DecidableEq, Repr, Inhabited

namespace RemoteProject

def toJson (p : RemoteProject) : Json :=
  .object [("metadata", p.identity.toJson), ("properties", p.properties.toJson)]

def ofJson? (j : Json) : Option RemoteProject := do
  let m ← j.record? ["metadata", "properties"] 1
  return {
    identity := ← Json.needed RemoteIdentity.ofJson? "metadata" m
    properties := ← Json.defaulted ProjectProperties.ofJson? {} "properties" m }

end RemoteProject

namespace Gateway

def createProject (g : Gateway) (r : ProjectRequest) :
    Procedure GatewayCalls (Outcome RemoteProject) :=
  g.post RemoteProject.ofJson? "/projects" r.toJson

def getProject (g : Gateway) (project : String) :
    Procedure GatewayCalls (Outcome RemoteProject) :=
  g.get RemoteProject.ofJson? ("/projects/" ++ project)

def updateProject (g : Gateway) (project : String) (r : ProjectRequest) :
    Procedure GatewayCalls (Outcome (Option RemoteProject)) :=
  g.put RemoteProject.ofJson? ("/projects/" ++ project) r.toJson

def deleteProject (g : Gateway) (project : String) : Procedure GatewayCalls (Outcome Unit) :=
  g.delete ("/projects/" ++ project)

end Gateway

end CloudReconciler
