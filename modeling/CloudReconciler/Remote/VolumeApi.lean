import CloudReconciler.Remote.ProjectApi
import CloudReconciler.Resource.Volume

/-! # Block storage endpoints of the remote API -/

namespace CloudReconciler

/-- What is sent to create or change a volume. -/
structure VolumeRequest where
  name : String
  tags : List String := []
  location : Location
  sizeGb : Int32
  billingPeriod : String
  dataCenter : String
  tier : Option String := none
  bootable : Bool := false
  image : Option String := none
  deriving DecidableEq, Repr, Inhabited

namespace VolumeRequest

def toJson (r : VolumeRequest) : Json :=
  .object
    [("metadata",
        .object
          (("name", .string r.name) ::
            (Json.listMember "tags" .string r.tags ++ [("location", r.location.toJson)]))),
      ("properties",
        .object
          ([("sizeGb", .int r.sizeGb.toInt), ("billingPeriod", .string r.billingPeriod),
              ("dataCenter", .string r.dataCenter)] ++
            Json.member? "type" .string r.tier ++ [("bootable", .bool r.bootable)] ++
            Json.member? "image" .string r.image))]

def ofJson? (j : Json) : Option VolumeRequest := do
  let m ← j.record? ["metadata", "properties"] 2
  let about ← Json.needed (Json.record? ["name", "tags", "location"] 3) "metadata" m
  let props ← Json.needed
    (Json.record? ["sizeGb", "billingPeriod", "dataCenter", "type", "bootable", "image"] 3)
    "properties" m
  return {
    name := ← Json.needed Json.string? "name" about
    tags := ← Json.defaulted (Json.list? Json.string?) [] "tags" about
    location := ← Json.needed Location.ofJson? "location" about
    sizeGb := ← Json.needed Json.int32? "sizeGb" props
    billingPeriod := ← Json.needed Json.string? "billingPeriod" props
    dataCenter := ← Json.needed Json.string? "dataCenter" props
    tier := ← Json.optional Json.string? "type" props
    bootable := ← Json.defaulted Json.bool? false "bootable" props
    image := ← Json.optional Json.string? "image" props }

end VolumeRequest

/-- A volume as the remote API describes it. -/
structure RemoteVolume where
  identity : RemoteIdentity
  /-- The reported state, possibly empty; some replies have none. -/
  reported : Option String := none
  deriving DecidableEq, Repr, Inhabited

namespace RemoteVolume

/-- The remote state, if one is reported. -/
def state? (v : RemoteVolume) : Option String := v.reported.filter (· ≠ "")

def toJson (v : RemoteVolume) : Json :=
  .object
    [("metadata", v.identity.toJson),
      ("status", (v.reported.map fun s => Json.object [("state", .string s)]).getD .null)]

/-- The state inside the status of a reply. -/
def reported? (j : Json) : Option String := do
  let m ← j.record? ["state"] 0
  Json.defaulted Json.string? "" "state" m

def ofJson? (j : Json) : Option RemoteVolume := do
  let m ← j.record? ["metadata", "status"] 1
  return {
    identity := ← Json.needed RemoteIdentity.ofJson? "metadata" m
    reported := ← Json.optional reported? "status" m }

end RemoteVolume

namespace Gateway

/-- Where the volumes of a project live. -/
def volumesOf (project : String) : String :=
  "/projects/" ++ project ++ "/providers/Storage/blockStorages"

/-- Where one volume lives. -/
def volumeAt (project volume : String) : String := volumesOf project ++ "/" ++ volume

def createVolume (g : Gateway) (project : String) (r : VolumeRequest) :
    Procedure GatewayCalls (Outcome RemoteVolume) :=
  g.post RemoteVolume.ofJson? (volumesOf project) r.toJson

def getVolume (g : Gateway) (project volume : String) :
    Procedure GatewayCalls (Outcome RemoteVolume) :=
  g.get RemoteVolume.ofJson? (volumeAt project volume)

def updateVolume (g : Gateway) (project volume : String) (r : VolumeRequest) :
    Procedure GatewayCalls (Outcome (Option RemoteVolume)) :=
  g.put RemoteVolume.ofJson? (volumeAt project volume) r.toJson

def deleteVolume (g : Gateway) (project volume : String) :
    Procedure GatewayCalls (Outcome Unit) :=
  g.delete (volumeAt project volume)

end Gateway

end CloudReconciler
