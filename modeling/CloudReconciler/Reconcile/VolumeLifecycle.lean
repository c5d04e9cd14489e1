import CloudReconciler.Reconcile.Lifecycle
import CloudReconciler.Remote.VolumeApi

/-! # The lifecycle of volumes

    A volume is created inside the remote project of the project it refers
    to.  The remote project is recorded with the volume, so later calls do
    not look at the project again. -/

namespace CloudReconciler

/-- The request that describes a volume. -/
def volumeRequest (v : Volume) : VolumeRequest where
  name := v.name
  tags := v.spec.tags
  location := v.spec.location
  sizeGb := v.spec.sizeGb
  billingPeriod := v.spec.billingPeriod
  dataCenter := v.spec.dataCenter
  tier := v.spec.tier
  bootable := v.spec.bootable
  image := v.spec.image

/-- The namespace of a referenced object. -/
def Reference.namespaceOr (r : Reference) (default : String) : String :=
  (r.namespace_.filter (· ≠ "")).getD default

/-- The remote identifier of the referenced project. -/
def resolveProject {O : Type} (r : Reference) (default : String) : Engine O (Outcome String) :=
  let namespace_ := r.namespaceOr default
  let project := "project " ++ namespace_ ++ "/" ++ r.name
  .call (.fetchProject namespace_ r.name) fun
    | .error f => .done (.error f)
    | .ok none => .done (.error (.dependency (project ++ " not found")))
    | .ok (some p) =>
        .done <|
          match p.remoteId? with
          | some id => .ok id
          | none => .error (.dependency (project ++ " has no remote id yet"))

/-- The volume with the remote project that it is created in. -/
def Resource.withProjectId (v : Volume) (project : String) : Volume :=
  { v with status := some { v.status.getD {} with projectId := some project } }

/-- The recorded remote project and volume. -/
def Resource.remoteIds? (v : Volume) : Option (String × String) :=
  match v.projectId?, v.remoteId? with
  | some project, some volume => some (project, volume)
  | _, _ => none

/-- The fault of a volume that has not been created. -/
def volumeUnnamed : Fault := .dependency "volume has no remote id yet"

/-- The remote calls of a volume. -/
def volumeLifecycle : Lifecycle Volume where
  initialize_ policy _ v := initializeResource policy v (Managed.finalizer VolumeSpec)
  create policy g v := do
    match ← resolveProject v.spec.project v.namespaceText with
    | .error f => recordFault policy v f
    | .ok project =>
        let placed := v.withProjectId project
        handleCreating policy placed do
          return (← Engine.remote (g.createVolume project (volumeRequest placed))).map fun created =>
            { id := created.identity.id, state := created.state? }
  poll policy g v :=
    handleProvisioning policy v <|
      match v.remoteIds? with
      | none => .done (.error volumeUnnamed)
      | some (project, volume) => do
          return (← Engine.remote (g.getVolume project volume)).map RemoteVolume.state?
  push policy g v :=
    handleUpdating policy v <|
      match v.remoteIds? with
      | none => .done (.error volumeUnnamed)
      | some (project, volume) => do
          return (← Engine.remote (g.updateVolume project volume (volumeRequest v))).map fun _ => ()
  check policy _ v := checkForUpdates policy v
  remove policy g v :=
    handleDeletion policy v (Managed.finalizer VolumeSpec) <|
      match v.remoteIds? with
      | none => .done (.ok ())
      | some (project, volume) => Engine.remote (g.deleteVolume project volume)

end CloudReconciler
