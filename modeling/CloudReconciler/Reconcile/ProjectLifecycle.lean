import CloudReconciler.Reconcile.Lifecycle
import CloudReconciler.Remote.ProjectApi

/-! # The lifecycle of projects

    The provider creates a project before it answers, so a project is never
    provisioned: it is created, updated and deleted by one call each. -/

namespace CloudReconciler

/-- The request that describes a project. -/
def projectRequest (p : Project) : ProjectRequest where
  name := p.name
  tags := p.spec.tags
  properties := ⟨p.spec.description, p.spec.isDefault⟩

/-- The fault of a project that has not been created. -/
def projectUnnamed : Fault := .dependency "project has no remote id yet"

/-- The remote calls of a project. -/
def projectLifecycle : Lifecycle Project where
  initialize_ policy _ p := initializeResource policy p (Managed.finalizer ProjectSpec)
  create policy g p :=
    handleCreating policy p do
      return (← Engine.remote (g.createProject (projectRequest p))).map fun created =>
        { id := created.identity.id }
  poll _ _ p := .done ⟨.ok .awaitChange, p⟩
  push policy g p :=
    handleUpdating policy p <|
      match p.remoteId? with
      | none => .done (.error projectUnnamed)
      | some id => do
          return (← Engine.remote (g.updateProject id (projectRequest p))).map fun _ => ()
  check policy _ p := checkForUpdates policy p
  remove policy g p :=
    handleDeletion policy p (Managed.finalizer ProjectSpec) <|
      match p.remoteId? with
      | none => .done (.ok ())
      | some id => Engine.remote (g.deleteProject id)

end CloudReconciler
