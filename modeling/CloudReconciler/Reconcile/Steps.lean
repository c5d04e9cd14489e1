import CloudReconciler.Reconcile.Transition

/-! # Steps — what an invocation does in each phase

    Before a phase is served, `enforceTimeout` and `beginDeletion` may
    settle the invocation.  Each later step turns the outcome of a remote
    call into a transition. -/

namespace CloudReconciler

/-- What the remote API answered to a creation. -/
structure Creation where
  id : String
  /-- The reported state; none for a resource that is usable at once. -/
  state : Option String := none
  deriving DecidableEq, Repr

/-- The meaning of a reported state. -/
structure StateTable where
  /-- Provisioning is complete. -/
  ready : List String
  /-- Provisioning will not complete. -/
  failed : List String
  /-- A creation goes on in the background. -/
  pending : List String

/-- The states of the remote API. -/
def remoteStates : StateTable where
  ready := ["Available", "Active", "NotUsed", "Used"]
  failed := ["Failed", "Error"]
  pending := ["InCreation", "Provisioning"]

namespace Transition

/-- Creation starts. -/
def initialized : Transition :=
  ⟨.creating, false, "Initialized", "Resource initialized successfully", true⟩

/-- The remote resource is being prepared. -/
def provisioning : Transition :=
  ⟨.provisioning, false, "Provisioning", "Resource is being provisioned", true⟩

/-- The remote resource matches the spec. -/
def created : Transition := ⟨.created, true, "Created", "Resource created successfully", true⟩

/-- A change of the spec has been sent. -/
def updated : Transition := ⟨.created, true, "Updated", "Resource updated successfully", true⟩

/-- A change of the spec has been noticed. -/
def updating : Transition := ⟨.updating, false, "Updating", "Resource update initiated", true⟩

/-- The object is marked for deletion. -/
def toBeDeleted : Transition :=
  ⟨.deleting, false, "ToBeDeleted", "deletion timestamp detected", true⟩

/-- A phase lasted longer than the policy allows. -/
def timedOut (timeout : Duration) : Transition :=
  ⟨.failed, false, "ReconciliationTimeout",
    "Reconciliation took too much time (timeout: " ++ timeout.text ++ ")", false⟩

/-- Provisioning ended in a failed state. -/
def provisioningFailed (state : String) : Transition :=
  ⟨.failed, false, "ProvisioningFailed", "Remote provisioning ended in state " ++ state, false⟩

/-- Where a creation leads. -/
def ofCreation (state : Option String) : Transition :=
  match state with
  | some s => if s ∈ remoteStates.pending then provisioning else created
  | none => created

/-- Where a poll leads. -/
def ofPoll (state : Option String) : Transition :=
  match state with
  | some s =>
      if s ∈ remoteStates.ready then created
      else if s ∈ remoteStates.failed then provisioningFailed s
      else provisioning
  | none => provisioning

end Transition

section

variable {Spec St : Type} [Managed Spec St] (policy : Policy) (o : Resource Spec St)

/-- Writes the transition that a fault leads to. -/
def recordFault (f : Fault) : Engine (Resource Spec St) (Stage (Resource Spec St)) :=
  (Transition.ofFault o.phase f).next policy o

/-- Records a fault as one to be retried. -/
def recordRetry (f : Fault) : Engine (Resource Spec St) (Stage (Resource Spec St)) :=
  (Transition.ofRetriedFault o.phase f).next policy o

/-- Fails an object whose transitioning phase has lasted too long; nothing is settled otherwise. -/
def enforceTimeout : Engine (Resource Spec St) (Option (Stage (Resource Spec St))) :=
  match o.recordOrBlank.phaseStart with
  | none => .done none
  | some start =>
      if o.phase.isTransitioning then
        .call .now fun now =>
          if now.elapsed start ≤ policy.timeout then .done none
          else do return some (← (Transition.timedOut policy.timeout).next policy o)
      else .done none

/-- Moves an object that is marked for deletion to the phase of deletion; nothing is settled for
    others. -/
def beginDeletion : Engine (Resource Spec St) (Option (Stage (Resource Spec St))) :=
  if o.metadata.isMarked = true ∧ o.phase ≠ .deleting ∧ o.phase ≠ .failed then do
    let s ← Transition.toBeDeleted.next policy o
    return some ⟨s.result.map fun _ => .requeue .zero, s.object⟩
  else .done none

/-- Attaches the finalizer and starts creation. -/
def initializeResource (finalizer : String) :
    Engine (Resource Spec St) (Stage (Resource Spec St)) :=
  if o.metadata.hasFinalizer finalizer then Transition.initialized.next policy o
  else
    let guarded := { o with metadata := o.metadata.attach finalizer }
    .call (.update guarded) fun
      | .ok stored => Transition.initialized.next policy stored
      | .error f => recordFault policy guarded f

/-- Creates the remote resource and records its identifier. -/
def handleCreating (create : Engine (Resource Spec St) (Outcome Creation)) :
    Engine (Resource Spec St) (Stage (Resource Spec St)) := do
  match ← create with
  | .error f => recordFault policy o f
  | .ok c =>
      let named := o.withRecord { o.recordOrBlank with resourceId := some c.id }
      (Transition.ofCreation c.state).next policy named

/-- Asks for the state of the remote resource. -/
def handleProvisioning (poll : Engine (Resource Spec St) (Outcome (Option String))) :
    Engine (Resource Spec St) (Stage (Resource Spec St)) := do
  match ← poll with
  | .error f => recordFault policy o f
  | .ok state => (Transition.ofPoll state).next policy o

/-- Sends the spec. -/
def handleUpdating (push : Engine (Resource Spec St) (Outcome Unit)) :
    Engine (Resource Spec St) (Stage (Resource Spec St)) := do
  match ← push with
  | .error f => recordFault policy o f
  | .ok () => Transition.updated.next policy o

/-- Removes the remote resource and then the finalizer. -/
def handleDeletion (finalizer : String) (remove : Engine (Resource Spec St) (Outcome Unit)) :
    Engine (Resource Spec St) (Stage (Resource Spec St)) := do
  match ← remove with
  | .error f => recordFault policy o f
  | .ok () =>
      if o.metadata.hasFinalizer finalizer then
        let released := { o with metadata := o.metadata.release finalizer }
        .call (.update released) fun
          | .ok stored => .done ⟨.ok .awaitChange, stored⟩
          | .error f =>
              if f.isNotFound then .done ⟨.ok .awaitChange, released⟩
              else recordFault policy released f
      else .done ⟨.ok .awaitChange, o⟩

/-- Starts an update when the object's generation is not the observed one. -/
def checkForUpdates : Engine (Resource Spec St) (Stage (Resource Spec St)) :=
  if o.recordOrBlank.observedGeneration = o.metadata.generation then
    .done ⟨.ok .awaitChange, o⟩
  else Transition.updating.next policy o

end

end CloudReconciler
