import CloudReconciler.Reconcile.Engine

/-! # Transitions — how a status is written

    A transition names the next phase and why.  `deferral?` says when a
    retry of the current phase has to wait for the next point of the grid;
    otherwise `recorded` is the object with the transition in its status,
    and `next` writes it. -/

namespace CloudReconciler

/-- A step of the state machine. -/
structure Transition where
  phase : Phase
  /-- The remote resource matches the spec. -/
  synchronized : Bool
  reason : String
  message : String
  /-- Another invocation is wanted without a change of the object. -/
  requeue : Bool
  deriving DecidableEq, Repr

namespace Transition

variable {Spec St : Type} [Managed Spec St]

/-- The wait of a retry of the current phase that came between two points of the grid. -/
def deferral? (t : Transition) (policy : Policy) (now : Instant) (o : Resource Spec St) :
    Option Duration :=
  if t.requeue = true ∧ t.phase = o.phase then
    o.recordOrBlank.phaseStart.bind fun start => gridDelay (now.elapsed start) policy.interval
  else none

/-- The condition that a transition records. -/
def condition (t : Transition) (now : Instant) : Condition :=
  ⟨Status.synchronizedKind, .ofBool t.synchronized, t.reason, t.message, now⟩

/-- The status after a transition: the start of the phase moves only when the phase changes or has
    no start yet. -/
def apply (t : Transition) (generation : Option Int64) (now : Instant) (s : Status) : Status :=
  { s with
    phase := t.phase
    message := some t.message
    observedGeneration := generation
    phaseStart :=
      if t.phase ≠ s.phase then some now else some (s.phaseStart.getD now) }.setCondition
    (t.condition now)

/-- The object with the transition in its status. -/
def recorded (t : Transition) (now : Instant) (o : Resource Spec St) : Resource Spec St :=
  o.withRecord (t.apply o.metadata.generation now o.recordOrBlank)

/-- The action after the transition has been written. -/
def action (t : Transition) (policy : Policy) : Action :=
  if t.requeue then .requeue policy.interval else .awaitChange

/-- Writes the transition, unless it is a retry that has to wait. -/
def next (policy : Policy) (o : Resource Spec St) (t : Transition) :
    Engine (Resource Spec St) (Stage (Resource Spec St)) :=
  .call .now fun now =>
    match t.deferral? policy now o with
    | some wait => .done ⟨.ok (.requeue wait), o⟩
    | none =>
        .call (.updateStatus (t.recorded now o)) fun
          | .ok stored => .done ⟨.ok (t.action policy), stored⟩
          | .error f => .done ⟨.error f, t.recorded now o⟩

/-! ## Failures

    The remote API's verdict decides: not ready and server errors are
    retried in the phase they met, other client errors are final, and
    everything else is retried. -/

/-- The transition that a failed call in the given phase leads to. -/
def ofFault (current : Phase) (f : Fault) : Transition :=
  match f.problem? with
  | some p =>
      if p.isNotReady then
        ⟨current, false, "ResourceNotReady",
          "Remote resource is not ready, will retry: " ++ p.text, true⟩
      else if p.isClientError then
        ⟨.failed, false, "ClientError",
          "Client error (HTTP " ++ toString p.status.toNat ++ "): " ++ p.text, false⟩
      else if p.isServerError then
        ⟨current, false, "ServerError",
          "Server error (HTTP " ++ toString p.status.toNat ++ "): " ++ p.text ++ " - will retry",
          true⟩
      else retry current f
  | none => retry current f
where
  retry (current : Phase) (f : Fault) : Transition :=
    ⟨current, false, "ReconcileError", "Reconcile error encountered, will retry: " ++ f.message,
      true⟩

/-- Records a fault that is retried whatever its cause. -/
def ofRetriedFault (current : Phase) (f : Fault) : Transition := ofFault.retry current f

end Transition

end CloudReconciler
