import CloudReconciler.Reconcile.Steps

/-! # Lifecycles and invocations — one reconciliation of one object

    A lifecycle serves the phases of one kind.  An invocation fetches the
    object, authenticates its tenant, lets timeout and deletion settle it,
    and otherwise serves the phase it is in. -/

namespace CloudReconciler

/-- How one kind serves the phases that ask for something. -/
@[ext]
structure Lifecycle (O : Type) where
  initialize_ : Policy → Gateway → O → Engine O (Stage O)
  create : Policy → Gateway → O → Engine O (Stage O)
  poll : Policy → Gateway → O → Engine O (Stage O)
  push : Policy → Gateway → O → Engine O (Stage O)
  check : Policy → Gateway → O → Engine O (Stage O)
  remove : Policy → Gateway → O → Engine O (Stage O)

/-- What all invocations of a kind share. -/
structure Setting (O : Type) where
  lifecycle : Lifecycle O
  /-- The gateway without token. -/
  gateway : Gateway
  policy : Policy := .default
  /-- Every object has to name its tenant. -/
  multiTenant : Bool := false

variable {Spec St : Type} [Managed Spec St]

/-- Serves the phase that the object is in. -/
def Lifecycle.serve (l : Lifecycle (Resource Spec St)) (policy : Policy) (g : Gateway)
    (o : Resource Spec St) : Engine (Resource Spec St) (Stage (Resource Spec St)) :=
  match o.phase with
  | .uninitialized => l.initialize_ policy g o
  | .creating => l.create policy g o
  | .provisioning => l.poll policy g o
  | .updating => l.push policy g o
  | .created => l.check policy g o
  | .deleting => l.remove policy g o
  | .deleted | .failed => .done ⟨.ok .awaitChange, o⟩

namespace Setting

/-- Reconciles an authenticated object. -/
def advance (s : Setting (Resource Spec St)) (g : Gateway) (o : Resource Spec St) :
    Engine (Resource Spec St) (Stage (Resource Spec St)) := do
  match ← enforceTimeout s.policy o with
  | some settled => return settled
  | none =>
      match ← beginDeletion s.policy o with
      | some settled => return settled
      | none => s.lifecycle.serve s.policy g o

/-- The fault of an object that names no tenant where it has to. -/
def tenantMissing : Fault := .precondition "tenant is not specified in the resource spec"

/-- Reconciles the object of that name. -/
def reconcile (s : Setting (Resource Spec St)) (namespace_ name : String) :
    Engine (Resource Spec St) (Outcome Action) :=
  .call (.fetch namespace_ name) fun
    | .error f => .done (.error f)
    | .ok none => .done (.ok .awaitChange)
    | .ok (some o) =>
        let tenant := o.tenant?.getD ""
        if tenant = "" ∧ s.multiTenant = true then .done (.error tenantMissing)
        else
          .call (.authenticate tenant) fun
            | .error f => .done (.error f)
            | .ok token => do return (← s.advance (s.gateway.authorized token) o).result

/-- What follows a failed invocation. -/
def afterFault (s : Setting (Resource Spec St)) (f : Fault) : Action :=
  if f.isRetryable then .requeue s.policy.interval else .awaitChange

end Setting

end CloudReconciler
