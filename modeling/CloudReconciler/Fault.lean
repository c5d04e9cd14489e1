import CloudReconciler.Remote.Problem

/-! # Faults — why an operation did not succeed

    One constructor per cause.  `Fault.message` gives the wording,
    `Fault.isRetryable` whether another attempt may succeed without a
    change to the object or to the configuration. -/

namespace CloudReconciler

/-- Why an operation did not succeed. -/
inductive Fault where
  /-- The cluster's API refused a call with the given code, or the call failed without a reply. -/
  | cluster (code : Option UInt16) (detail : String)
  /-- The object is gone from the cluster. -/
  | notFound (what : String)
  /-- The object cannot be reconciled as it is. -/
  | precondition (detail : String)
  /-- The remote API reported a problem. -/
  | problem (p : Problem)
  /-- A remote call was not completed. -/
  | transport (detail : String)
  /-- The invocation was cancelled. -/
  | cancelled
  /-- The identity provider gave no token. -/
  | authentication (detail : String)
  /-- The secret backend gave no session or secret. -/
  | secretBackend (detail : String)
  /-- Another object is not usable yet. -/
  | dependency (detail : String)
  /-- A document could not be decoded. -/
  | serialization (detail : String)
  /-- The configuration is incomplete. -/
  | configuration (detail : String)
  deriving DecidableEq, Repr

namespace Fault

/-- The wording of a fault. -/
def message : Fault → String
  | .cluster _ detail => "kubernetes error: " ++ detail
  | .notFound what => "object not found: " ++ what
  | .precondition detail => "precondition failed: " ++ detail
  | .problem p => p.text
  | .transport detail => "transport error: " ++ detail
  | .cancelled => "operation cancelled"
  | .authentication detail => "authentication error: " ++ detail
  | .secretBackend detail => "secret backend error: " ++ detail
  | .dependency detail => "dependency not ready: " ++ detail
  | .serialization detail => "serialization error: " ++ detail
  | .configuration detail => "configuration error: " ++ detail

/-- The problem of the remote API, if that is the cause. -/
def problem? : Fault → Option Problem
  | .problem p => some p
  | _ => none

/-- The object is gone from the cluster. -/
def isNotFound : Fault → Bool
  | .notFound _ => true
  | .cluster code _ => code == some 404
  | _ => false

/-- Another attempt may succeed without a change to the object or the configuration. -/
def isRetryable : Fault → Bool
  | .precondition _ | .configuration _ | .serialization _ | .notFound _ => false
  | .problem p => !p.isClientError || p.isNotReady
  | _ => true

end Fault

/-- A value or the fault that prevented it. -/
abbrev Outcome (α : Type) := Except Fault α

end CloudReconciler
