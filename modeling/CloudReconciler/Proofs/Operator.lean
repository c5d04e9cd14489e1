import CloudReconciler.Proofs.Credentials.ManagerState
import CloudReconciler.Proofs.Reconcile.RemoteCalls
import CloudReconciler.Scripted.World

/-! # The operator — invocations of both kinds over one token manager

    An operator runs many invocations at a time, of projects and of volumes,
    and all of them get their tokens from one manager.  A job is one
    invocation where tenants have their own secrets: its authentication is
    the manager's procedure, call by call, so two jobs can take turns
    between any two calls of it.  What the jobs share is the manager's
    state; everything else answers anything at all. -/

namespace CloudReconciler

/-- The kinds of objects that an operator reconciles. -/
inductive Kind where
  | project
  | volume
  deriving DecidableEq, Repr

namespace Kind

/-- What objects of the kind specify. -/
abbrev Spec : Kind → Type
  | .project => ProjectSpec
  | .volume => VolumeSpec

/-- What objects of the kind report. -/
abbrev St : Kind → Type
  | .project => Status
  | .volume => VolumeStatus

instance : (k : Kind) → Managed k.Spec k.St
  | .project => inferInstanceAs (Managed ProjectSpec Status)
  | .volume => inferInstanceAs (Managed VolumeSpec VolumeStatus)

/-- Objects of the kind. -/
abbrev Object (k : Kind) : Type := Resource k.Spec k.St

/-- What the kind asks of the remote API. -/
def calls : (k : Kind) → RemoteCalls k.Spec k.St
  | .project => projectCalls
  | .volume => volumeCalls

/-- How the kind serves its phases. -/
def lifecycle : (k : Kind) → Lifecycle k.Object
  | .project => projectLifecycle
  | .volume => volumeLifecycle

theorem lifecycle_eq (k : Kind) : k.lifecycle = k.calls.lifecycle := by
  cases k with
  | project => exact projectLifecycle_eq
  | volume => exact volumeLifecycle_eq

end Kind

/-- A call that one of the operator's invocations makes. -/
inductive OperatorCall where
  /-- A call of the engine for an object of the kind. -/
  | engine (k : Kind) (c : EngineCall k.Object)
  /-- A call of the token manager. -/
  | credentials (c : CredentialCall)

/-- Calls of the operator's invocations and their replies. -/
def OperatorCalls : Interface where
  Call := OperatorCall
  Reply
    | .engine k c => (EngineCalls k.Object).Reply c
    | .credentials c => CredentialCalls.Reply c

/-- A procedure of the token manager as part of an invocation. -/
def TokenManager.inOperator {α : Type} (p : Procedure CredentialCalls α) :
    Procedure OperatorCalls α :=
  p.expand fun c => Procedure.ask (I := OperatorCalls) (.credentials c)

theorem TokenManager.inOperator_bind {α β : Type} (p : Procedure CredentialCalls α)
    (next : α → Procedure CredentialCalls β) :
    inOperator (p.bind next) = (inOperator p).bind fun a => inOperator (next a) :=
  Procedure.expand_bind _ p next

/-- An invocation's call as the operator makes it: tenants authenticate with their own secrets. -/
def Kind.meaning (k : Kind) : (c : EngineCall k.Object) →
    Procedure OperatorCalls ((EngineCalls k.Object).Reply c)
  | .authenticate tenant => TokenManager.inOperator (TokenManager.authenticate true tenant)
  | c => Procedure.ask (I := OperatorCalls) (.engine k c)

/-- An invocation for an object of the kind, as the operator makes it. -/
def Kind.inOperator {α : Type} (k : Kind) (p : Engine k.Object α) : Procedure OperatorCalls α :=
  p.expand k.meaning

theorem Kind.inOperator_bind {α β : Type} (k : Kind) (p : Engine k.Object α)
    (next : α → Engine k.Object β) :
    k.inOperator (p.bind next) = (k.inOperator p).bind fun a => k.inOperator (next a) :=
  Procedure.expand_bind _ p next

/-- One invocation of an operator whose tenants have their own secrets; whether objects have to name
    their tenant is up to the setting. -/
structure Job where
  kind : Kind
  setting : Setting kind.Object
  namespace_ : String
  name : String
  ordinary : setting.lifecycle = kind.lifecycle

/-- The invocation with its authentication spelled out. -/
def Job.procedure (j : Job) : Procedure OperatorCalls (Outcome Action) :=
  j.kind.inOperator (j.setting.reconcile j.namespace_ j.name)

/-- The surroundings of the jobs: a token manager with the given default credentials, and all else
    that answers anything.  A job that is given up while it holds the lock gives it back. -/
def operatorSurroundings (fallback : Option ClientCredentials) :
    Surroundings OperatorCalls ManagerState where
  Answers
    | .engine _ _, s, _, t => t = s
    | .credentials c, s, reply, t => s.Answers fallback c reply t
  Drifts s t := t = { s with isLocked := false }

/-! ## A scripted operator -/

namespace Scripted.World

/-- Answers a call of the operator. -/
def answerOperator : (c : OperatorCall) → World → OperatorCalls.Reply c × World
  | .engine .project c, w => answer projectShelf c w
  | .engine .volume c, w => answer volumeShelf c w
  | .credentials c, w =>
      let (reply, desk) := w.desk.answer c
      (reply, { w with desk })

/-- The calls of the manager wait as they do at its desk; an authentication is never answered as
    one call. -/
def operatorWaits : OperatorCall → Bool → World → Bool
  | .engine _ (.authenticate _), _, _ => true
  | .engine _ _, _, _ => false
  | .credentials c, waited, w => w.desk.waits c waited

/-- The world as a service for jobs. -/
def operator : Service OperatorCalls World := ⟨answerOperator, operatorWaits⟩

/-- What the jobs share in a world. -/
def shared (w : World) : ManagerState := w.desk.shared

/-- The scripted operator answers every call that does not have to wait as the surroundings allow,
    and keeps the default credentials. -/
theorem operator_answers (c : OperatorCall) (w : World) (h : operatorWaits c true w = false) :
    (operatorSurroundings w.desk.fallback).Answers c w.shared (answerOperator c w).1
        (answerOperator c w).2.shared ∧
      (answerOperator c w).2.desk.fallback = w.desk.fallback := by
  cases c with
  | credentials c => exact w.desk.answers c h
  | engine k c =>
      -- the engine's calls leave the manager alone, whichever store they go to
      cases k
      all_goals
        cases c with
        | authenticate tenant => exact nomatch h
        | now | fetch _ _ | fetchProject _ _ | update _ | updateStatus _ | remote _ =>
            exact ⟨rfl, rfl⟩

end Scripted.World

end CloudReconciler
