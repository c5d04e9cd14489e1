import CloudReconciler.Proofs.Reconcile.Invocation

/-! # Runs — invocations on one object, with edits in between

    A run starts with an object in the cluster.  From then on others edit
    the object, or take it away once nothing guards it, and the engine
    reconciles it, in any order and any number of times.  The history of a
    run holds the invocations, the newest first; everything that is said
    about the past is read off the answers in it:

    * `statusWrites`: the status writes that succeeded, each with the last
      reading of the clock before it;
    * `accepted`: the bodies that the remote API accepted. -/

namespace CloudReconciler

open Procedure (Trace)

/-- A finished invocation: the object in the cluster before and after it, and the calls that were
    answered in between. -/
structure Invocation (O : Type) where
  before : Option O
  answers : List (EngineAnswer O)
  result : Outcome Action
  after : Option O

variable {Spec St : Type} [Managed Spec St]

/-- The runs from an object, with their histories and the object as it is now. -/
inductive Runs (s : Setting (Resource Spec St)) (k : Circumstances) (start : Resource Spec St) :
    List (Invocation (Resource Spec St)) → Option (Resource Spec St) → Prop
  | start : Runs s k start [] (some start)
  | edited {h o n} : Runs s k start h (some o) → o.Edited n → Runs s k start h (some n)
  | removed {h o} : Runs s k start h (some o) → ¬ o.IsGuarded → Runs s k start h none
  | invoked {h stored τ result w} : Runs s k start h stored →
      Trace (Slot.surroundings k start.key) (s.reconcile start.key.1 start.key.2)
        ⟨stored, false⟩ τ result w →
      Runs s k start (⟨stored, τ, result, w.stored⟩ :: h) w.stored

/-- The object is in the cluster at some point of the run: now, or right before or after an
    invocation. -/
def Occurs {O : Type} (h : List (Invocation O)) (stored : Option O) (o : O) : Prop :=
  stored = some o ∨ ∃ i ∈ h, i.before = some o ∨ i.after = some o

/-- The invocation took the object into the phase. -/
def Invocation.enters (p : Phase) (i : Invocation (Resource Spec St)) : Bool :=
  i.before.map Resource.phase ≠ some p && i.after.map Resource.phase = some p

/-! ## Status writes -/

/-- A status write that succeeded. -/
structure StatusWrite (O : Type) where
  /-- The last reading of the clock before it. -/
  clock : Option Instant
  /-- The object with its new status as the engine wrote it. -/
  written : O
  /-- The object as the cluster gave it back. -/
  stored : O

/-- The status writes among the answers, the newest first, where the clock was last read as told. -/
def statusWritesFrom {O : Type} : Option Instant → List (EngineAnswer O) → List (StatusWrite O)
  | _, [] => []
  | _, ⟨.now, t, _, _⟩ :: rest => statusWritesFrom (some t) rest
  | clock, ⟨.updateStatus o, .ok n, _, _⟩ :: rest =>
      statusWritesFrom clock rest ++ [⟨clock, o, n⟩]
  | clock, _ :: rest => statusWritesFrom clock rest

/-- The answer is to a status write. -/
def EngineAnswer.IsStatusWrite {O : Type} (a : EngineAnswer O) : Prop :=
  ∃ o, a.call = .updateStatus o

/-- Answers to other calls only move the reading of the clock. -/
theorem statusWritesFrom_append {O : Type} {clock : Option Instant}
    {τ : List (EngineAnswer O)} (h : ∀ a ∈ τ, ¬ a.IsStatusWrite) :
    ∃ last, ∀ rest, statusWritesFrom clock (τ ++ rest) = statusWritesFrom last rest := by
  induction τ generalizing clock with
  | nil => exact ⟨clock, fun _ => rfl⟩
  | cons a τ ih =>
      obtain ⟨ha, hτ⟩ := List.forall_mem_cons.1 h
      obtain ⟨call, reply, before, after⟩ := a
      cases call with
      | now => exact ih hτ
      | authenticate tenant => exact ih hτ
      | fetch namespace_ name => exact ih hτ
      | fetchProject namespace_ name => exact ih hτ
      | update o => exact ih hτ
      | updateStatus o => exact absurd ⟨o, rfl⟩ ha
      | remote c => exact ih hτ

/-- The status writes of an invocation. -/
def Invocation.statusWrites {O : Type} (i : Invocation O) : List (StatusWrite O) :=
  statusWritesFrom none i.answers

/-- The status writes of a history. -/
def statusWrites {O : Type} (h : List (Invocation O)) : List (StatusWrite O) :=
  h.flatMap Invocation.statusWrites

/-! ## Bodies that were accepted -/

/-- The method of a request that carries a body. -/
def Request.carriesBody (r : Request) : Bool := r.method = "POST" || r.method = "PUT"

/-- The reply that a request got, also one that came too late for the invocation. -/
def Wake.reply? {α : Type} : Wake (Outcome α) → Option α
  | .reply outcome => outcome.toOption
  | .cancelled late => late.bind Except.toOption

/-- The request, if it carried a body that the remote API accepted. -/
def EngineAnswer.accepted? {O : Type} : EngineAnswer O → Option Request
  | ⟨.remote (.send request), wake, _, _⟩ =>
      if request.carriesBody && (Wake.reply? wake).any fun r => Reply.isSuccess r.status then
        some request
      else none
  | _ => none

/-- A request with the object that the invocation had read when it sent it. -/
structure Sent (O : Type) where
  request : Request
  source : Option O

/-- The accepted requests of an invocation, the newest first. -/
def Invocation.accepted {O : Type} (i : Invocation O) : List (Sent O) :=
  (i.answers.filterMap EngineAnswer.accepted?).reverse.map fun r => ⟨r, i.before⟩

/-- The accepted requests of a history, the newest first. -/
def accepted {O : Type} (h : List (Invocation O)) : List (Sent O) := h.flatMap Invocation.accepted

end CloudReconciler
