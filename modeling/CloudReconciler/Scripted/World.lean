import CloudReconciler.Reconcile.ProjectLifecycle
import CloudReconciler.Reconcile.VolumeLifecycle
import CloudReconciler.Scripted.Desk
import CloudReconciler.Scripted.Transport
import CloudReconciler.Store.Memory

/-! # The scripted world — everything that invocations ask, in one state

    A world holds a store of each kind, a clock, a scripted remote API and
    a source of tokens: a fixed outcome, or a token manager at its desk.
    Cancelling one invocation cancels all that come after it. -/

namespace CloudReconciler.Scripted

/-- The surroundings of invocations for both kinds. -/
structure World where
  projects : MemoryStore ProjectSpec Status := {}
  volumes : MemoryStore VolumeSpec VolumeStatus := {}
  transport : Transport := {}
  /-- The outcome of every authentication, if it is fixed. -/
  fixedToken : Option (Outcome String) := none
  /-- Tenants for whom the fixed outcome was asked, oldest first. -/
  asked : List String := []
  /-- The clock, the cancellation and, where no outcome is fixed, the token manager. -/
  desk : Desk

/-- The place of one kind's store in a world. -/
structure Shelf (Spec St : Type) where
  store : World → MemoryStore Spec St
  withStore : World → MemoryStore Spec St → World

/-- Where projects are kept. -/
def projectShelf : Shelf ProjectSpec Status := ⟨World.projects, fun w s => { w with projects := s }⟩

/-- Where volumes are kept. -/
def volumeShelf : Shelf VolumeSpec VolumeStatus :=
  ⟨World.volumes, fun w s => { w with volumes := s }⟩

namespace World

/-- A token for the tenant. -/
def authenticate (tenant : String) (w : World) : Outcome String × World :=
  match w.fixedToken with
  | some outcome => (outcome, { w with asked := w.asked ++ [tenant] })
  | none =>
      let (outcome, desk) :=
        (TokenManager.authenticate w.desk.ownSecrets tenant).run Desk.answer w.desk
      (outcome, { w with desk })

variable {Spec St : Type} [Managed Spec St]

/-- Answers a call of the engine for the kind on a shelf. -/
def answer (shelf : Shelf Spec St) : (c : EngineCall (Resource Spec St)) → World →
    (EngineCalls (Resource Spec St)).Reply c × World
  | .now, w => (w.desk.now, w)
  | .authenticate tenant, w => w.authenticate tenant
  | .fetch namespace_ name, w =>
      let (reply, s) := (shelf.store w).get (namespace_, name)
      (reply, shelf.withStore w s)
  | .fetchProject namespace_ name, w =>
      let (reply, s) := w.projects.get (namespace_, name)
      (reply, { w with projects := s })
  | .update o, w =>
      let (reply, s) := (shelf.store w).update o
      (reply, shelf.withStore w s)
  | .updateStatus o, w =>
      let (reply, s) := (shelf.store w).updateStatus o
      (reply, shelf.withStore w s)
  | .remote c, w =>
      let (reply, cancelled, transport) := Transport.answer c (w.desk.cancelled, w.transport)
      (reply, { w with transport, desk := { w.desk with cancelled } })

/-- Runs a computation of the engine. -/
def run {α : Type} (shelf : Shelf Spec St) (p : Engine (Resource Spec St) α) (w : World) :
    α × World := Procedure.run (answer shelf) p w

/-- The world with all its logs emptied. -/
def unlogged (w : World) : World :=
  { w with
    projects := w.projects.unlogged
    volumes := w.volumes.unlogged
    transport := { w.transport with sent := [] }
    asked := []
    desk := w.desk.unlogged }

end World

end CloudReconciler.Scripted
