import CloudReconciler.Proofs.Trace
import CloudReconciler.Reconcile.Lifecycle
import CloudReconciler.Store.Memory

/-! # Slots — one object in the cluster and what may happen to it

    A slot is the place of one object.  Users edit specs and metadata and
    ask for deletion; the engine reads the object, replaces it and writes
    its status.  The contract of the store is the relation between the
    slots before and after each of the engine's calls:

    * a call that fails changes nothing;
    * an object that somebody changed since the engine last received it is
      not replaced, and replacing it leaves the status as it was;
    * a status write leaves everything but the status as it was;
    * an object goes away once it is marked for deletion and the engine's
      replacement leaves no finalizer on it.

    Clocks, tokens, the remote API and the store of projects answer
    anything at all. -/

namespace CloudReconciler

variable {Spec St : Type}

/-- A generation counted after that of `m`. -/
def Metadata.IsLaterThan (n m : Metadata) : Prop :=
  ∃ g, n.generation = some g ∧ ∀ g₀, m.generation = some g₀ → g₀ < g

/-- A later version of the same object: the spec is the same, or the generation has grown. -/
structure Resource.Succeeds (o n : Resource Spec St) : Prop where
  key : n.key = o.key
  spec : (n.spec = o.spec ∧ n.metadata.generation = o.metadata.generation) ∨
    n.metadata.IsLaterThan o.metadata

/-- The object as the cluster gives it back after a write: what the engine reads of its metadata
    and its spec are the same, the other metadata are the cluster's own. -/
structure Resource.Matches (n o : Resource Spec St) : Prop where
  key : n.key = o.key
  spec : n.spec = o.spec
  generation : n.metadata.generation = o.metadata.generation
  marked : n.metadata.isMarked = o.metadata.isMarked
  finalizers : n.metadata.finalizerList = o.metadata.finalizerList

/-- The object is guarded: it carries its kind's finalizer. -/
def Resource.IsGuarded [Managed Spec St] (o : Resource Spec St) : Prop :=
  Managed.finalizer Spec ∈ o.metadata.finalizerList

theorem Resource.hasFinalizer_iff [Managed Spec St] (o : Resource Spec St) :
    o.metadata.hasFinalizer (Managed.finalizer Spec) = true ↔ o.IsGuarded := decide_eq_true_iff

/-- The object after edits by anybody but the engine: the status and the kind's finalizer are left
    alone, a mark for deletion stays, and a changed spec has a later generation. -/
structure Resource.Edited [Managed Spec St] (o n : Resource Spec St) : Prop
    extends o.Succeeds n where
  status : n.status = o.status
  guard : n.metadata.finalizerList.count (Managed.finalizer Spec) =
    o.metadata.finalizerList.count (Managed.finalizer Spec)
  marked : o.metadata.isMarked = true → n.metadata.isMarked = true

namespace Resource

variable {o n p : Resource Spec St}

theorem Succeeds.refl (o : Resource Spec St) : o.Succeeds o := ⟨rfl, .inl ⟨rfl, rfl⟩⟩

theorem Succeeds.trans (hn : o.Succeeds n) (hp : n.Succeeds p) : o.Succeeds p := by
  refine ⟨hp.key.trans hn.key, ?_⟩
  rcases hp.spec with ⟨hs, hg⟩ | ⟨g, hg, hlt⟩
  · rcases hn.spec with ⟨hs', hg'⟩ | ⟨g, hg', hlt⟩
    · exact .inl ⟨hs.trans hs', hg.trans hg'⟩
    · exact .inr ⟨g, hg.trans hg', hlt⟩
  · rcases hn.spec with ⟨-, hg'⟩ | ⟨g', hg', hlt'⟩
    · exact .inr ⟨g, hg, fun g₀ h₀ => hlt g₀ (hg'.trans h₀)⟩
    · refine .inr ⟨g, hg, ?_⟩
      intro g₀ h₀
      have hlt₁ : g₀ < g' := hlt' g₀ h₀
      exact Int64.lt_trans hlt₁ (hlt g' hg')

/-- Two versions of one object with the same generation have the same spec. -/
theorem Succeeds.spec_eq (h : o.Succeeds n)
    (hg : n.metadata.generation = o.metadata.generation) : n.spec = o.spec := by
  rcases h.spec with ⟨hs, -⟩ | ⟨g, hg', hlt⟩
  · exact hs
  · exact absurd (hlt g (hg ▸ hg')) (Int64.lt_irrefl)

theorem Matches.succeeds (h : n.Matches o) : o.Succeeds n := ⟨h.key, .inl ⟨h.spec, h.generation⟩⟩

variable [Managed Spec St]

theorem Edited.trans (hn : o.Edited n) (hp : n.Edited p) : o.Edited p :=
  ⟨hn.toSucceeds.trans hp.toSucceeds, hp.status.trans hn.status, hp.guard.trans hn.guard,
    hp.marked ∘ hn.marked⟩

/-- Edits neither give nor take the kind's finalizer. -/
theorem Edited.isGuarded_iff (h : o.Edited n) : n.IsGuarded ↔ o.IsGuarded := by
  rw [IsGuarded, IsGuarded, ← List.count_pos_iff, ← List.count_pos_iff, h.guard]

/-- The object marked for deletion at the given time. -/
def markedAt (o : Resource Spec St) (t : Instant) : Resource Spec St :=
  { o with metadata := { o.metadata with deletionTimestamp := some t } }

/-- The object with another spec, which gets the given generation. -/
def respecified (o : Resource Spec St) (spec : Spec) (generation : Int64) : Resource Spec St :=
  { o with metadata := { o.metadata with generation := some generation }, spec }

theorem edited_markedAt (o : Resource Spec St) (t : Instant) : o.Edited (o.markedAt t) :=
  ⟨⟨rfl, .inl ⟨rfl, rfl⟩⟩, rfl, rfl, fun _ => rfl⟩

theorem edited_respecified (o : Resource Spec St) (spec : Spec) {generation : Int64}
    (h : ∀ g, o.metadata.generation = some g → g < generation) :
    o.Edited (o.respecified spec generation) :=
  ⟨⟨rfl, .inr ⟨generation, rfl, h⟩⟩, rfl, rfl, id⟩

end Resource

/-- The place of one object in the cluster. -/
structure Slot (O : Type) where
  /-- The object, unless it is gone. -/
  stored : Option O
  /-- Somebody has changed the object since the engine last received it. -/
  stale : Bool

/-- What holds of the surroundings throughout a run. -/
structure Circumstances where
  /-- The faults that the store may report. -/
  storeFault : Fault → Prop
  /-- The object may be edited while an invocation is under way, and not only between two. -/
  concurrent : Prop

namespace Slot

/-- Reading the object. -/
inductive Read (k : Circumstances) (key : ObjectKey) (asked : ObjectKey) :
    Slot (Resource Spec St) → Outcome (Option (Resource Spec St)) → Slot (Resource Spec St) → Prop
  | refused {w f} : k.storeFault f → Read k key asked w (.error f) w
  | found {w} : asked = key → Read k key asked w (.ok w.stored) ⟨w.stored, false⟩
  | elsewhere {w reply} : asked ≠ key → Read k key asked w reply w

/-- Replacing metadata and spec of the object. -/
inductive Replaced (k : Circumstances) (key : ObjectKey) (o : Resource Spec St) :
    Slot (Resource Spec St) → Outcome (Resource Spec St) → Slot (Resource Spec St) → Prop
  | refused {w f} : k.storeFault f → Replaced k key o w (.error f) w
  | stored {cur n} : o.key = key → n.Matches o → n.status = cur.status ∨ n.status = o.status →
      Replaced k key o ⟨some cur, false⟩ (.ok n) ⟨some n, false⟩
  | removed {cur n} : o.key = key → n.Matches o → n.status = cur.status ∨ n.status = o.status →
      n.metadata.isMarked = true → n.metadata.finalizerList = [] →
      Replaced k key o ⟨some cur, false⟩ (.ok n) ⟨none, false⟩
  | elsewhere {w reply} : o.key ≠ key → Replaced k key o w reply w

/-- Writing the status of the object. -/
inductive StatusWritten (k : Circumstances) (key : ObjectKey) (o : Resource Spec St) :
    Slot (Resource Spec St) → Outcome (Resource Spec St) → Slot (Resource Spec St) → Prop
  | refused {w f} : k.storeFault f → StatusWritten k key o w (.error f) w
  | stored {cur n stale} : o.key = key → n.Matches cur → n.status = o.status →
      StatusWritten k key o ⟨some cur, stale⟩ (.ok n) ⟨some n, false⟩
  | elsewhere {w reply} : o.key ≠ key → StatusWritten k key o w reply w

section

variable {k : Circumstances} {key : ObjectKey} {p n : Resource Spec St}
  {w w₁ : Slot (Resource Spec St)} {f : Fault}

/-- A reading that succeeds gives what is stored. -/
theorem Read.ok {asked : ObjectKey} {found : Option (Resource Spec St)}
    (h : w.Read k key asked (.ok found) w₁) (hkey : asked = key) :
    w.stored = found ∧ w₁ = ⟨found, false⟩ := by
  generalize hr : (Except.ok found : Outcome (Option (Resource Spec St))) = r at h
  cases h with
  | refused _ => exact nomatch hr
  | found _ =>
      cases hr
      exact ⟨rfl, rfl⟩
  | elsewhere hne => exact absurd hkey hne

/-- A replacement that fails changes nothing. -/
theorem Replaced.error (h : w.Replaced k key p (.error f) w₁) (hkey : p.key = key) :
    w₁ = w ∧ k.storeFault f := by
  cases h with
  | refused hf => exact ⟨rfl, hf⟩
  | elsewhere hne => exact absurd hkey hne

/-- A replacement that succeeds finds an object that nobody else has changed. -/
theorem Replaced.ok (h : w.Replaced k key p (.ok n) w₁) (hkey : p.key = key) :
    ∃ cur, w = ⟨some cur, false⟩ ∧ n.Matches p ∧
      (n.status = cur.status ∨ n.status = p.status) ∧
      (w₁ = ⟨some n, false⟩ ∨ w₁ = ⟨none, false⟩ ∧ n.metadata.finalizerList = []) := by
  generalize hr : (Except.ok n : Outcome (Resource Spec St)) = r at h
  cases h with
  | refused _ => exact nomatch hr
  | stored _ hm hs =>
      cases hr
      exact ⟨_, rfl, hm, hs, .inl rfl⟩
  | removed _ hm hs _ hf =>
      cases hr
      exact ⟨_, rfl, hm, hs, .inr ⟨rfl, hf⟩⟩
  | elsewhere hne => exact absurd hkey hne

/-- A status write that fails changes nothing. -/
theorem StatusWritten.error (h : w.StatusWritten k key p (.error f) w₁) (hkey : p.key = key) :
    w₁ = w := by
  cases h with
  | refused _ => rfl
  | elsewhere hne => exact absurd hkey hne

/-- A status write that succeeds leaves everything but the status as it was. -/
theorem StatusWritten.ok (h : w.StatusWritten k key p (.ok n) w₁) (hkey : p.key = key) :
    ∃ cur stale, w = ⟨some cur, stale⟩ ∧ w₁ = ⟨some n, false⟩ ∧ n.Matches cur ∧
      n.status = p.status := by
  generalize hr : (Except.ok n : Outcome (Resource Spec St)) = r at h
  cases h with
  | refused _ => exact nomatch hr
  | stored _ hm hs =>
      cases hr
      exact ⟨_, _, rfl, rfl, hm, hs⟩
  | elsewhere hne => exact absurd hkey hne

end

variable [Managed Spec St]

/-- The slot after others have had their way with it for a while: an object that is not guarded may
    also be gone. -/
inductive Moves : Slot (Resource Spec St) → Slot (Resource Spec St) → Prop
  | edited {o n : Resource Spec St} {stale : Bool} : o.Edited n →
      Moves ⟨some o, stale⟩ ⟨some n, true⟩
  | removed {o : Resource Spec St} {stale : Bool} : ¬ o.IsGuarded →
      Moves ⟨some o, stale⟩ ⟨none, true⟩

/-- What happens to a slot between two calls of one invocation. -/
def Drifts (k : Circumstances) (w w' : Slot (Resource Spec St)) : Prop :=
  w' = w ∨ (k.concurrent ∧ w.Moves w')

/-- How the engine's calls are answered while the object of the given key is reconciled. -/
def surroundings (k : Circumstances) (key : ObjectKey) :
    Surroundings (EngineCalls (Resource Spec St)) (Slot (Resource Spec St)) where
  Answers
    | .now, w, _, w' => w' = w
    | .authenticate _, w, _, w' => w' = w
    | .fetch namespace_ name, w, reply, w' => Read k key (namespace_, name) w reply w'
    | .fetchProject _ _, w, _, w' => w' = w
    | .update o, w, reply, w' => Replaced k key o w reply w'
    | .updateStatus o, w, reply, w' => StatusWritten k key o w reply w'
    | .remote _, w, _, w' => w' = w
  Drifts := Drifts k

end Slot

end CloudReconciler
