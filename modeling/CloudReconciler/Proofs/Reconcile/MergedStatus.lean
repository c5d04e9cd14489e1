import CloudReconciler.Proofs.Reconcile.Deadline
import CloudReconciler.Proofs.Resource.StatusPatch

/-! # Merged statuses — a store that merges goes on like one that replaces

    The cluster does not put a status in the place of the old one.  It
    merges what is written into the document of the object, and a patch
    cannot take anything back: what it leaves out stays.  So the two come
    to the same only if no status that the engine writes leaves out what
    the stored one says, and if its times can be read back.  Transitions
    leave nothing out once the object has a generation, and the rest of the
    status is carried from reading to writing (`Resource.Retains`).

    * `Invokes.permits`: every status write of an invocation extends the
      status that it is merged into;
    * `Runs.isMergeable`: what this takes of the object holds after every
      run from an object without status;
    * `Slot.StatusMerged`, `MergingRuns`: the store that merges, and its
      runs;
    * `Trace.transfer` takes invocations from one store to the other, and
      `MergesLikeReplacing` says it of whole runs. -/

namespace CloudReconciler

open Procedure (Trace)

/-! ## Transitions leave nothing out -/

namespace Status

variable {c x : Condition} {cs : List Condition}

/-- The time of every condition is that of the new one, or of one that was there before. -/
theorem since_of_mem_upsert (hx : x ∈ upsert c cs) :
    x.since = c.since ∨ ∃ old ∈ cs, x.since = old.since := by
  induction cs with
  | nil =>
      cases List.mem_singleton.1 hx
      exact .inl rfl
  | cons old cs ih =>
      rw [upsert] at hx
      split at hx
      · rcases List.mem_cons.1 hx with rfl | hx
        · split
          · exact .inr ⟨old, List.mem_cons_self .., rfl⟩
          · exact .inl rfl
        · exact .inr ⟨x, List.mem_cons_of_mem _ hx, rfl⟩
      · rcases List.mem_cons.1 hx with rfl | hx
        · exact .inr ⟨x, List.mem_cons_self .., rfl⟩
        · rcases ih hx with hsince | ⟨old', hold, hsince⟩
          · exact .inl hsince
          · exact .inr ⟨old', List.mem_cons_of_mem _ hold, hsince⟩

theorem upsert_ne_nil (c : Condition) (cs : List Condition) : upsert c cs ≠ [] := by
  cases cs with
  | nil => exact List.cons_ne_nil _ _
  | cons old cs =>
      rw [upsert]
      split
      · exact List.cons_ne_nil _ _
      · exact List.cons_ne_nil _ _

end Status

namespace Transition

variable {t : Transition} {generation : Option Int64} {now : Instant} {s old : Status}

/-- The start of the phase is always written, and is the time of the write or the old start. -/
theorem phaseStart_apply_cases (t : Transition) (generation : Option Int64) (now : Instant)
    (s : Status) :
    (t.apply generation now s).phaseStart = some now ∨
      ∃ start, s.phaseStart = some start ∧
        (t.apply generation now s).phaseStart = some start := by
  by_cases hp : t.phase = s.phase
  · have hstart : (t.apply generation now s).phaseStart = some (s.phaseStart.getD now) :=
      if_neg (not_not.2 hp)
    rw [hstart]
    cases s.phaseStart with
    | none => exact .inl rfl
    | some start => exact .inr ⟨start, rfl, rfl⟩
  · exact .inl (if_pos hp)

/-- A transition at a time that clocks show keeps the times of a status readable. -/
theorem isDated_apply (hs : s.IsDated) (hnow : now.IsShown) :
    (t.apply generation now s).IsDated where
  phaseStart start hstart := by
    rcases phaseStart_apply_cases t generation now s with hwritten | ⟨old, hold, hwritten⟩
    · cases hwritten.symm.trans hstart
      exact hnow
    · cases hwritten.symm.trans hstart
      exact hs.phaseStart start hold
  conditions c hc := by
    rcases Status.since_of_mem_upsert hc with hsince | ⟨old, hold, hsince⟩
    · exact hsince ▸ hnow
    · exact hsince ▸ hs.conditions old hold

/-- A transition writes everything that a status can say but for the remote identifier. -/
theorem covers_apply (hgeneration : generation.isSome)
    (hid : old.resourceId.isSome → s.resourceId.isSome) :
    (t.apply generation now s).Covers old where
  message _ := rfl
  resourceId := hid
  observedGeneration _ := hgeneration
  phaseStart _ := by
    rcases phaseStart_apply_cases t generation now s with hwritten | ⟨_, _, hwritten⟩
    all_goals
      rw [hwritten]
      rfl
  conditions _ := Status.upsert_ne_nil _ _

end Transition

variable {Spec St : Type} [Managed Spec St]

/-! ## Objects stay mergeable -/

/-- What merging needs of the stored object: a generation, and times that can be read back. -/
structure Resource.IsMergeable (o : Resource Spec St) : Prop where
  generation : o.metadata.generation.isSome
  dated : o.recordOrBlank.IsDated

omit [Managed Spec St] in
/-- Once it has a generation, an object always has one. -/
theorem Resource.Succeeds.generation_isSome {o n : Resource Spec St} (h : o.Succeeds n)
    (ho : o.metadata.generation.isSome) : n.metadata.generation.isSome := by
  rcases h.spec with ⟨-, hgeneration⟩ | ⟨g, hgeneration, -⟩
  · exact hgeneration ▸ ho
  · exact hgeneration ▸ rfl

section

variable {s : Setting (Resource Spec St)} {k : Circumstances} {key : ObjectKey}
  {c : RemoteCalls Spec St} {start o n : Resource Spec St}
  {h : List (Invocation (Resource Spec St))} {stored : Option (Resource Spec St)}
  {τ : List (EngineAnswer (Resource Spec St))} {w : Slot (Resource Spec St)}

theorem Resource.IsMergeable.edited (ho : o.IsMergeable) (he : o.Edited n) : n.IsMergeable :=
  ⟨he.generation_isSome ho.generation, recordOrBlank_congr he.status ▸ ho.dated⟩

/-- An invocation whose clock shows times that can be read back leaves a mergeable object. -/
theorem Effects.isMergeable (h : Effects s k key c o τ w) (hkey : o.key = key)
    (ho : o.IsMergeable) (hclock : ∀ now ∈ readingsOf τ, now.IsShown) (hn : w.stored = some n) :
    n.IsMergeable := by
  cases h with
  | still _ hkeeps =>
      obtain ⟨hsucc, hstatus, -⟩ := hkeeps n hn
      exact ⟨hsucc.generation_isSome ho.generation,
        Resource.recordOrBlank_congr hstatus ▸ ho.dated⟩
  | @moved _ _ _ t p _ _ _ _ now m hshows hdec _ _ hws _ hkeeps =>
      obtain ⟨hsucc, hstatus, -⟩ := hkeeps n hn
      refine ⟨hsucc.generation_isSome ho.generation, ?_⟩
      -- the write was made at the last reading of the clock
      have hnow : now.IsShown := by
        have hmem : ⟨some now, t.recorded now p, m⟩ ∈ statusWritesFrom none τ :=
          hws ▸ List.mem_singleton_self _
        rcases clock_of_mem_statusWritesFrom hmem with hnone | ⟨now', hmem, hsome⟩
        · exact nomatch hnone
        · cases hsome
          exact hclock now hmem
      obtain ⟨id, hid⟩ := (hdec.continues hkey hshows).record
      rw [Resource.recordOrBlank_congr hstatus, Resource.recordOrBlank_recorded, hid]
      exact Transition.isDated_apply ⟨ho.dated.phaseStart, ho.dated.conditions⟩ hnow

/-- After a run whose clock shows times that can be read back, the object is mergeable. -/
theorem Runs.isMergeable (hr : Runs s k start h stored) (hl : s.lifecycle = c.lifecycle)
    (hstart : start.status = none) (hgeneration : start.metadata.generation.isSome)
    (hclock : ∀ now ∈ readings h, now.IsShown) : ∀ o, stored = some o → o.IsMergeable := by
  refine fun o ho => hr.invariant (P := fun h o => (∀ now ∈ readings h, now.IsShown) →
    o.IsMergeable) hl ?_ ?_ ?_ o ho hclock
  · intro _
    refine ⟨hgeneration, ?_⟩
    rw [Resource.recordOrBlank, Resource.record?, hstart]
    refine ⟨fun start hblank => ?_, fun c hc => ?_⟩
    · cases hblank
    · cases hc
  · exact fun _ o n ih he hclock => (ih hclock).edited he
  · intro h o n τ result w ih hkey _ hi hn hclock
    rw [readings_cons] at hclock
    obtain ⟨hpast, hshown⟩ := List.forall_mem_append.1 hclock
    exact (hi.effect hkey).isMergeable hkey (ih hpast) hshown hn

end

/-! ## A store that may refuse everything -/

/-- The same circumstances with a store that may report any fault. -/
def Circumstances.unreliable (k : Circumstances) : Circumstances := ⟨fun _ => True, k.concurrent⟩

/-- If the answer is a reading of the clock, it is one that can be read back. -/
def EngineAnswer.ShowsClock {O : Type} (a : EngineAnswer O) : Prop :=
  ∀ now, a.clock? = some now → now.IsShown

theorem forall_showsClock {O : Type} {τ : List (EngineAnswer O)} :
    (∀ a ∈ τ, a.ShowsClock) ↔ ∀ now ∈ readingsOf τ, now.IsShown := by
  constructor
  · intro h now hnow
    obtain ⟨a, ha, hclock⟩ := List.mem_filterMap.1 hnow
    exact h a ha now hclock
  · exact fun h a ha now hclock => h now (List.mem_filterMap.2 ⟨a, ha, hclock⟩)

namespace Slot

variable {k : Circumstances} {key : ObjectKey} {call : EngineCall (Resource Spec St)}
  {reply : (EngineCalls (Resource Spec St)).Reply call} {w w₁ : Slot (Resource Spec St)}

theorem answers_unreliable (h : (surroundings k key).Answers call w reply w₁) :
    (surroundings k.unreliable key).Answers call w reply w₁ := by
  cases call with
  | fetch _ _ =>
      cases h with
      | refused _ => exact .refused trivial
      | found hkey => exact .found hkey
      | elsewhere hne => exact .elsewhere hne
  | update _ =>
      cases h with
      | refused _ => exact .refused trivial
      | stored hkey hn hs => exact .stored hkey hn hs
      | removed hkey hn hs hm hf => exact .removed hkey hn hs hm hf
      | elsewhere hne => exact .elsewhere hne
  | updateStatus _ =>
      cases h with
      | refused _ => exact .refused trivial
      | stored hkey hn hs => exact .stored hkey hn hs
      | elsewhere hne => exact .elsewhere hne
  | now | authenticate _ | fetchProject _ _ | remote _ => exact h

/-- The answers where the store may refuse everything and readings of the clock can be read back. -/
def unreliableSurroundings (k : Circumstances) (key : ObjectKey) :
    Surroundings (EngineCalls (Resource Spec St)) (Slot (Resource Spec St)) :=
  (surroundings k.unreliable key).such EngineAnswer.ShowsClock

theorem isComplete_unreliableSurroundings (k : Circumstances) (key : ObjectKey) :
    Surroundings.IsComplete
      (unreliableSurroundings k key :
        Surroundings (EngineCalls (Resource Spec St)) (Slot (Resource Spec St))) where
  answers call w := by
    cases call with
    | now =>
        refine ⟨⟨0, 0⟩, w, rfl, fun now hnow => ?_⟩
        cases hnow
        decide
    | authenticate _ => exact ⟨.error .cancelled, w, rfl, fun _ hnow => nomatch hnow⟩
    | fetch _ _ => exact ⟨.error .cancelled, w, .refused trivial, fun _ hnow => nomatch hnow⟩
    | fetchProject _ _ => exact ⟨.error .cancelled, w, rfl, fun _ hnow => nomatch hnow⟩
    | update _ => exact ⟨.error .cancelled, w, .refused trivial, fun _ hnow => nomatch hnow⟩
    | updateStatus _ => exact ⟨.error .cancelled, w, .refused trivial, fun _ hnow => nomatch hnow⟩
    | remote c =>
        cases c with
        | isCancelled => exact ⟨true, w, rfl, fun _ hnow => nomatch hnow⟩
        | send _ => exact ⟨.cancelled none, w, rfl, fun _ hnow => nomatch hnow⟩
  drifts _ := .inl rfl

end Slot

variable [Document St]

/-! ## From reading to writing -/

/-- The object as an invocation holds it says of the remote resource all that the one that was read
    says. -/
structure Resource.Retains (f : StatusForm Spec St) (o p : Resource Spec St) : Prop where
  resourceId : o.recordOrBlank.resourceId.isSome → p.recordOrBlank.resourceId.isSome
  beside : (o.status.bind f.beside).isSome → (p.status.bind f.beside).isSome

/-- Placing an object takes nothing back that stands beside the engine's record. -/
def StatusForm.KeptBy (f : StatusForm Spec St) (c : RemoteCalls Spec St) : Prop :=
  ∀ o p, (c.placement o).Gives p → (o.status.bind f.beside).isSome → (p.status.bind f.beside).isSome

theorem projectForm_keptBy : projectForm.KeptBy projectCalls := by
  rintro o p hp hbeside
  cases hp
  exact hbeside

theorem volumeForm_keptBy : volumeForm.KeptBy volumeCalls := by
  rintro o p ⟨reply, hp⟩ -
  obtain ⟨_, id, -, -, rfl⟩ := placeVolume_ok hp
  rfl

namespace Resource

variable {f : StatusForm Spec St} {o p n : Resource Spec St}

/-- What stands beside the engine's record does not depend on the record. -/
theorem beside_withRecord (f : StatusForm Spec St) (o : Resource Spec St) (r : Status) :
    (o.withRecord r).status.bind f.beside = o.status.bind f.beside := by
  rw [withRecord, Option.bind_some, f.beside_withRecord]
  cases o.status with
  | none => exact f.beside_blank
  | some st => rfl

theorem Retains.refl (f : StatusForm Spec St) (o : Resource Spec St) : o.Retains f o := ⟨id, id⟩

theorem Retains.congr (h : o.Retains f p) (hs : n.status = p.status) : o.Retains f n := by
  constructor
  · rw [recordOrBlank_congr hs]
    exact h.resourceId
  · rw [hs]
    exact h.beside

theorem Retains.named (h : o.Retains f p) (id : String) : o.Retains f (p.named id) := by
  constructor
  · intro _
    rw [Resource.named, recordOrBlank, record?_withRecord]
    rfl
  · rw [Resource.named, beside_withRecord]
    exact h.beside

theorem Retains.of_gives {c : RemoteCalls Spec St} (hkept : f.KeptBy c)
    (hp : (c.placement o).Gives p) : o.Retains f p := by
  constructor
  · rw [(c.placed o p hp).record]
    exact id
  · exact hkept o p hp

/-- The status after a transition of what is retained extends the one that was read. -/
theorem Retains.extends_recorded (h : o.Retains f p) (ho : o.IsMergeable) (hp : o.Continues p)
    {now : Instant} (hnow : now.IsShown) (t : Transition) :
    ∃ new, (t.recorded now p).status = some new ∧ f.Extends o.status new := by
  have hdated : p.recordOrBlank.IsDated := by
    obtain ⟨id, hid⟩ := hp.record
    rw [hid]
    exact ⟨ho.dated.phaseStart, ho.dated.conditions⟩
  have hgeneration : p.metadata.generation.isSome := by
    rw [hp.generation]
    exact ho.generation
  refine ⟨_, rfl, ?_, ?_, ?_⟩
  · intro st hst
    rw [Managed.record_withRecord]
    refine Transition.covers_apply hgeneration ?_
    have hrecord : o.recordOrBlank = Managed.record Spec st := by
      rw [recordOrBlank, record?, hst]
      rfl
    rw [← hrecord]
    exact h.resourceId
  · intro st hst hbeside
    have hbefore : (o.status.bind f.beside).isSome := by
      rw [hst]
      exact hbeside
    have hafter := h.beside hbefore
    rw [← beside_withRecord f p (t.apply p.metadata.generation now p.recordOrBlank)] at hafter
    exact hafter
  · rw [Managed.record_withRecord]
    exact Transition.isDated_apply hdated hnow

end Resource

section

variable {f : StatusForm Spec St} {s : Setting (Resource Spec St)} {k : Circumstances}
  {key : ObjectKey} {policy : Policy} {g : Gateway} {c : RemoteCalls Spec St}
  {o p : Resource Spec St} {w w₁ : Slot (Resource Spec St)} {result : Outcome Action}
  {τ : List (EngineAnswer (Resource Spec St))} {t : Transition} {urgent : Bool}

theorem Serves.retains (h : Serves k key g c o w τ (.move t p urgent) w₁) (hkept : f.KeptBy c)
    (hkey : o.key = key) (hw : w.Shows k o) : o.Retains f p := by
  cases h with
  | guarded _ _ | unplaced _ _ | polled _ _ _ | pushed _ _ | drifted _ _ | unremoved _ _ =>
      exact .refl f o
  | guard _ _ hr _ =>
      obtain ⟨-, -, hs, -⟩ := hw.replaced hr hkey rfl
      exact (Resource.Retains.refl f o).congr hs
  | unguarded _ _ _ _ => exact (Resource.Retains.refl f o).congr rfl
  | uncreated _ hl _ => exact .of_gives hkept hl.gives
  | created _ hl _ => exact (Resource.Retains.of_gives hkept hl.gives).named _
  | unreleased _ _ _ _ _ _ => exact (Resource.Retains.refl f o).congr rfl

theorem Decides.retains (h : Decides k key policy g c o w τ (.move t p urgent) w₁)
    (hkept : f.KeptBy c) (hkey : o.key = key) (hw : w.Shows k o) : o.Retains f p := by
  cases h with
  | timedOut _ => exact .refl f o
  | marked _ _ _ _ => exact .refl f o
  | served ht _ hs => exact hs.retains hkept hkey (ht.shows hw)

/-- If the call writes a status, it is that of the object in the slot, and extends the stored
    one. -/
def StatusForm.Permits (f : StatusForm Spec St) (key : ObjectKey)
    (call : EngineCall (Resource Spec St)) (w : Slot (Resource Spec St)) : Prop :=
  ∀ p, call = .updateStatus p → p.key = key ∧ ∀ cur, w.stored = some cur →
    ∃ new, p.status = some new ∧ f.Extends cur.status new

theorem StatusForm.permits_of_ne {call : EngineCall (Resource Spec St)}
    (h : ∀ p, call ≠ .updateStatus p) : f.Permits key call w := fun p hp => absurd hp (h p)

/-- The write of a transition of what is retained is permitted while the status is still the one
    that was read. -/
theorem StatusForm.permits_recorded (hkey : o.key = key) (ho : o.IsMergeable)
    (hp : o.Continues p) (hretains : o.Retains f p) {now : Instant} (hnow : now.IsShown)
    (hw : w.Keeps k o o.status) : f.Permits key (.updateStatus (t.recorded now p)) w := by
  intro q hq
  cases hq
  refine ⟨hp.key.trans hkey, fun cur hcur => ?_⟩
  obtain ⟨new, hnew, hextends⟩ := hretains.extends_recorded ho hp hnow t
  rw [(hw cur hcur).2.1]
  exact ⟨new, hnew, hextends⟩

theorem Settles.permits {d : Decision (Resource Spec St)}
    (h : Settles k key policy d w τ result w₁)
    (hd : ∀ t p urgent, d = .move t p urgent → o.Continues p ∧ o.Retains f p)
    (hkey : o.key = key) (ho : o.IsMergeable) (hw : w.Keeps k o o.status)
    (hclock : ∀ now ∈ readingsOf τ, now.IsShown) : ∀ a ∈ τ, f.Permits key a.call a.before := by
  have hnow : ∀ w, f.Permits key .now w := fun _ =>
    StatusForm.permits_of_ne fun _ hp => nomatch hp
  cases h with
  | rest => exact fun a ha => absurd ha List.not_mem_nil
  | deferred _ _ => exact List.forall_mem_singleton.2 (hnow _)
  | written _ hdrifts _ _ | refused _ hdrifts _ _ =>
      obtain ⟨hcontinues, hretains⟩ := hd _ _ _ rfl
      refine List.forall_mem_cons.2 ⟨hnow _, List.forall_mem_singleton.2 ?_⟩
      exact StatusForm.permits_recorded hkey ho hcontinues hretains
        (hclock _ (List.mem_cons_self ..)) (hw.drifts hdrifts)

/-- Every status write of an invocation on a mergeable object is permitted. -/
theorem Invokes.permits (h : Invokes s k key c (some o) τ result w) (hkept : f.KeptBy c)
    (hkey : o.key = key) (ho : o.IsMergeable) (hclock : ∀ now ∈ readingsOf τ, now.IsShown) :
    ∀ a ∈ τ, f.Permits key a.call a.before := by
  have hread : ∀ w, f.Permits key (.fetch key.1 key.2) w := fun _ =>
    StatusForm.permits_of_ne fun _ hp => nomatch hp
  have hauth : ∀ tenant w, f.Permits key (.authenticate tenant) w := fun _ _ =>
    StatusForm.permits_of_ne fun _ hp => nomatch hp
  cases h with
  | unread _ _ => exact List.forall_mem_singleton.2 (hread _)
  | tenantless _ _ _ => exact List.forall_mem_singleton.2 (hread _)
  | unauthenticated _ _ =>
      exact List.forall_mem_cons.2 ⟨hread _, List.forall_mem_singleton.2 (hauth _ _)⟩
  | @decided _ _ _ _ τ₁ _ _ τ₂ _ _ _ hd₀ hd₁ hdec hset =>
      have hshows := (Slot.Shows.untouched.drifts hd₀).drifts hd₁
      have hquiet : ∀ a ∈ τ₁, f.Permits key a.call a.before := fun a ha =>
        StatusForm.permits_of_ne fun p hp =>
          (hdec.performs hkey hshows a ha).not_isStatusWrite ⟨p, hp⟩
      have hshown : ∀ now ∈ readingsOf τ₂, now.IsShown := fun now hmem => by
        refine hclock now ?_
        rw [readingsOf, List.filterMap_cons, List.filterMap_cons, List.filterMap_append]
        exact List.mem_append_right _ hmem
      refine List.forall_mem_cons.2 ⟨hread _, List.forall_mem_cons.2 ⟨hauth _ _, ?_⟩⟩
      refine List.forall_mem_append.2 ⟨hquiet, ?_⟩
      refine hset.permits (fun t p urgent hd => ?_) hkey ho (hdec.keeps hkey hshows) hshown
      subst hd
      exact ⟨hdec.continues hkey hshows, hdec.retains hkept hkey hshows⟩

end

/-- An invocation writes no status that is not permitted if the object it reads, should there be
    one, is mergeable. -/
theorem permits_of_trace {f : StatusForm Spec St} {s : Setting (Resource Spec St)}
    {k : Circumstances} {key : ObjectKey} {c : RemoteCalls Spec St}
    {stored : Option (Resource Spec St)} {τ : List (EngineAnswer (Resource Spec St))}
    {result : Outcome Action} {w : Slot (Resource Spec St)} (hl : s.lifecycle = c.lifecycle)
    (hkept : f.KeptBy c) (hstored : ∀ o, stored = some o → o.key = key ∧ o.IsMergeable)
    (h : Trace (Slot.surroundings k key) (s.reconcile key.1 key.2) ⟨stored, false⟩ τ result w)
    (hclock : ∀ now ∈ readingsOf τ, now.IsShown) : ∀ a ∈ τ, f.Permits key a.call a.before := by
  have hi := invokes_of_trace hl h
  cases stored with
  | none =>
      obtain ⟨-, reply, rfl⟩ := hi.absent_spec
      exact List.forall_mem_singleton.2 (StatusForm.permits_of_ne fun _ hp => nomatch hp)
  | some o =>
      obtain ⟨hkey, ho⟩ := hstored o rfl
      exact hi.permits hkept hkey ho hclock

/-! ## The store that merges -/

variable [Document Spec]

namespace Slot

/-- Writing the status of the object by merging it into the object's document.  Nothing is known of
    what comes of a document that describes no object any more. -/
inductive StatusMerged (k : Circumstances) (key : ObjectKey) (p : Resource Spec St) :
    Slot (Resource Spec St) → Outcome (Resource Spec St) → Slot (Resource Spec St) → Prop
  | refused {w f} : k.storeFault f → StatusMerged k key p w (.error f) w
  | merged {cur m n stale members} : p.key = key → Resource.ofJson? (.object members) = some cur →
      Resource.ofJson? ((Json.object members).mergePatch (Cluster.statusPatch p)) = some m →
      n.Matches m → n.status = m.status →
      StatusMerged k key p ⟨some cur, stale⟩ (.ok n) ⟨some n, false⟩
  | garbled {cur stale members reply w} : p.key = key →
      Resource.ofJson? (.object members) = some cur →
      (Resource.ofJson? ((Json.object members).mergePatch (Cluster.statusPatch p)) :
        Option (Resource Spec St)) = none →
      StatusMerged k key p ⟨some cur, stale⟩ reply w
  | elsewhere {w reply} : p.key ≠ key → StatusMerged k key p w reply w

/-- How the engine's calls are answered where statuses are merged. -/
def mergingSurroundings (k : Circumstances) (key : ObjectKey) :
    Surroundings (EngineCalls (Resource Spec St)) (Slot (Resource Spec St)) where
  Answers
    | .updateStatus p, w, reply, w' => StatusMerged k key p w reply w'
    | .now, w, t, w' => (surroundings k key).Answers .now w t w'
    | .authenticate tenant, w, reply, w' =>
        (surroundings k key).Answers (.authenticate tenant) w reply w'
    | .fetch namespace_ name, w, reply, w' =>
        (surroundings k key).Answers (.fetch namespace_ name) w reply w'
    | .fetchProject namespace_ name, w, reply, w' =>
        (surroundings k key).Answers (.fetchProject namespace_ name) w reply w'
    | .update p, w, reply, w' => (surroundings k key).Answers (.update p) w reply w'
    | .remote c, w, reply, w' => (surroundings k key).Answers (.remote c) w reply w'
  Drifts := Drifts k

end Slot

/-- There is a document that describes the object. -/
def Resource.IsDescribed (o : Resource Spec St) : Prop :=
  ∃ members, Resource.ofJson? (.object members) = some o

/-- The object that a status was written over, if the answer is to a status write that succeeded. -/
def EngineAnswer.overwritten? {O : Type} : EngineAnswer O → Option O
  | ⟨.updateStatus _, .ok _, before, _⟩ => before.stored
  | _ => none

/-- The objects that an invocation has written statuses over. -/
def Invocation.overwritten {O : Type} (i : Invocation O) : List O :=
  i.answers.filterMap EngineAnswer.overwritten?

/-- The objects that statuses were written over in a history. -/
def overwritten {O : Type} (h : List (Invocation O)) : List O := h.flatMap Invocation.overwritten

/-- The runs from an object in a store that merges statuses. -/
inductive MergingRuns (s : Setting (Resource Spec St)) (k : Circumstances)
    (start : Resource Spec St) :
    List (Invocation (Resource Spec St)) → Option (Resource Spec St) → Prop
  | start : MergingRuns s k start [] (some start)
  | edited {h o n} : MergingRuns s k start h (some o) → o.Edited n →
      MergingRuns s k start h (some n)
  | removed {h o} : MergingRuns s k start h (some o) → ¬ o.IsGuarded → MergingRuns s k start h none
  | invoked {h stored τ result w} : MergingRuns s k start h stored →
      Trace (Slot.mergingSurroundings k start.key) (s.reconcile start.key.1 start.key.2)
        ⟨stored, false⟩ τ result w →
      MergingRuns s k start (⟨stored, τ, result, w.stored⟩ :: h) w.stored

/-! ## From one store to the other -/

section

variable {f : StatusForm Spec St} {k : Circumstances} {key : ObjectKey}
  {call : EngineCall (Resource Spec St)} {cur p n : Resource Spec St}
  {w w₁ : Slot (Resource Spec St)}

/-- Merging a permitted status into a document of the stored object replaces the status in it. -/
theorem StatusForm.Permits.isPatched {members : Json.Members}
    (hp : f.Permits key (.updateStatus p) w) (hcur : w.stored = some cur)
    (hmembers : Resource.ofJson? (.object members) = some cur) :
    Resource.IsPatched members cur p := by
  obtain ⟨new, hnew, hextends⟩ := (hp p rfl).2 cur hcur
  exact Resource.isPatched hmembers hnew hextends

namespace Slot

variable {reply : (EngineCalls (Resource Spec St)).Reply call}

theorem StatusMerged.written {reply : Outcome (Resource Spec St)}
    (h : w.StatusMerged k key p reply w₁) (hp : f.Permits key (.updateStatus p) w) :
    w.StatusWritten k key p reply w₁ := by
  cases h with
  | refused hf => exact .refused hf
  | merged hkey hmembers hm hn hs =>
      cases (hp.isPatched rfl hmembers).object.symm.trans hm
      exact .stored hkey ⟨hn.key, hn.spec, hn.generation, hn.marked, hn.finalizers⟩ hs
  | garbled _ hmembers hnone =>
      exact nomatch (hp.isPatched rfl hmembers).object.symm.trans hnone
  | elsewhere hne => exact .elsewhere hne

theorem StatusWritten.merged {reply : Outcome (Resource Spec St)}
    (h : w.StatusWritten k key p reply w₁) (hp : f.Permits key (.updateStatus p) w)
    (hdescribed : ∀ cur, EngineAnswer.overwritten? ⟨.updateStatus p, reply, w, w₁⟩ = some cur →
      cur.IsDescribed) : w.StatusMerged k key p reply w₁ := by
  cases h with
  | refused hf => exact .refused hf
  | stored hkey hn hs =>
      obtain ⟨members, hmembers⟩ := hdescribed _ rfl
      refine .merged hkey hmembers (hp.isPatched rfl hmembers).object ?_ hs
      exact ⟨hn.key, hn.spec, hn.generation, hn.marked, hn.finalizers⟩
  | elsewhere hne => exact .elsewhere hne

omit [Managed Spec St] in
/-- A status is only merged into an object that has a document. -/
theorem StatusMerged.isDescribed (h : w.StatusMerged k key p (.ok n) w₁) (hkey : p.key = key)
    (hcur : w.stored = some cur) : cur.IsDescribed := by
  generalize hr : (Except.ok n : Outcome (Resource Spec St)) = r at h
  cases h with
  | refused _ => exact nomatch hr
  | merged _ hmembers _ _ _ =>
      cases hcur
      exact ⟨_, hmembers⟩
  | garbled _ hmembers _ =>
      cases hcur
      exact ⟨_, hmembers⟩
  | elsewhere hne => exact absurd hkey hne

/-- A call that is permitted is answered by the store that merges as by one that replaces. -/
theorem answers_of_merging (h : (mergingSurroundings k key).Answers call w reply w₁)
    (hp : f.Permits key call w) : (surroundings k key).Answers call w reply w₁ := by
  cases call with
  | updateStatus p => exact StatusMerged.written h hp
  | now | authenticate _ | fetch _ _ | fetchProject _ _ | update _ | remote _ => exact h

theorem merging_of_answers (h : (surroundings k key).Answers call w reply w₁)
    (hp : f.Permits key call w)
    (hdescribed : ∀ cur, EngineAnswer.overwritten? ⟨call, reply, w, w₁⟩ = some cur →
      cur.IsDescribed) : (mergingSurroundings k key).Answers call w reply w₁ := by
  cases call with
  | updateStatus p => exact StatusWritten.merged h hp hdescribed
  | now | authenticate _ | fetch _ _ | fetchProject _ _ | update _ | remote _ => exact h

theorem described_of_merging (h : (mergingSurroundings k key).Answers call w reply w₁)
    (hp : f.Permits key call w)
    (hcur : EngineAnswer.overwritten? ⟨call, reply, w, w₁⟩ = some cur) : cur.IsDescribed := by
  cases call with
  | updateStatus p =>
      cases reply with
      | error _ => exact nomatch hcur
      | ok n => exact StatusMerged.isDescribed h (hp p rfl).1 hcur
  | now | authenticate _ | fetch _ _ | fetchProject _ _ | update _ | remote _ =>
      exact nomatch hcur

end Slot

end

/-! ## Runs -/

section

variable {f : StatusForm Spec St} {s : Setting (Resource Spec St)} {k : Circumstances}
  {key : ObjectKey} {c : RemoteCalls Spec St} {start : Resource Spec St}
  {h : List (Invocation (Resource Spec St))} {stored : Option (Resource Spec St)}
  {τ : List (EngineAnswer (Resource Spec St))} {result : Outcome Action}
  {w : Slot (Resource Spec St)}

/-- An invocation goes with a store that merges as with one that replaces. -/
theorem trace_of_merging (hl : s.lifecycle = c.lifecycle) (hkept : f.KeptBy c)
    (hstored : ∀ o, stored = some o → o.key = key ∧ o.IsMergeable)
    (ht : Trace (Slot.mergingSurroundings k key) (s.reconcile key.1 key.2) ⟨stored, false⟩ τ result
      w)
    (hclock : ∀ now ∈ readingsOf τ, now.IsShown) :
    Trace (Slot.surroundings k key) (s.reconcile key.1 key.2) ⟨stored, false⟩ τ result w := by
  have hshown := ht.such (forall_showsClock.2 hclock)
  refine hshown.transfer (P := f.Permits key) (Slot.isComplete_unreliableSurroundings k key) ?_ ?_ ?_
  · rintro call w reply w₁ hp ⟨hm, hshows⟩
    have ha := Slot.answers_of_merging hm hp
    exact ⟨ha, Slot.answers_unreliable ha, hshows⟩
  · exact fun _ _ hd => ⟨hd, hd⟩
  · intro answers b u ht₀
    have hplain : Trace (Slot.surroundings k.unreliable key) (s.reconcile key.1 key.2)
        ⟨stored, false⟩ answers b u := ht₀.mono (fun _ _ hx => hx.1) fun _ _ hd => hd
    refine permits_of_trace hl hkept hstored hplain (forall_showsClock.1 fun a ha => ?_)
    exact (ht₀.forall_answers a ha).2

omit [Document St] [Document Spec] in
/-- In a run, the object in the cluster is what merging needs. -/
theorem Runs.stored_spec (hr : Runs s k start h stored) (hl : s.lifecycle = c.lifecycle)
    (hstart : start.status = none) (hgeneration : start.metadata.generation.isSome)
    (hclock : ∀ now ∈ readings h, now.IsShown) :
    ∀ o, stored = some o → o.key = start.key ∧ o.IsMergeable := fun o ho =>
  ⟨hr.key_eq hl o ho, hr.isMergeable hl hstart hgeneration hclock o ho⟩

/-- Every run of a store that merges is one of a store that replaces. -/
theorem MergingRuns.runs (hr : MergingRuns s k start h stored) (hl : s.lifecycle = c.lifecycle)
    (hkept : f.KeptBy c) (hstart : start.status = none)
    (hgeneration : start.metadata.generation.isSome)
    (hclock : ∀ now ∈ readings h, now.IsShown) :
    Runs s k start h stored ∧ ∀ o ∈ overwritten h, o.IsDescribed := by
  induction hr with
  | start => exact ⟨.start, fun o ho => absurd ho List.not_mem_nil⟩
  | edited _ he ih =>
      obtain ⟨hruns, hdescribed⟩ := ih hclock
      exact ⟨.edited hruns he, hdescribed⟩
  | removed _ hg ih =>
      obtain ⟨hruns, hdescribed⟩ := ih hclock
      exact ⟨.removed hruns hg, hdescribed⟩
  | @invoked h stored τ result w hr ht ih =>
      rw [readings_cons] at hclock
      obtain ⟨hpast, hshown⟩ := List.forall_mem_append.1 hclock
      obtain ⟨hruns, hdescribed⟩ := ih hpast
      have hstored := hruns.stored_spec hl hstart hgeneration hpast
      have ht' := trace_of_merging hl hkept hstored ht hshown
      have hpermits := permits_of_trace hl hkept hstored ht' hshown
      refine ⟨.invoked hruns ht', ?_⟩
      rw [overwritten, List.flatMap_cons]
      refine List.forall_mem_append.2 ⟨fun cur hcur => ?_, hdescribed⟩
      obtain ⟨a, ha, hcur⟩ := List.mem_filterMap.1 hcur
      exact Slot.described_of_merging (ht.forall_answers a ha) (hpermits a ha) hcur

/-- Every run of a store that replaces is one of a store that merges, where the objects that
    statuses are written over have documents. -/
theorem Runs.merging (hr : Runs s k start h stored) (hl : s.lifecycle = c.lifecycle)
    (hkept : f.KeptBy c) (hstart : start.status = none)
    (hgeneration : start.metadata.generation.isSome)
    (hclock : ∀ now ∈ readings h, now.IsShown)
    (hdescribed : ∀ o ∈ overwritten h, o.IsDescribed) : MergingRuns s k start h stored := by
  induction hr with
  | start => exact .start
  | edited _ he ih => exact .edited (ih hclock hdescribed) he
  | removed _ hg ih => exact .removed (ih hclock hdescribed) hg
  | @invoked h stored τ result w hr ht ih =>
      rw [readings_cons] at hclock
      rw [overwritten, List.flatMap_cons] at hdescribed
      obtain ⟨hpast, hshown⟩ := List.forall_mem_append.1 hclock
      obtain ⟨hnow, hdescribed⟩ := List.forall_mem_append.1 hdescribed
      have hstored := hr.stored_spec hl hstart hgeneration hpast
      have hpermits := permits_of_trace hl hkept hstored ht hshown
      refine .invoked (ih hpast hdescribed) (ht.mono (fun a ha hx => ?_) fun _ _ hd => hd)
      refine Slot.merging_of_answers hx (hpermits a ha) fun cur hcur => ?_
      exact hnow cur (List.mem_filterMap.2 ⟨a, ha, hcur⟩)

/-- In a run, every status write is one that may as well be merged. -/
theorem Runs.isPatched (hr : Runs s k start h stored) (hl : s.lifecycle = c.lifecycle)
    (hkept : f.KeptBy c) (hstart : start.status = none)
    (hgeneration : start.metadata.generation.isSome)
    (hclock : ∀ now ∈ readings h, now.IsShown) {i : Invocation (Resource Spec St)} (hi : i ∈ h)
    {a : EngineAnswer (Resource Spec St)} (ha : a ∈ i.answers) {p cur : Resource Spec St}
    (hcall : a.call = .updateStatus p) (hcur : a.before.stored = some cur) {members : Json.Members}
    (hmembers : Resource.ofJson? (.object members) = some cur) :
    Resource.IsPatched members cur p := by
  obtain ⟨later, earlier, rfl⟩ := List.append_of_mem hi
  obtain ⟨hrun, w, ht, -⟩ := hr.invocation_of_append rfl
  obtain ⟨rest, hreadings⟩ := readings_append later earlier i
  rw [hreadings] at hclock
  obtain ⟨hpast, hshown⟩ := List.forall_mem_append.1 hclock
  obtain ⟨hnow, -⟩ := List.forall_mem_append.1 hshown
  have hpermits := permits_of_trace hl hkept (hrun.stored_spec hl hstart hgeneration hpast) ht hnow
    a ha
  rw [hcall] at hpermits
  exact StatusForm.Permits.isPatched hpermits hcur hmembers

end

/-- What merging statuses comes to from an object on. -/
structure MergesLikeReplacing (s : Setting (Resource Spec St)) (k : Circumstances)
    (start : Resource Spec St) (h : List (Invocation (Resource Spec St)))
    (stored : Option (Resource Spec St)) : Prop where
  /-- Merged into any document of the stored object, a status that is written is the object's
      status, and nothing else has changed. -/
  patched : Runs s k start h stored → ∀ i ∈ h, ∀ a ∈ i.answers, ∀ p, a.call = .updateStatus p →
    ∀ cur, a.before.stored = some cur → ∀ members, Resource.ofJson? (.object members) = some cur →
    Resource.IsPatched members cur p
  /-- The runs are those of a store that replaces statuses, where the objects that statuses are
      written over have documents at all. -/
  same : MergingRuns s k start h stored ↔
    Runs s k start h stored ∧ ∀ o ∈ overwritten h, o.IsDescribed

theorem mergesLikeReplacing {f : StatusForm Spec St} {c : RemoteCalls Spec St}
    (hkept : f.KeptBy c) {s : Setting (Resource Spec St)} (hl : s.lifecycle = c.lifecycle)
    {k : Circumstances} {start : Resource Spec St} {h : List (Invocation (Resource Spec St))}
    {stored : Option (Resource Spec St)} (hstart : start.status = none)
    (hgeneration : start.metadata.generation.isSome) (hclock : ∀ now ∈ readings h, now.IsShown) :
    MergesLikeReplacing s k start h stored where
  patched hr i hi a ha p hcall cur hcur members hmembers :=
    hr.isPatched hl hkept hstart hgeneration hclock hi ha hcall hcur hmembers
  same := by
    constructor
    · exact fun hr => hr.runs hl hkept hstart hgeneration hclock
    · rintro ⟨hr, hdescribed⟩
      exact hr.merging hl hkept hstart hgeneration hclock hdescribed

/-- In runs of projects and of volumes from an object without status, merging the statuses that are
    written is replacing them, where objects have generations and clocks show times that can be
    read back. -/
theorem merged_status (k : Circumstances) :
    (∀ (s : Setting Project) (start : Project) (h : List (Invocation Project))
        (stored : Option Project),
      s.lifecycle = projectLifecycle → start.status = none → start.metadata.generation.isSome →
      (∀ now ∈ readings h, now.IsShown) → MergesLikeReplacing s k start h stored) ∧
    (∀ (s : Setting Volume) (start : Volume) (h : List (Invocation Volume))
        (stored : Option Volume),
      s.lifecycle = volumeLifecycle → start.status = none → start.metadata.generation.isSome →
      (∀ now ∈ readings h, now.IsShown) → MergesLikeReplacing s k start h stored) := by
  constructor
  · intro s start h stored hl hstart hgeneration hclock
    exact mergesLikeReplacing projectForm_keptBy (hl.trans projectLifecycle_eq) hstart hgeneration
      hclock
  · intro s start h stored hl hstart hgeneration hclock
    exact mergesLikeReplacing volumeForm_keptBy (hl.trans volumeLifecycle_eq) hstart hgeneration
      hclock

/-- Objects whose own documents describe them are described. -/
theorem isDescribed_of_toJson {os : List (Resource Spec St)}
    (h : os.map (fun o => Resource.ofJson? o.toJson) = os.map some) : ∀ o ∈ os, o.IsDescribed :=
  fun o ho => ⟨_, List.map_inj_left.1 h o ho⟩

open Scripted in
/-- A project that is created and removed goes through the same with a store that merges its
    statuses, and so would a volume. -/
theorem merged_status_stories :
    (MergesLikeReplacing projectSetting calm newProject projectStory.1
        (projectStory.2.slot projectShelf newProject.key).stored ∧
      MergingRuns projectSetting calm newProject projectStory.1
        (projectStory.2.slot projectShelf newProject.key).stored ∧
      (overwritten projectStory.1).map Resource.phase = [.created, .creating, .uninitialized]) ∧
    MergesLikeReplacing volumeSetting calm newVolume volumeStory.1
        (volumeStory.2.slot volumeShelf newVolume.key).stored ∧
      (overwritten volumeStory.1).map Resource.phase =
        [.created, .provisioning, .creating, .uninitialized] := by
  have hproject := (merged_status calm).1 projectSetting newProject projectStory.1
    (projectStory.2.slot projectShelf newProject.key).stored rfl rfl rfl (by decide +kernel)
  refine ⟨⟨hproject, ?_, by decide +kernel⟩, ?_, by decide +kernel⟩
  · exact hproject.same.2 ⟨runs_projectStory, isDescribed_of_toJson rfl⟩
  · exact (merged_status calm).2 _ _ _ _ rfl rfl rfl (by decide +kernel)

end CloudReconciler
