import CloudReconciler.Proofs.Reconcile.Effect
import CloudReconciler.Proofs.Scripted.Contract

/-! # The phase graph — where a run can take an object

    Whatever others do, whatever the clock, the remote API and the token
    service answer, and whichever store calls fail, an invocation moves an
    object along an edge of the graph or not at all.  No edge leads back to
    the phase before the first or out of failure, so creation starts once,
    and a failed object is left alone. -/

namespace CloudReconciler

open Procedure (Trace trace_call trace_call_congr trace_done)

/-- The edges of the phase graph, for a kind that may be provisioned or not and an object that is
    marked for deletion or not. -/
inductive PhaseEdge (provisions marked : Prop) : Phase → Phase → Prop
  | initialized : PhaseEdge provisions marked .uninitialized .creating
  | created : PhaseEdge provisions marked .creating .created
  | provisioning : provisions → PhaseEdge provisions marked .creating .provisioning
  | provisioned : provisions → PhaseEdge provisions marked .provisioning .created
  | updating : PhaseEdge provisions marked .created .updating
  | updated : PhaseEdge provisions marked .updating .created
  | failed {p} : p ∈ [.creating, .provisioning, .updating, .deleting] →
      PhaseEdge provisions marked p .failed
  | deleting {p} : marked → p ∈ [.uninitialized, .creating, .provisioning, .updating, .created] →
      PhaseEdge provisions marked p .deleting

section

variable {provisions marked : Prop} {p q : Phase}

/-- The edges into a phase that is never left by failure. -/
theorem PhaseEdge.eq_uninitialized_of_creating (h : PhaseEdge provisions marked p .creating) :
    p = .uninitialized := by
  cases h
  rfl

theorem PhaseEdge.eq_failed_of_deleting (h : PhaseEdge provisions marked .deleting q) :
    q = .failed := by
  cases h with
  | failed _ => rfl
  | deleting _ hp => exact absurd hp (by decide)

/-- No edge leads back to the first phase. -/
theorem PhaseEdge.ne_uninitialized (h : PhaseEdge provisions marked p q) :
    q ≠ .uninitialized := by
  cases h <;> exact nofun

/-- The transitioning phases are those that may fail. -/
theorem Phase.mem_of_isTransitioning (h : p.isTransitioning = true) :
    p ∈ [.creating, .provisioning, .updating, .deleting] := by
  cases p with
  | creating | provisioning | updating | deleting => decide
  | uninitialized | created | deleted | failed => exact nomatch h

/-- A transition out of a phase is an edge, or a retry. -/
theorem Departs.edge {storeFault : Fault → Prop} {t : Transition}
    (h : Departs storeFault provisions marked p t)
    (hfault : ∀ f, storeFault f → f.problem? = none) (hp : p ≠ .deleted) :
    t.phase = p ∨ PhaseEdge provisions marked p t.phase := by
  cases h with
  | initialized => exact .inr .initialized
  | @unguarded f hf =>
      -- only a problem of the remote API would fail the object here, and the store reports none
      obtain ⟨-, hphase | ⟨-, hproblem⟩⟩ := Transition.ofFault_spec .uninitialized f
      · exact .inl hphase
      · exact absurd (hfault f hf) hproblem
  | @fault p f ht =>
      obtain ⟨-, hphase | ⟨hphase, -⟩⟩ := Transition.ofFault_spec p f
      · exact .inl hphase
      · rw [hphase]
        exact .inr (.failed (Phase.mem_of_isTransitioning ht))
  | @created state hs =>
      rcases Transition.ofCreation_cases state with ht | ⟨ht, hsome⟩
      · rw [ht]
        exact .inr .created
      · rw [ht]
        exact .inr (.provisioning (hs hsome))
  | @polled state hprov =>
      rcases Transition.ofPoll_cases state with ht | ht | ⟨_, ht⟩
      · rw [ht]
        exact .inr (.provisioned hprov)
      · rw [ht]
        exact .inl rfl
      · rw [ht]
        exact .inr (.failed (by decide))
  | updated => exact .inr .updated
  | drifted => exact .inr .updating
  | timedOut ht => exact .inr (.failed (Phase.mem_of_isTransitioning ht))
  | marked hm hd hf =>
      refine .inr (.deleting hm ?_)
      cases p with
      | uninitialized | creating | provisioning | updating | created => decide
      | deleting => exact absurd rfl hd
      | deleted => exact absurd rfl hp
      | failed => exact absurd rfl hf

/-- No transition leads to a deleted object, and only those of kinds that are provisioned lead from
    other phases to provisioning. -/
theorem Departs.target {storeFault : Fault → Prop} {t : Transition}
    (h : Departs storeFault provisions marked p t) :
    t.phase ≠ .deleted ∧
      (t.phase = .provisioning → p = .provisioning ∨ p = .creating ∧ provisions) := by
  cases h with
  | initialized | updated | drifted | timedOut _ | marked _ _ _ => exact ⟨nofun, nofun⟩
  | unguarded _ =>
      refine ⟨Transition.ofFault_phase_ne (by decide) (by decide), fun hphase => ?_⟩
      exact absurd hphase (Transition.ofFault_phase_ne (by decide) (by decide))
  | @fault p f hp =>
      have hdeleted : p ≠ .deleted := by
        rintro rfl
        exact nomatch hp
      refine ⟨Transition.ofFault_phase_ne hdeleted (by decide), fun hphase => .inl ?_⟩
      by_contra hne
      exact Transition.ofFault_phase_ne hne (by decide) hphase
  | @created state hs =>
      rcases Transition.ofCreation_cases state with ht | ⟨ht, hsome⟩
      · rw [ht]
        exact ⟨nofun, nofun⟩
      · rw [ht]
        exact ⟨nofun, fun _ => .inr ⟨rfl, hs hsome⟩⟩
  | @polled state _ =>
      rcases Transition.ofPoll_cases state with ht | ht | ⟨_, ht⟩
      all_goals
        rw [ht]
        exact ⟨nofun, fun _ => .inl rfl⟩

/-- An object is found or made usable in three phases. -/
theorem Departs.of_created {storeFault : Fault → Prop} {t : Transition}
    (h : Departs storeFault provisions marked p t) (ht : t.phase = .created) :
    p = .creating ∨ p = .updating ∨ p = .provisioning := by
  cases h with
  | created _ => exact .inl rfl
  | updated => exact .inr (.inl rfl)
  | polled _ => exact .inr (.inr rfl)
  | initialized | drifted | timedOut _ | marked _ _ _ => exact nomatch ht
  | unguarded _ => exact absurd ht (Transition.ofFault_phase_ne (by decide) (by decide))
  | fault hp =>
      refine absurd ht (Transition.ofFault_phase_ne ?_ (by decide))
      rintro rfl
      exact nomatch hp

/-- Creation is entered from the first phase only. -/
theorem Departs.eq_uninitialized {storeFault : Fault → Prop} {t : Transition}
    (h : Departs storeFault provisions marked p t) (ht : t.phase = .creating)
    (hp : p ≠ .creating) : p = .uninitialized := by
  cases h with
  | initialized | unguarded _ => rfl
  | fault _ => exact absurd ht (Transition.ofFault_phase_ne hp (by decide))
  | created _ => exact absurd rfl hp
  | @polled state _ =>
      rcases Transition.ofPoll_cases state with he | he | ⟨_, he⟩
      all_goals
        rw [he] at ht
        exact nomatch ht
  | updated | drifted | timedOut _ | marked _ _ _ => exact nomatch ht

/-- No transition leads out of failure. -/
theorem Departs.ne_failed {storeFault : Fault → Prop} {t : Transition}
    (h : Departs storeFault provisions marked p t) : p ≠ .failed := by
  rintro rfl
  cases h with
  | fault ht => exact nomatch ht
  | timedOut ht => exact nomatch ht
  | marked _ _ hf => exact hf rfl

end

variable {Spec St : Type} [Managed Spec St]

/-- The invocation only reads the object and authenticates its tenant, and would do so with any
    other lifecycle. -/
structure Invocation.IsIdle (s : Setting (Resource Spec St)) (k : Circumstances) (key : ObjectKey)
    (i : Invocation (Resource Spec St)) : Prop where
  calls : ∀ a ∈ i.answers, (∃ namespace_ name, a.call = .fetch namespace_ name) ∨
    ∃ tenant, a.call = .authenticate tenant
  lifecycle : ∀ l : Lifecycle (Resource Spec St), ∃ w, i.after = w.stored ∧
    Trace (Slot.surroundings k key) ({ s with lifecycle := l }.reconcile key.1 key.2)
      ⟨i.before, false⟩ i.answers i.result w

/-- What the phase graph says about a run with the given history. -/
structure FollowsPhaseGraph (provisions : Prop) (s : Setting (Resource Spec St))
    (k : Circumstances) (key : ObjectKey) (h : List (Invocation (Resource Spec St)))
    (stored : Option (Resource Spec St)) : Prop where
  /-- An invocation leaves the phase or takes an edge, and the object that it read is marked for
      deletion if it takes one to deletion. -/
  edges : ∀ i ∈ h, ∀ o n, i.before = some o → i.after = some n →
    n.phase = o.phase ∨ PhaseEdge provisions (o.metadata.isMarked = true) o.phase n.phase
  creating_once : h.countP (·.enters .creating) ≤ 1
  deleting_left : ∀ i ∈ h, ∀ o n, i.before = some o → i.after = some n → o.phase = .deleting →
    n.phase = .deleting ∨ n.phase = .failed
  never_deleted : ∀ o, Occurs h stored o → o.phase ≠ .deleted
  never_provisioning : ¬ provisions → ∀ o, Occurs h stored o → o.phase ≠ .provisioning
  /-- Once the object has failed, no invocation does anything about it. -/
  failed_final : ∀ later i earlier n, h = later ++ i :: earlier → i.after = some n →
    n.phase = .failed → ∀ j ∈ later, j.IsIdle s k key ∧ ∀ m, j.after = some m → m.status = n.status

/-! ## Failure is final -/

section

variable {s : Setting (Resource Spec St)} {k : Circumstances} {key : ObjectKey}

theorem enforceTimeout_failed (policy : Policy) {o : Resource Spec St} (ho : o.phase = .failed) :
    enforceTimeout policy o = .done none := by
  have ht : o.phase.isTransitioning = false := by
    rw [ho]
    rfl
  rw [enforceTimeout]
  cases o.recordOrBlank.phaseStart with
  | none => rfl
  | some start => exact if_neg (ht ▸ Bool.false_ne_true)

theorem beginDeletion_failed (policy : Policy) {o : Resource Spec St} (ho : o.phase = .failed) :
    beginDeletion policy o = .done none :=
  if_neg fun h => h.2.2 ho

/-- Nothing is done about a failed object. -/
theorem Setting.advance_failed (g : Gateway) {o : Resource Spec St} (ho : o.phase = .failed) :
    s.advance g o = .done ⟨.ok .awaitChange, o⟩ := by
  rw [advance, enforceTimeout_failed s.policy ho, beginDeletion_failed s.policy ho]
  show s.lifecycle.serve s.policy g o = _
  rw [Lifecycle.serve, ho]

/-- What an invocation does with a failed object that it has read, whatever the lifecycle. -/
def Setting.leave (s : Setting (Resource Spec St)) (o : Resource Spec St) :
    Engine (Resource Spec St) (Outcome Action) :=
  if o.tenant?.getD "" = "" ∧ s.multiTenant = true then .done (.error Setting.tenantMissing)
  else
    .call (.authenticate (o.tenant?.getD "")) fun
      | .error f => .done (.error f)
      | .ok _ => .done (.ok .awaitChange)

/-- Reconciling a failed object is to read it and to leave it. -/
theorem trace_reconcile_failed {stored : Option (Resource Spec St)} {result : Outcome Action}
    {τ : List (EngineAnswer (Resource Spec St))} {w : Slot (Resource Spec St)}
    (ho : ∀ o, stored = some o → o.phase = .failed) :
    Trace (Slot.surroundings k key) (s.reconcile key.1 key.2) ⟨stored, false⟩ τ result w ↔
      Trace (Slot.surroundings k key)
        (.call (.fetch key.1 key.2) fun
          | .error f => .done (.error f)
          | .ok none => .done (.ok .awaitChange)
          | .ok (some o) => s.leave o) ⟨stored, false⟩ τ result w := by
  refine trace_call_congr fun reply w₁ ha => ?_
  rcases reply with f | _ | o
  · rfl
  · rfl
  · -- the object that was read is the stored one
    have hread : Slot.Read k key (key.1, key.2) ⟨stored, false⟩ (.ok (some o)) w₁ := ha
    have hf : o.phase = .failed := ho o (hread.ok rfl).1
    simp only [s.advance_failed _ hf, Setting.leave]
    congr 2
    funext reply
    cases reply with
    | error f => rfl
    | ok token => rfl

theorem Setting.leave_calls {o : Resource Spec St} {result : Outcome Action}
    {τ : List (EngineAnswer (Resource Spec St))} {w w₁ : Slot (Resource Spec St)}
    (h : Trace (Slot.surroundings k key) (s.leave o) w τ result w₁) :
    ∀ a ∈ τ, ∃ tenant, a.call = .authenticate tenant := by
  rw [leave] at h
  split at h
  · obtain ⟨rfl, rfl, rfl⟩ := trace_done.1 h
    exact fun a ha => nomatch ha
  · obtain ⟨reply, w₂, w₃, rest, -, -, hr, rfl⟩ := trace_call.1 h
    have hnil : rest = [] := by
      rcases reply with f | token
      · exact (trace_done.1 hr).1
      · exact (trace_done.1 hr).1
    rw [hnil]
    exact List.forall_mem_singleton.2 ⟨_, rfl⟩

/-- An invocation on a failed object, or on none, is idle. -/
theorem idle_of_trace {stored : Option (Resource Spec St)} {result : Outcome Action}
    {τ : List (EngineAnswer (Resource Spec St))} {w : Slot (Resource Spec St)}
    (ho : ∀ o, stored = some o → o.phase = .failed)
    (h : Trace (Slot.surroundings k key) (s.reconcile key.1 key.2) ⟨stored, false⟩ τ result w) :
    Invocation.IsIdle s k key ⟨stored, τ, result, w.stored⟩ := by
  have hleave := (trace_reconcile_failed ho).1 h
  refine ⟨?_, fun l => ⟨w, rfl, (trace_reconcile_failed ho).2 hleave⟩⟩
  obtain ⟨reply, w₁, w₂, rest, -, -, hr, rfl⟩ := trace_call.1 hleave
  refine List.forall_mem_cons.2 ⟨.inl ⟨_, _, rfl⟩, ?_⟩
  rcases reply with f | _ | o
  · obtain ⟨rfl, rfl, rfl⟩ := trace_done.1 hr
    exact fun a ha => nomatch ha
  · obtain ⟨rfl, rfl, rfl⟩ := trace_done.1 hr
    exact fun a ha => nomatch ha
  · exact fun a ha => .inr (Setting.leave_calls hr a ha)

end

/-! ## Runs -/

section

variable {s : Setting (Resource Spec St)} {k : Circumstances} {c : RemoteCalls Spec St}
  {start : Resource Spec St} {h : List (Invocation (Resource Spec St))}
  {stored : Option (Resource Spec St)}

/-- An invocation takes the object that it reads along an edge, or leaves it in its phase. -/
theorem Effects.edge {key : ObjectKey} {o n : Resource Spec St}
    {τ : List (EngineAnswer (Resource Spec St))} {w : Slot (Resource Spec St)}
    (he : Effects s k key c o τ w) (hkey : o.key = key)
    (hfault : ∀ f, k.storeFault f → f.problem? = none) (hdel : o.phase ≠ .deleted)
    (hn : w.stored = some n) :
    n.phase = o.phase ∨ PhaseEdge c.provisions (o.metadata.isMarked = true) o.phase n.phase := by
  rcases he.phase hkey hn with hsame | ⟨t, ht, hphase⟩
  · exact .inl hsame
  · rw [hphase]
    exact ht.edge hfault hdel

/-- Before its first invocation an object without status has not been picked up. -/
theorem Resource.phase_of_status_none {o : Resource Spec St} (ho : o.status = none) :
    o.phase = .uninitialized := by
  rw [phase, recordOrBlank, record?, ho]
  rfl

/-- The phases that a run may come to. -/
theorem Runs.phase_sound (hr : Runs s k start h stored) (hl : s.lifecycle = c.lifecycle)
    (hstart : start.status = none) :
    ∀ o, stored = some o → o.phase ≠ .deleted ∧ (o.phase = .provisioning → c.provisions) := by
  refine hr.invariant hl
    (P := fun _ o => o.phase ≠ .deleted ∧ (o.phase = .provisioning → c.provisions)) ?_ ?_ ?_
  · rw [Resource.phase_of_status_none hstart]
    exact ⟨nofun, nofun⟩
  · intro _ o n ho he
    rw [Resource.phase_congr he.status]
    exact ho
  · intro _ o n τ result w ho hkey _ hi hn
    rcases (hi.effect hkey).phase hkey hn with hsame | ⟨t, hdeparts, hphase⟩
    · rw [hsame]
      exact ho
    · rw [hphase]
      refine ⟨hdeparts.target.1, fun hprov => ?_⟩
      rcases hdeparts.target.2 hprov with hbefore | ⟨-, hprovisions⟩
      · exact ho.2 hbefore
      · exact hprovisions

/-- Every invocation of a run takes an edge, or leaves the phase. -/
theorem Runs.edge (hr : Runs s k start h stored) (hl : s.lifecycle = c.lifecycle)
    (hfault : ∀ f, k.storeFault f → f.problem? = none) (hstart : start.status = none)
    {i : Invocation (Resource Spec St)} (hi : i ∈ h) {o n : Resource Spec St}
    (ho : i.before = some o) (hn : i.after = some n) :
    n.phase = o.phase ∨ PhaseEdge c.provisions (o.metadata.isMarked = true) o.phase n.phase := by
  obtain ⟨earlier, w, hrun, ht, hafter⟩ := hr.invocation hi
  rw [ho] at hrun ht
  have hkey := hrun.key_eq hl o rfl
  have hdel := (hrun.phase_sound hl hstart o rfl).1
  exact ((invokes_of_trace hl ht).effect hkey).edge hkey hfault hdel (hafter.symm.trans hn)

/-- An invocation that enters a phase has read an object in another one. -/
theorem Invocation.enters_iff {p : Phase} {i : Invocation (Resource Spec St)} :
    i.enters p = true ↔ i.before.map Resource.phase ≠ some p ∧
      ∃ n, i.after = some n ∧ n.phase = p := by
  rw [enters, Bool.and_eq_true, decide_eq_true_iff, decide_eq_true_iff, Option.map_eq_some_iff]

/-- Creation starts at most once, and it has not started while the object is not picked up. -/
theorem Runs.creating_once (hr : Runs s k start h stored) (hl : s.lifecycle = c.lifecycle)
    (hfault : ∀ f, k.storeFault f → f.problem? = none) (hstart : start.status = none) :
    h.countP (·.enters .creating) ≤ 1 ∧
      ∀ o, stored = some o → o.phase = .uninitialized → h.countP (·.enters .creating) = 0 := by
  induction hr with
  | start => exact ⟨Nat.zero_le _, fun _ _ _ => rfl⟩
  | edited _ he ih =>
      refine ⟨ih.1, fun n hn hp => ?_⟩
      cases hn
      exact ih.2 _ rfl ((Resource.phase_congr he.status).symm.trans hp)
  | removed _ _ ih => exact ⟨ih.1, fun n hn => nomatch hn⟩
  | @invoked h stored τ result w hr ht ih =>
      have hrun := Runs.invoked hr ht
      have hedge := fun o n => hrun.edge hl hfault hstart (List.mem_cons_self ..) (o := o) (n := n)
      -- an object that is there afterwards was there before
      have hbefore : ∀ n, w.stored = some n → ∃ o, stored = some o := by
        intro n hn
        cases stored with
        | none => exact nomatch (invokes_of_trace hl ht).absent_spec.1.symm.trans hn
        | some o => exact ⟨o, rfl⟩
      -- the count only grows from the first phase, where it is zero, and no edge leads back there
      rw [List.countP_cons]
      split
      · next hent =>
          obtain ⟨hne, n, hn, hp⟩ := Invocation.enters_iff.1 hent
          obtain ⟨o, rfl⟩ := hbefore n hn
          rcases hedge o n rfl hn with hsame | he
          · exact absurd (congrArg some (hsame.symm.trans hp)) hne
          · rw [hp] at he
            have hzero := ih.2 o rfl he.eq_uninitialized_of_creating
            refine ⟨by omega, fun m hm hu => ?_⟩
            cases hm.symm.trans hn
            exact nomatch hp.symm.trans hu
      · next hent =>
          refine ⟨ih.1, fun n hn hu => ?_⟩
          obtain ⟨o, rfl⟩ := hbefore n hn
          rcases hedge o n rfl hn with hsame | he
          · exact ih.2 o rfl (hsame.symm.trans hu)
          · exact absurd hu he.ne_uninitialized

/-- An invocation on a failed object leaves its status. -/
theorem Effects.status_of_failed {key : ObjectKey} {o n : Resource Spec St}
    {τ : List (EngineAnswer (Resource Spec St))} {w : Slot (Resource Spec St)}
    (he : Effects s k key c o τ w) (hkey : o.key = key) (hf : o.phase = .failed)
    (hn : w.stored = some n) : n.status = o.status := by
  cases he with
  | still _ hkeeps => exact (hkeeps n hn).2.1
  | moved _ hdec _ _ _ _ _ => exact absurd hf (hdec.departs hkey).ne_failed

/-- After an invocation that has left the object failed, the status never changes again, and all
    invocations are idle. -/
theorem Runs.failed_final (hr : Runs s k start h stored) (hl : s.lifecycle = c.lifecycle)
    {later earlier : List (Invocation (Resource Spec St))} {i : Invocation (Resource Spec St)}
    {n : Resource Spec St} (hh : h = later ++ i :: earlier) (hn : i.after = some n)
    (hf : n.phase = .failed) :
    (∀ m, stored = some m → m.status = n.status) ∧
      ∀ j ∈ later, j.IsIdle s k start.key ∧ ∀ m, j.after = some m → m.status = n.status := by
  induction hr generalizing later with
  | start => exact absurd hh (List.append_ne_nil_of_right_ne_nil _ (List.cons_ne_nil _ _)).symm
  | edited _ he ih =>
      obtain ⟨hst, hidle⟩ := ih hh
      refine ⟨fun m hm => ?_, hidle⟩
      cases hm
      exact he.status.trans (hst _ rfl)
  | removed _ _ ih => exact ⟨fun m hm => (nomatch hm), (ih hh).2⟩
  | @invoked h stored τ result w hr ht ih =>
      cases later with
      | nil =>
          -- the object has failed in this very invocation
          obtain ⟨rfl, rfl⟩ := List.cons.inj hh
          refine ⟨fun m hm => ?_, fun j hj => nomatch hj⟩
          cases hm.symm.trans hn
          rfl
      | cons j later =>
          -- it has failed before, and its status is still the one that it was left with
          obtain ⟨rfl, rfl⟩ := List.cons.inj hh
          obtain ⟨hst, hidle⟩ := ih rfl
          have hfailed : ∀ o, stored = some o → o.phase = .failed := fun o ho =>
            (Resource.phase_congr (hst o ho)).trans hf
          have hafter : ∀ m, w.stored = some m → m.status = n.status := by
            intro m hm
            have hi := invokes_of_trace hl ht
            cases stored with
            | none => exact nomatch hi.absent_spec.1.symm.trans hm
            | some o =>
                have hkey := hr.key_eq hl o rfl
                have hkept := (hi.effect hkey).status_of_failed hkey (hfailed o rfl) hm
                exact hkept.trans (hst o rfl)
          exact ⟨hafter, List.forall_mem_cons.2 ⟨⟨idle_of_trace hfailed ht, hafter⟩, hidle⟩⟩

/-- Every run of a kind with given remote calls follows the phase graph. -/
theorem Runs.followsPhaseGraph (hr : Runs s k start h stored) (hl : s.lifecycle = c.lifecycle)
    (hfault : ∀ f, k.storeFault f → f.problem? = none) (hstart : start.status = none) :
    FollowsPhaseGraph c.provisions s k start.key h stored where
  edges i hi o n ho hn := hr.edge hl hfault hstart hi ho hn
  creating_once := (hr.creating_once hl hfault hstart).1
  deleting_left i hi o n ho hn hp := by
    rcases hr.edge hl hfault hstart hi ho hn with hsame | he
    · exact .inl (hsame.trans hp)
    · rw [hp] at he
      exact .inr he.eq_failed_of_deleting
  never_deleted o ho := by
    obtain ⟨h', hrun⟩ := hr.of_occurs ho
    exact (hrun.phase_sound hl hstart o rfl).1
  never_provisioning hp o ho := by
    obtain ⟨h', hrun⟩ := hr.of_occurs ho
    exact fun hphase => hp ((hrun.phase_sound hl hstart o rfl).2 hphase)
  failed_final later i earlier n hh hn hf := (hr.failed_final hl hh hn hf).2

end

/-- Runs of projects and of volumes from an object without status follow the phase graph; only
    volumes are ever provisioned. -/
theorem phase_graph :
    (∀ (s : Setting Project) (k : Circumstances) (start : Project)
        (h : List (Invocation Project)) (stored : Option Project),
      s.lifecycle = projectLifecycle → (∀ f, k.storeFault f → f.problem? = none) →
      start.status = none → Runs s k start h stored →
      FollowsPhaseGraph False s k start.key h stored) ∧
    (∀ (s : Setting Volume) (k : Circumstances) (start : Volume)
        (h : List (Invocation Volume)) (stored : Option Volume),
      s.lifecycle = volumeLifecycle → (∀ f, k.storeFault f → f.problem? = none) →
      start.status = none → Runs s k start h stored →
      FollowsPhaseGraph True s k start.key h stored) := by
  constructor
  · intro s k start h stored hl hfault hstart hr
    exact hr.followsPhaseGraph (hl.trans projectLifecycle_eq) hfault hstart
  · intro s k start h stored hl hfault hstart hr
    exact hr.followsPhaseGraph (hl.trans volumeLifecycle_eq) hfault hstart

open Scripted in
/-- A project and a volume that are created and removed follow the graph. -/
theorem phase_graph_stories :
    (FollowsPhaseGraph False projectSetting calm newProject.key projectStory.1
        (projectStory.2.slot projectShelf newProject.key).stored ∧
      phasesOf projectStory.1 = [some .creating, some .created, some .deleting, some .deleting]) ∧
    FollowsPhaseGraph True volumeSetting calm newVolume.key volumeStory.1
        (volumeStory.2.slot volumeShelf newVolume.key).stored ∧
      phasesOf volumeStory.1 =
        [some .creating, some .provisioning, some .created, some .deleting, some .deleting] := by
  refine ⟨⟨?_, phasesOf_projectStory⟩, ?_, phasesOf_volumeStory⟩
  · exact phase_graph.1 _ _ _ _ _ rfl (fun _ hf => hf) rfl runs_projectStory
  · exact phase_graph.2 _ _ _ _ _ rfl (fun _ hf => hf) rfl runs_volumeStory

end CloudReconciler
