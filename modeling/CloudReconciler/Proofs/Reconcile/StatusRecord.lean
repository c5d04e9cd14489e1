import CloudReconciler.Proofs.Reconcile.Effect
import CloudReconciler.Proofs.Resource.ConditionHistory
import CloudReconciler.Proofs.Scripted.Contract

/-! # The status record — what a stored status says about the past

    A status is written in one place and from many, with fields that come
    from the transition, from the object and from the clock.  Over a whole
    run the fields stay consistent with each other and with the writes
    before: the start of the phase is the reading of the clock at the write
    that entered it, and the time of the condition the reading at the write
    that last changed its verdict. -/

namespace CloudReconciler

/-! ## The oldest of the newest -/

/-- The oldest of the newest elements on which the function does not change. -/
def entryOf {α β : Type} [DecidableEq β] (f : α → β) : List α → Option α
  | [] => none
  | [a] => some a
  | a :: b :: rest => if f b = f a then entryOf f (b :: rest) else some a

section

variable {α β : Type} [DecidableEq β] {f : α → β} {a b : α} {rest : List α}

theorem entryOf_cons_same (h : f b = f a) :
    entryOf f (a :: b :: rest) = entryOf f (b :: rest) := if_pos h

theorem entryOf_cons_other (h : f b ≠ f a) : entryOf f (a :: b :: rest) = some a := if_neg h

end

/-! ## Transitions -/

/-- A transition says that the remote resource matches the spec when it leads to the phase that
    means it. -/
theorem Departs.synchronized_eq {storeFault : Fault → Prop} {provisions marked : Prop}
    {p : Phase} {t : Transition} (h : Departs storeFault provisions marked p t) :
    t.synchronized = decide (t.phase = .created) := by
  cases h with
  | initialized | updated | drifted | timedOut _ | marked _ _ _ => rfl
  | @unguarded f _ =>
      obtain ⟨hs, -⟩ := Transition.ofFault_spec .uninitialized f
      rw [hs, decide_eq_false (Transition.ofFault_phase_ne (by decide) (by decide))]
  | @fault p f hp =>
      have hne : p ≠ .created := by
        rintro rfl
        exact nomatch hp
      obtain ⟨hs, -⟩ := Transition.ofFault_spec p f
      rw [hs, decide_eq_false (Transition.ofFault_phase_ne hne (by decide))]
  | @created state _ =>
      rcases Transition.ofCreation_cases state with ht | ⟨ht, -⟩
      all_goals
        rw [ht]
        rfl
  | @polled state _ =>
      rcases Transition.ofPoll_cases state with ht | ht | ⟨_, ht⟩
      all_goals
        rw [ht]
        rfl

/-! ## Conditions -/

namespace Condition

variable {c old : Condition}

theorem upsert_singleton (h : old.kind = c.kind) : Status.upsert c [old] = [c.replacing old] := by
  rw [Status.upsert, if_pos h]
  rfl

end Condition

variable {Spec St : Type} [Managed Spec St]

namespace StatusWrite

/-- The phase that the write stored. -/
def phase (w : StatusWrite (Resource Spec St)) : Phase := w.stored.phase

/-- The verdicts that the write stored. -/
def verdicts (w : StatusWrite (Resource Spec St)) : List Verdict :=
  w.stored.recordOrBlank.conditions.map Condition.verdict

/-- What holds of the record that a write stored after the given older writes, and of its
    condition. -/
structure Reports (w : StatusWrite (Resource Spec St))
    (older : List (StatusWrite (Resource Spec St))) (record : Status) (c : Condition) : Prop where
  record? : w.stored.record? = some record
  conditions : record.conditions = [c]
  kind : c.kind = Status.synchronizedKind
  verdict : c.verdict = .ofBool (decide (record.phase = .created))
  message : record.message = some c.message
  phaseStart_isSome : record.phaseStart.isSome
  phaseStart : record.phaseStart = (entryOf phase (w :: older)).bind StatusWrite.clock
  since : some c.since = (entryOf verdicts (w :: older)).bind StatusWrite.clock
  since_created : record.phase = .created → record.phaseStart = some c.since
  observed : record.observedGeneration = w.written.metadata.generation

section

variable {w w' : StatusWrite (Resource Spec St)} {older : List (StatusWrite (Resource Spec St))}
  {record : Status} {c : Condition} {t : Transition} {now : Instant} {id : Option String}
  {generation : Option Int64}

theorem recordOrBlank_of_record? (h : w.stored.record? = some record) :
    w.stored.recordOrBlank = record := by
  rw [Resource.recordOrBlank, h, Option.getD_some]

theorem phase_of_record? (h : w.stored.record? = some record) : w.phase = record.phase :=
  congrArg Status.phase (recordOrBlank_of_record? h)

theorem verdicts_of_record? (h : w.stored.record? = some record)
    (hc : record.conditions = [c]) : w.verdicts = [c.verdict] := by
  rw [verdicts, recordOrBlank_of_record? h, hc]
  rfl

/-- The first status that is written reports on its own write. -/
theorem reports_first (hclock : w.clock = some now)
    (hrecord : w.stored.record? = some (t.apply generation now { resourceId := id }))
    (hgeneration : w.written.metadata.generation = generation)
    (ht : t.synchronized = decide (t.phase = .created)) :
    w.Reports [] (t.apply generation now { resourceId := id }) (t.condition now) := by
  have hstart : (t.apply generation now { resourceId := id }).phaseStart = some now := by
    by_cases hp : t.phase = .uninitialized
    · exact if_neg (not_not.2 hp)
    · exact if_pos hp
  refine ⟨hrecord, rfl, rfl, congrArg Verdict.ofBool ht, rfl, ?_, ?_, hclock.symm, ?_,
    hgeneration.symm⟩
  · rw [hstart]
    rfl
  · rw [hstart]
    exact hclock.symm
  · exact fun _ => hstart

/-- The start of the phase moves with the phase. -/
theorem phaseStart_apply (h : record.phaseStart.isSome) :
    (t.apply generation now { record with resourceId := id }).phaseStart =
      if t.phase = record.phase then record.phaseStart else some now := by
  by_cases hp : t.phase = record.phase
  · obtain ⟨start, hs⟩ := Option.isSome_iff_exists.1 h
    show (if t.phase ≠ record.phase then some now else some (record.phaseStart.getD now)) = _
    rw [if_neg (not_not.2 hp), if_pos hp, hs, Option.getD_some]
  · rw [if_neg hp]
    exact if_pos hp

theorem Reports.conditions_apply (h : w.Reports older record c) :
    (t.apply generation now { record with resourceId := id }).conditions =
      [(t.condition now).replacing c] := by
  show Status.upsert (t.condition now) record.conditions = _
  rw [h.conditions]
  exact Condition.upsert_singleton h.kind

/-- The phase was entered by this write, or by the one that the last write reports. -/
theorem Reports.entryOf_phase (h : w.Reports older record c) (hclock : w'.clock = some now)
    (hphase : w'.phase = t.phase) :
    (entryOf phase (w' :: w :: older)).bind StatusWrite.clock =
      if t.phase = record.phase then record.phaseStart else some now := by
  have hold : w.phase = record.phase := phase_of_record? h.record?
  by_cases hp : t.phase = record.phase
  · rw [if_pos hp, h.phaseStart, entryOf_cons_same (hold.trans (hp.symm.trans hphase.symm))]
  · have hother : w.phase ≠ w'.phase := by
      rw [hold, hphase]
      exact fun he => hp he.symm
    rw [if_neg hp, entryOf_cons_other hother]
    exact hclock

/-- The verdict was changed by this write, or by the one that the last write reports. -/
theorem Reports.entryOf_verdicts (h : w.Reports older record c) (hclock : w'.clock = some now)
    (hverdicts : w'.verdicts = [(t.condition now).verdict]) :
    (entryOf verdicts (w' :: w :: older)).bind StatusWrite.clock =
      some ((t.condition now).replacing c).since := by
  have hold : w.verdicts = [c.verdict] := verdicts_of_record? h.record? h.conditions
  by_cases hv : c.verdict = (t.condition now).verdict
  · have hsame : w.verdicts = w'.verdicts := by
      rw [hold, hverdicts, hv]
    rw [Condition.replacing_same hv, entryOf_cons_same hsame]
    exact h.since.symm
  · have hother : w.verdicts ≠ w'.verdicts := by
      rw [hold, hverdicts]
      exact fun he => hv (List.singleton_inj.1 he)
    rw [Condition.replacing_other hv, entryOf_cons_other hother]
    exact hclock

/-- In the phase that means that the remote resource matches, both times are the same. -/
theorem Reports.since_replacing (h : w.Reports older record c)
    (ht : t.synchronized = decide (t.phase = .created)) (hcreated : t.phase = .created) :
    (if t.phase = record.phase then record.phaseStart else some now) =
      some ((t.condition now).replacing c).since := by
  have hnew : (t.condition now).verdict = .ofBool (decide (t.phase = .created)) :=
    congrArg Verdict.ofBool ht
  -- the verdict stays the same exactly if the object was in this phase before
  by_cases hp : t.phase = record.phase
  · have hv : c.verdict = (t.condition now).verdict := by
      rw [h.verdict, hnew, hp]
    rw [if_pos hp, Condition.replacing_same hv]
    exact h.since_created (hp.symm.trans hcreated)
  · have hrecord : record.phase ≠ .created := fun he => hp (hcreated.trans he.symm)
    have hv : c.verdict ≠ (t.condition now).verdict := by
      rw [h.verdict, hnew, decide_eq_false hrecord, decide_eq_true hcreated]
      decide
    rw [if_neg hp, Condition.replacing_other hv]
    rfl

/-- A status that is written over another one reports on both writes. -/
theorem Reports.next (h : w.Reports older record c) (hclock : w'.clock = some now)
    (hrecord : w'.stored.record? = some (t.apply generation now { record with resourceId := id }))
    (hgeneration : w'.written.metadata.generation = generation)
    (ht : t.synchronized = decide (t.phase = .created)) :
    w'.Reports (w :: older) (t.apply generation now { record with resourceId := id })
      ((t.condition now).replacing c) := by
  obtain ⟨hkind, hverdict, hmessage⟩ := (t.condition now).replacing_spec c
  have hconditions : (t.apply generation now { record with resourceId := id }).conditions =
      [(t.condition now).replacing c] := h.conditions_apply
  have hstart : (t.apply generation now { record with resourceId := id }).phaseStart =
      if t.phase = record.phase then record.phaseStart else some now :=
    phaseStart_apply h.phaseStart_isSome
  have hphase : w'.phase = t.phase := phase_of_record? hrecord
  have hverdicts : w'.verdicts = [(t.condition now).verdict] := by
    rw [verdicts_of_record? hrecord hconditions, hverdict]
  refine ⟨hrecord, hconditions, hkind, hverdict.trans (congrArg Verdict.ofBool ht),
    congrArg some hmessage.symm, ?_, ?_, ?_, ?_, hgeneration.symm⟩
  · rw [hstart]
    split
    · exact h.phaseStart_isSome
    · rfl
  · rw [hstart, h.entryOf_phase hclock hphase]
  · exact (h.entryOf_verdicts hclock hverdicts).symm
  · intro hcreated
    rw [hstart]
    exact h.since_replacing ht hcreated

end

end StatusWrite

/-- What stored statuses say throughout a run. -/
structure KeepsRecord (k : Circumstances) (h : List (Invocation (Resource Spec St)))
    (stored : Option (Resource Spec St)) : Prop where
  /-- The status of the object is the one that was written last, if any was. -/
  current : ∀ o, stored = some o → o.status = (statusWrites h).head?.bind (·.stored.status)
  /-- Every status that was ever stored reports on the writes up to its own. -/
  reports : ∀ newer w older, statusWrites h = newer ++ w :: older →
    ∃ record c, w.Reports older record c
  /-- Where nobody edits objects during invocations, the observed generation is the one stored. -/
  observed : ¬ k.concurrent → ∀ w ∈ statusWrites h,
    w.stored.recordOrBlank.observedGeneration = w.stored.metadata.generation

/-! ## Runs -/

section

variable {s : Setting (Resource Spec St)} {k : Circumstances} {c : RemoteCalls Spec St}
  {start : Resource Spec St} {h : List (Invocation (Resource Spec St))}
  {stored : Option (Resource Spec St)}

/-- An object whose status is the one that was written last is recorded as that write reports. -/
theorem recordOrBlank_of_current {o : Resource Spec St} {w : StatusWrite (Resource Spec St)}
    {older : List (StatusWrite (Resource Spec St))} {record : Status} {cond : Condition}
    (hw : w.Reports older record cond) (ho : o.status = w.stored.status) :
    o.recordOrBlank = record := by
  rw [Resource.recordOrBlank_congr ho]
  exact StatusWrite.recordOrBlank_of_record? hw.record?

/-- The write of a transition reports on itself and on the writes before it. -/
theorem KeepsRecord.reports_write {o p n : Resource Spec St} {t : Transition} {now : Instant}
    (ih : KeepsRecord k h (some o)) (hp : o.Continues p)
    (ht : t.synchronized = decide (t.phase = .created))
    (hn : n.status = (t.recorded now p).status) :
    ∃ record cond,
      (⟨some now, t.recorded now p, n⟩ : StatusWrite (Resource Spec St)).Reports (statusWrites h)
        record cond := by
  obtain ⟨id, hid⟩ := hp.record
  have hrecord : n.record? =
      some (t.apply p.metadata.generation now { o.recordOrBlank with resourceId := id }) := by
    rw [Resource.record?, hn, ← Resource.record?, Transition.recorded, Resource.record?_withRecord,
      hid]
  have hcurrent := ih.current o rfl
  cases hws : statusWrites h with
  | nil =>
      -- the first write of the run takes the place of a blank record
      rw [hws] at hcurrent
      have hblank : o.recordOrBlank = {} := by
        rw [Resource.recordOrBlank, Resource.record?, hcurrent]
        rfl
      rw [hblank] at hrecord
      exact ⟨_, _, StatusWrite.reports_first rfl hrecord rfl ht⟩
  | cons w older =>
      -- a later one takes the place of the record that the write before it has left
      rw [hws] at hcurrent
      obtain ⟨record, cond, hw⟩ := ih.reports [] w older hws
      rw [recordOrBlank_of_current hw hcurrent] at hrecord
      exact ⟨_, _, hw.next rfl hrecord rfl ht⟩

/-- An invocation that writes no status leaves the record of the run. -/
theorem KeepsRecord.still {i : Invocation (Resource Spec St)} (ih : KeepsRecord k h i.before)
    (hi : i.statusWrites = []) (hafter : ∀ n, i.after = some n →
      ∃ o, i.before = some o ∧ n.status = o.status) : KeepsRecord k (i :: h) i.after := by
  have hws : statusWrites (i :: h) = statusWrites h := by
    rw [statusWrites, List.flatMap_cons, hi]
    rfl
  refine ⟨fun n hn => ?_, hws ▸ ih.reports, hws ▸ ih.observed⟩
  obtain ⟨o, ho, hs⟩ := hafter n hn
  rw [hws, hs]
  exact ih.current o ho

/-- Every run of a kind with given remote calls keeps the record of its writes. -/
theorem Runs.keepsRecord (hr : Runs s k start h stored) (hl : s.lifecycle = c.lifecycle)
    (hstart : start.status = none) : KeepsRecord k h stored := by
  induction hr with
  | start =>
      refine ⟨fun o ho => ?_, fun newer w older hws => ?_, fun _ w hw => nomatch hw⟩
      · cases ho
        exact hstart
      · exact absurd hws (List.append_ne_nil_of_right_ne_nil _ (List.cons_ne_nil _ _)).symm
  | edited _ he ih =>
      refine ⟨fun n hn => ?_, ih.reports, ih.observed⟩
      cases hn
      exact he.status.trans (ih.current _ rfl)
  | removed _ _ ih => exact ⟨fun n hn => (nomatch hn), ih.reports, ih.observed⟩
  | @invoked h stored τ result w hr ht ih =>
      have hi := invokes_of_trace hl ht
      cases stored with
      | none =>
          obtain ⟨hgone, reply, rfl⟩ := hi.absent_spec
          exact ih.still rfl fun n hn => nomatch hgone.symm.trans hn
      | some o =>
          have hkey := hr.key_eq hl o rfl
          cases hi.effect hkey with
          | still hws hkeeps => exact ih.still hws fun n hn => ⟨o, rfl, (hkeeps n hn).2.1⟩
          | @moved g w₀ τ₁ t p _ _ _ _ now n hshows hdec _ _ hws hwritten hkeeps =>
              have hp := hdec.continues hkey hshows
              obtain ⟨-, hstatus, halone⟩ := hwritten n rfl
              -- this invocation adds one write to those of the run
              have hall : statusWrites
                  ((⟨some o, τ, result, w.stored⟩ : Invocation (Resource Spec St)) :: h) =
                  ⟨some now, t.recorded now p, n⟩ :: statusWrites h :=
                congrArg (· ++ statusWrites h) hws
              refine ⟨fun m hm => ?_, fun newer x older hx => ?_, fun hnot x hx => ?_⟩
              · rw [hall]
                exact (hkeeps m hm).2.1.trans hstatus.symm
              · rw [hall] at hx
                cases newer with
                | nil =>
                    obtain ⟨rfl, rfl⟩ := List.cons.inj hx
                    exact ih.reports_write hp (hdec.departs hkey).synchronized_eq hstatus
                | cons _ newer =>
                    obtain ⟨-, hx⟩ := List.cons.inj hx
                    exact ih.reports newer x older hx
              · rw [hall] at hx
                rcases List.mem_cons.1 hx with rfl | hx
                · rw [Resource.recordOrBlank_congr hstatus, Resource.recordOrBlank_recorded]
                  exact hp.generation.trans (halone hnot).symm
                · exact ih.observed hnot x hx

end

/-- In runs of projects and of volumes from an object without status, every status that is stored
    says what the writes up to it have done. -/
theorem status_record :
    (∀ (s : Setting Project) (k : Circumstances) (start : Project)
        (h : List (Invocation Project)) (stored : Option Project),
      s.lifecycle = projectLifecycle → start.status = none → Runs s k start h stored →
      KeepsRecord k h stored) ∧
    (∀ (s : Setting Volume) (k : Circumstances) (start : Volume)
        (h : List (Invocation Volume)) (stored : Option Volume),
      s.lifecycle = volumeLifecycle → start.status = none → Runs s k start h stored →
      KeepsRecord k h stored) := by
  constructor
  · intro s k start h stored hl hstart hr
    exact hr.keepsRecord (hl.trans projectLifecycle_eq) hstart
  · intro s k start h stored hl hstart hr
    exact hr.keepsRecord (hl.trans volumeLifecycle_eq) hstart

open Scripted in
/-- A project and a volume that are created and removed keep the record of their writes. -/
theorem status_record_stories :
    (KeepsRecord calm projectStory.1 (projectStory.2.slot projectShelf newProject.key).stored ∧
      (statusWrites projectStory.1).map StatusWrite.phase = [.deleting, .created, .creating]) ∧
    KeepsRecord calm volumeStory.1 (volumeStory.2.slot volumeShelf newVolume.key).stored ∧
      (statusWrites volumeStory.1).map StatusWrite.phase =
        [.deleting, .created, .provisioning, .creating] := by
  refine ⟨⟨?_, by decide +kernel⟩, ?_, by decide +kernel⟩
  · exact status_record.1 _ _ _ _ _ rfl rfl runs_projectStory
  · exact status_record.2 _ _ _ _ _ rfl rfl runs_volumeStory

end CloudReconciler
