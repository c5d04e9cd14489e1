import CloudReconciler.Proofs.Reconcile.Outcome
import CloudReconciler.Proofs.Reconcile.PhaseGraph
import CloudReconciler.Proofs.Reconcile.RemoteAddress
import CloudReconciler.Proofs.Reconcile.StatusRecord

/-! # Rest — when an object is left alone until it changes

    An invocation that asks for no other one leaves the object to whoever
    changes it next; if there were work left, nobody would do it.  The
    steps of a phase come to rest in several places, and one of them rests
    whatever it finds.  Over a run they are only reached where nothing is
    left to do.

    * `AtRest`: nothing is left to do for the object;
    * `Transition.requeue_or_failed`: a transition that is written without
      asking for another invocation fails the object;
    * `RestsWhenDone`: what a run says about the ends of its invocations. -/

namespace CloudReconciler

open Procedure (Trace)

variable {Spec St : Type} [Managed Spec St]

/-- Nothing is left to do: the object that an invocation has read as `o` is gone, has failed, is as
    its spec wants it, or is being deleted and no longer guarded. -/
inductive AtRest (k : Circumstances) (o : Resource Spec St) : Option (Resource Spec St) → Prop
  | gone : AtRest k o none
  | failed {n} : n.phase = .failed → AtRest k o (some n)
  | current {n} : n.phase = .created → o.metadata.isMarked = false →
      n.recordOrBlank.observedGeneration = o.metadata.generation →
      (¬ k.concurrent → n.metadata.generation = o.metadata.generation) → AtRest k o (some n)
  | released {n} : n.phase = .deleting → ¬ n.IsGuarded → AtRest k o (some n)

/-- A replacement that is answered with the news that there is no object found none. -/
def EngineAnswer.isTruthful {O : Type} : EngineAnswer O → Bool
  | ⟨.update _, .error f, before, _⟩ => !f.isNotFound || before.stored.isNone
  | _ => true

/-- What a run says about the ends of its invocations. -/
structure RestsWhenDone (k : Circumstances) (policy : Policy)
    (h : List (Invocation (Resource Spec St))) : Prop where
  /-- An invocation that asks for no other one leaves nothing to do. -/
  rested : ∀ i ∈ h, i.result = .ok .awaitChange →
    i.after = none ∨ ∃ o, i.before = some o ∧ AtRest k o i.after
  /-- All others come back within one interval. -/
  prompt : ∀ i ∈ h, ∀ wait, i.result = .ok (.requeue wait) → wait ≤ policy.interval
  /-- The next invocation follows at once only after the one that has begun the deletion. -/
  urgent : ∀ later i earlier, h = later ++ i :: earlier → i.result = .ok (.requeue .zero) →
    (∃ o, i.before = some o ∧ o.phase ≠ .deleting) ∧
      (∃ w ∈ i.statusWrites, w.phase = .deleting) ∧
      ∀ w ∈ statusWrites earlier, w.phase ≠ .deleting

/-! ## Transitions -/

section

variable {storeFault : Fault → Prop} {provisions marked : Prop} {p : Phase} {t : Transition}

/-- A fault that is not retried fails the object. -/
theorem Transition.ofFault_requeue_or_failed (p : Phase) (f : Fault) :
    (ofFault p f).requeue = true ∨ (ofFault p f).phase = .failed := by
  rw [ofFault]
  cases f.problem? with
  | none => exact .inl rfl
  | some problem =>
      dsimp only
      split
      · exact .inl rfl
      · split
        · exact .inr rfl
        · split
          · exact .inl rfl
          · exact .inl rfl

/-- A transition that asks for no other invocation fails the object. -/
theorem Departs.requeue_or_failed (h : Departs storeFault provisions marked p t) :
    t.requeue = true ∨ t.phase = .failed := by
  cases h with
  | initialized | updated | drifted | marked _ _ _ => exact .inl rfl
  | timedOut _ => exact .inr rfl
  | unguarded _ => exact Transition.ofFault_requeue_or_failed _ _
  | fault _ => exact Transition.ofFault_requeue_or_failed _ _
  | @created state _ =>
      rcases Transition.ofCreation_cases state with ht | ⟨ht, -⟩
      all_goals
        rw [ht]
        exact .inl rfl
  | @polled state _ =>
      rcases Transition.ofPoll_cases state with ht | ht | ⟨_, ht⟩
      · rw [ht]
        exact .inl rfl
      · rw [ht]
        exact .inl rfl
      · rw [ht]
        exact .inr rfl

/-- Deletion is left by failure only. -/
theorem Departs.of_deleting (h : Departs storeFault provisions marked .deleting t) :
    t.phase = .deleting ∨ t.phase = .failed := by
  cases h with
  | @fault _ f _ => exact (Transition.ofFault_spec .deleting f).2.imp id And.left
  | timedOut _ => exact .inr rfl
  | marked _ hne _ => exact absurd rfl hne

end

/-! ## One invocation -/

section

variable {s : Setting (Resource Spec St)} {k : Circumstances} {key : ObjectKey} {policy : Policy}
  {g : Gateway} {c : RemoteCalls Spec St} {o p : Resource Spec St}
  {w w₁ : Slot (Resource Spec St)} {τ : List (EngineAnswer (Resource Spec St))}
  {t : Transition} {urgent : Bool} {result : Outcome Action}

/-- An object that is not guarded stays so, and an absent one stays absent. -/
theorem Slot.Drifts.unguarded (h : w.Drifts k w₁)
    (hw : ∀ n, w.stored = some n → n.phase = .deleting ∧ ¬ n.IsGuarded) :
    ∀ n, w₁.stored = some n → n.phase = .deleting ∧ ¬ n.IsGuarded := by
  rcases h with rfl | ⟨-, hm⟩
  · exact hw
  · cases hm with
    | edited he =>
        intro n hn
        cases hn
        obtain ⟨hp, hg⟩ := hw _ rfl
        exact ⟨(Resource.phase_congr he.status).trans hp, he.isGuarded_iff.not.2 hg⟩
    | removed _ => exact fun n hn => nomatch hn

theorem AtRest.of_unguarded {stored : Option (Resource Spec St)}
    (h : ∀ n, stored = some n → n.phase = .deleting ∧ ¬ n.IsGuarded) : AtRest k o stored := by
  cases stored with
  | none => exact .gone
  | some n =>
      obtain ⟨hp, hg⟩ := h n rfl
      exact .released hp hg

/-- A phase that is served without a transition has nothing left to do, unless it should have been
    polled. -/
theorem Serves.atRest (h : Serves k key g c o w τ (.rest p) w₁) (hkey : o.key = key)
    (hw : w.Shows k o) (hdeleted : o.phase ≠ .deleted)
    (hpolled : o.phase = .provisioning → (c.poll o).isSome)
    (hmarked : o.metadata.isMarked = true → o.phase = .deleting ∨ o.phase = .failed)
    (htruthful : ∀ a ∈ τ, a.isTruthful = true) : AtRest k o w₁.stored := by
  cases h with
  | unpolled hp hnone =>
      have hsome := hpolled hp
      rw [hnone] at hsome
      cases hsome
  | current hp hobserved =>
      have hunmarked : o.metadata.isMarked = false := by
        cases hm : o.metadata.isMarked with
        | false => rfl
        | true =>
            rcases hmarked hm with hdeleting | hfailed
            · cases hp.symm.trans hdeleting
            · cases hp.symm.trans hfailed
      cases hn : w.stored with
      | none => exact .gone
      | some n =>
          obtain ⟨-, hs, hgeneration⟩ := hw.keeps n hn
          refine .current ((Resource.phase_congr hs).trans hp) hunmarked ?_ hgeneration
          rw [Resource.recordOrBlank_congr hs]
          exact hobserved
  | removed hp hasked hg =>
      refine .of_unguarded fun n hn => ?_
      have hshows := hasked.shows hw
      refine ⟨(Resource.phase_congr (hshows.keeps n hn).2.1).trans hp, fun hguarded => ?_⟩
      cases hshows with
      | untouched =>
          cases hn
          exact hg hguarded
      | edited _ he =>
          cases hn
          exact hg (he.isGuarded_iff.1 hguarded)
      | removed _ _ => cases hn
  | released hp hasked _ hr hd =>
      refine .of_unguarded (hd.unguarded fun n hn => ?_)
      obtain ⟨-, hm, hs, hstored⟩ := (hasked.shows hw).replaced hr hkey rfl
      rcases hstored with rfl | ⟨rfl, -⟩
      · cases hn
        refine ⟨(Resource.phase_congr hs).trans hp, fun hguarded => ?_⟩
        rw [Resource.isGuarded_iff_guardCount, hm.guardCount_eq, Resource.guardCount_released]
          at hguarded
        exact Nat.lt_irrefl _ hguarded
      · cases hn
  | gone _ _ _ hr hf hd =>
      -- the store does not take a stored object for a missing one
      obtain ⟨rfl, -⟩ := hr.error hkey
      have hgone := htruthful _ (List.mem_append_right _ (List.mem_cons_self ..))
      change (!Fault.isNotFound _ || Option.isNone _) = true at hgone
      rw [hf] at hgone
      refine .of_unguarded (hd.unguarded fun n hn => ?_)
      rw [hn] at hgone
      cases hgone
  | ended hp =>
      have hp := hp.resolve_left hdeleted
      cases hn : w.stored with
      | none => exact .gone
      | some n => exact .failed ((Resource.phase_congr (hw.keeps n hn).2.1).trans hp)

/-- What a decision comes to, if it does not end in a failure. -/
inductive Rests (k : Circumstances) (policy : Policy) (o : Resource Spec St)
    (τ : List (EngineAnswer (Resource Spec St))) (stored : Option (Resource Spec St)) :
    Action → Prop
  | done : AtRest k o stored → Rests k policy o τ stored .awaitChange
  | again {wait} : .zero < wait → wait ≤ policy.interval →
      Rests k policy o τ stored (.requeue wait)
  | deleting {p n w w₁} : o.phase ≠ .deleting → o.phase ≠ .failed →
      ⟨.updateStatus p, .ok n, w, w₁⟩ ∈ τ → n.phase = .deleting →
      Rests k policy o τ stored (.requeue .zero)

theorem Rests.mono {τ' : List (EngineAnswer (Resource Spec St))}
    {stored : Option (Resource Spec St)} {a : Action} (h : Rests k policy o τ stored a)
    (hτ : ∀ b ∈ τ, b ∈ τ') : Rests k policy o τ' stored a := by
  cases h with
  | done hrest => exact .done hrest
  | again hpos hle => exact .again hpos hle
  | deleting hne hnf hwrite hphase => exact .deleting hne hnf (hτ _ hwrite) hphase

/-- Only deletion is urgent. -/
theorem Decides.of_urgent (h : Decides k key policy g c o w τ (.move t p true) w₁) :
    t = .toBeDeleted ∧ p = o ∧ o.phase ≠ .deleting ∧ o.phase ≠ .failed := by
  cases h with
  | marked _ _ hdeleting hfailed => exact ⟨rfl, rfl, hdeleting, hfailed⟩
  | served _ _ hs => cases hs

/-- A decision that does not end in a failure leaves nothing to do, or another invocation follows
    within one interval. -/
theorem Decides.rests {d : Decision (Resource Spec St)} {τ' : List (EngineAnswer (Resource Spec St))}
    {w₂ : Slot (Resource Spec St)} {a : Action} (h : Decides k key policy g c o w τ d w₁)
    (hset : Settles k key policy d w₁ τ' (.ok a) w₂) (hkey : o.key = key) (hw : w.Shows k o)
    (hinterval : .zero < policy.interval) (hdeleted : o.phase ≠ .deleted)
    (hpolled : o.phase = .provisioning → (c.poll o).isSome)
    (htruthful : ∀ a ∈ τ, a.isTruthful = true) : Rests k policy o τ' w₂.stored a := by
  cases d with
  | rest p =>
      cases hset with
      | rest =>
          cases h with
          | served ht hmarked hs =>
              refine .done (hs.atRest hkey (ht.shows hw) hdeleted hpolled hmarked fun a ha => ?_)
              exact htruthful a (List.mem_append_right _ ha)
  | move t p urgent =>
      have hpkey : p.key = key := (h.continues hkey hw).key.trans hkey
      generalize hresult : (Except.ok a : Outcome Action) = result at hset
      cases hset.concludes hpkey (h.keeps hkey hw) with
      | refused _ _ => exact nomatch hresult
      | @deferred wait _ hphase hpos hle _ =>
          cases hresult
          cases urgent with
          | false => exact .again hpos hle
          | true =>
              obtain ⟨rfl, rfl, hne, -⟩ := h.of_urgent
              exact absurd hphase.symm hne
      | @written now n _ _ hwrite hstatus hkeeps =>
          cases hresult
          cases urgent with
          | true =>
              obtain ⟨rfl, rfl, hne, hnf⟩ := h.of_urgent
              refine .deleting hne hnf hwrite ?_
              rw [Resource.phase_congr hstatus, Resource.phase_recorded]
              rfl
          | false =>
              show Rests k policy o τ' w₂.stored (t.action policy)
              rw [Transition.action]
              by_cases hrequeue : t.requeue = true
              · rw [if_pos hrequeue]
                exact .again hinterval (Nat.le_refl _)
              · rw [if_neg hrequeue]
                have hfailed := (h.departs hkey).requeue_or_failed.resolve_left hrequeue
                refine .done ?_
                cases hn : w₂.stored with
                | none => exact .gone
                | some m =>
                    refine .failed ?_
                    rw [Resource.phase_congr (hkeeps m hn).2.1, Resource.phase_recorded, hfailed]

/-- So does a whole invocation. -/
theorem Invokes.rests {a : Action} (h : Invokes s k key c (some o) τ (.ok a) w) (hkey : o.key = key)
    (hinterval : .zero < s.policy.interval) (hdeleted : o.phase ≠ .deleted)
    (hpolled : o.phase = .provisioning → (c.poll o).isSome)
    (htruthful : ∀ a ∈ τ, a.isTruthful = true) : Rests k s.policy o τ w.stored a := by
  cases h with
  | decided _ hd₀ hd₁ hdec hset =>
      have hshows := (Slot.Shows.untouched.drifts hd₀).drifts hd₁
      have hrests := hdec.rests hset hkey hshows hinterval hdeleted hpolled fun a ha =>
        htruthful a (List.mem_cons_of_mem _ (List.mem_cons_of_mem _ (List.mem_append_left _ ha)))
      refine hrests.mono fun a ha => ?_
      exact List.mem_cons_of_mem _ (List.mem_cons_of_mem _ (List.mem_append_right _ ha))

/-- Without an object there is nothing to do. -/
theorem Invokes.action_of_absent {a : Action} (h : Invokes s k key c none τ (.ok a) w) :
    a = .awaitChange := by
  cases h with
  | absent _ => rfl

end

/-! ## Runs -/

/-- A status write that succeeded is on record. -/
theorem mem_statusWritesFrom {O : Type} {clock : Option Instant} {τ : List (EngineAnswer O)}
    {p n : O} {w w₁ : Slot O} (h : ⟨.updateStatus p, .ok n, w, w₁⟩ ∈ τ) :
    ∃ last, ⟨last, p, n⟩ ∈ statusWritesFrom clock τ := by
  induction τ generalizing clock with
  | nil => exact nomatch h
  | cons a τ ih =>
      rcases List.mem_cons.1 h with rfl | hlater
      · exact ⟨clock, List.mem_append_right _ (List.mem_singleton.2 rfl)⟩
      · obtain ⟨call, reply, before, after⟩ := a
        cases call with
        | now => exact ih hlater
        | authenticate tenant => exact ih hlater
        | fetch namespace_ name => exact ih hlater
        | fetchProject namespace_ name => exact ih hlater
        | update o => exact ih hlater
        | remote c => exact ih hlater
        | updateStatus o =>
            cases reply with
            | error f => exact ih hlater
            | ok m =>
                obtain ⟨last, hlast⟩ := ih hlater
                exact ⟨last, List.mem_append_left _ hlast⟩

section

variable {s : Setting (Resource Spec St)} {k : Circumstances} {c : RemoteCalls Spec St}
  {start : Resource Spec St} {h : List (Invocation (Resource Spec St))}
  {stored : Option (Resource Spec St)}

/-- Once deletion has begun, the object is being deleted or has failed. -/
theorem Runs.deleting (hr : Runs s k start h stored) (hl : s.lifecycle = c.lifecycle) :
    ∀ o, stored = some o → (∃ w ∈ statusWrites h, w.phase = .deleting) →
      o.phase = .deleting ∨ o.phase = .failed := by
  refine hr.invariant (P := fun h o => (∃ w ∈ statusWrites h, w.phase = .deleting) →
    o.phase = .deleting ∨ o.phase = .failed) hl ?_ ?_ ?_
  · rintro ⟨w, hw, -⟩
    exact nomatch hw
  · intro h o n ho he hw
    rw [Resource.phase_congr he.status]
    exact ho hw
  · rintro h o n τ result w ho hkey - hi hn ⟨x, hx, hphase⟩
    rcases List.mem_append.1 hx with hx | hx
    · -- this very invocation has begun the deletion
      cases hi.effect hkey with
      | still hws _ =>
          change x ∈ statusWritesFrom none τ at hx
          rw [hws] at hx
          exact nomatch hx
      | moved _ _ _ _ hws hwritten hkeeps =>
          change x ∈ statusWritesFrom none τ at hx
          rw [hws] at hx
          cases List.mem_singleton.1 hx
          refine .inl ?_
          rw [Resource.phase_congr ((hkeeps n hn).2.1.trans (hwritten _ rfl).2.1.symm)]
          exact hphase
    · have hold := ho ⟨x, hx, hphase⟩
      rcases (hi.effect hkey).phase hkey hn with hsame | ⟨t, ht, hnew⟩
      · rw [hsame]
        exact hold
      · rw [hnew]
        have hdeleting := hold.resolve_right ht.ne_failed
        rw [hdeleting] at ht
        exact ht.of_deleting

/-- What every invocation of a run comes to that does not end in a failure. -/
theorem Runs.rests (hr : Runs s k start h stored) (hl : s.lifecycle = c.lifecycle)
    (hpolls : c.provisions → ∀ o, (c.poll o).isSome) (hinterval : .zero < s.policy.interval)
    (hstart : start.status = none) (htruthful : ∀ i ∈ h, ∀ a ∈ i.answers, a.isTruthful = true)
    {i : Invocation (Resource Spec St)} (hi : i ∈ h) {a : Action} (ha : i.result = .ok a) :
    (i.before = none ∧ i.after = none ∧ a = .awaitChange) ∨
      ∃ o, i.before = some o ∧ Rests k s.policy o i.answers i.after a := by
  obtain ⟨earlier, w, hrun, ht, hafter⟩ := hr.invocation hi
  have hinvokes := invokes_of_trace hl ht
  rw [ha] at hinvokes
  rw [hafter]
  cases hb : i.before with
  | none =>
      rw [hb] at hinvokes
      exact .inl ⟨rfl, hinvokes.absent_spec.1, hinvokes.action_of_absent⟩
  | some o =>
      rw [hb] at hinvokes hrun
      obtain ⟨hdeleted, hprovisions⟩ := hrun.phase_sound hl hstart o rfl
      refine .inr ⟨o, rfl, hinvokes.rests (hrun.key_eq hl o rfl) hinterval hdeleted ?_ ?_⟩
      · exact fun hp => hpolls (hprovisions hp) o
      · exact htruthful i hi

/-- Every run of a kind with given remote calls rests only when it is done. -/
theorem Runs.restsWhenDone (hr : Runs s k start h stored) (hl : s.lifecycle = c.lifecycle)
    (hpolls : c.provisions → ∀ o, (c.poll o).isSome) (hinterval : .zero < s.policy.interval)
    (hstart : start.status = none) (htruthful : ∀ i ∈ h, ∀ a ∈ i.answers, a.isTruthful = true) :
    RestsWhenDone k s.policy h where
  rested i hi hresult := by
    rcases hr.rests hl hpolls hinterval hstart htruthful hi hresult with ⟨-, hgone, -⟩ | ⟨o, ho, h⟩
    · exact .inl hgone
    · cases h with
      | done hrest => exact .inr ⟨o, ho, hrest⟩
  prompt i hi wait hresult := by
    rcases hr.rests hl hpolls hinterval hstart htruthful hi hresult with ⟨-, -, ha⟩ | ⟨o, -, h⟩
    · exact nomatch ha
    · cases h with
      | again _ hle => exact hle
      | deleting _ _ _ _ => exact Nat.zero_le _
  urgent later i earlier hh hresult := by
    have hi : i ∈ h := hh ▸ List.mem_append_right _ (List.mem_cons_self ..)
    obtain ⟨hrun, -⟩ := hr.invocation_of_append hh
    rcases hr.rests hl hpolls hinterval hstart htruthful hi hresult with ⟨-, -, ha⟩ | ⟨o, ho, h⟩
    · exact nomatch ha
    · cases h with
      | again hpos _ => exact absurd hpos (Nat.lt_irrefl _)
      | deleting hne hnf hwrite hphase =>
          obtain ⟨last, hlast⟩ := mem_statusWritesFrom hwrite
          refine ⟨⟨o, ho, hne⟩, ⟨_, hlast, hphase⟩, fun x hx hdeleting => ?_⟩
          rw [ho] at hrun
          exact (hrun.deleting hl o rfl ⟨x, hx, hdeleting⟩).elim hne hnf

end

/-- In runs of projects and of volumes from an object without status, an invocation asks for no
    other one only if nothing is left to do; otherwise the next one comes within one interval, and
    at once only when the deletion begins. -/
theorem rest_when_done (k : Circumstances) :
    (∀ (s : Setting Project) (start : Project) (h : List (Invocation Project))
        (stored : Option Project),
      s.lifecycle = projectLifecycle → .zero < s.policy.interval → start.status = none →
      Runs s k start h stored → (∀ i ∈ h, ∀ a ∈ i.answers, a.isTruthful = true) →
      RestsWhenDone k s.policy h) ∧
    (∀ (s : Setting Volume) (start : Volume) (h : List (Invocation Volume))
        (stored : Option Volume),
      s.lifecycle = volumeLifecycle → .zero < s.policy.interval → start.status = none →
      Runs s k start h stored → (∀ i ∈ h, ∀ a ∈ i.answers, a.isTruthful = true) →
      RestsWhenDone k s.policy h) := by
  constructor
  · intro s start h stored hl hinterval hstart hr htruthful
    exact hr.restsWhenDone (hl.trans projectLifecycle_eq) (fun hp => hp.elim) hinterval hstart
      htruthful
  · intro s start h stored hl hinterval hstart hr htruthful
    exact hr.restsWhenDone (hl.trans volumeLifecycle_eq) (fun _ _ => rfl) hinterval hstart
      htruthful

namespace Scripted

/-- The actions that the invocations of a history have ended in, newest first. -/
def actionsOf {O : Type} (h : List (Invocation O)) : List (Option Action) :=
  h.map fun i => i.result.toOption

end Scripted

open Scripted in
/-- A project and a volume that are created and removed are left alone only after their removal. -/
theorem rest_when_done_stories :
    (RestsWhenDone calm projectSetting.policy projectStory.1 ∧
      actionsOf projectStory.1 =
        [some .awaitChange, some (.requeue .zero), some (.requeue (.ofSeconds 20)),
          some (.requeue (.ofSeconds 20))]) ∧
    RestsWhenDone calm volumeSetting.policy volumeStory.1 ∧
      actionsOf volumeStory.1 =
        [some .awaitChange, some (.requeue .zero), some (.requeue (.ofSeconds 20)),
          some (.requeue (.ofSeconds 20)), some (.requeue (.ofSeconds 20))] := by
  refine ⟨⟨?_, by decide +kernel⟩, ?_, by decide +kernel⟩
  · exact (rest_when_done calm).1 _ _ _ _ rfl (by decide) rfl runs_projectStory
      (by decide +kernel)
  · exact (rest_when_done calm).2 _ _ _ _ rfl (by decide) rfl runs_volumeStory
      (by decide +kernel)

end CloudReconciler
