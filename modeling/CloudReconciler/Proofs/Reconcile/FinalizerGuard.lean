import CloudReconciler.Proofs.Reconcile.PhaseGraph

/-! # The finalizer as a guard — held from before creation until after removal

    Nobody but the engine touches the finalizer of a kind.  The engine
    attaches it in the first phase and releases it in the phase of deletion,
    each time in memory before the store is asked, and a replacement that
    fails is followed by a status write with the half-edited object.  The
    slot is what counts: over a whole run the stored object is guarded
    whenever its creation is sent, and it loses its guard only after the
    remote resource was removed, or was never known. -/

namespace CloudReconciler

open Procedure (Trace trace_call trace_done)

/-! ## Finalizers -/

namespace Metadata

theorem finalizerList_attach (m : Metadata) (finalizer : String) :
    (m.attach finalizer).finalizerList = m.finalizerList ++ [finalizer] := rfl

theorem finalizerList_release (m : Metadata) (finalizer : String) :
    (m.release finalizer).finalizerList = m.finalizerList.filter (· ≠ finalizer) := by
  rw [finalizerList, release, finalizerList]
  cases m.finalizers with
  | none => rfl
  | some l => rfl

/-- The finalizers but the given one. -/
def otherFinalizers (m : Metadata) (finalizer : String) : List String :=
  m.finalizerList.filter (· ≠ finalizer)

theorem otherFinalizers_attach (m : Metadata) (finalizer : String) :
    (m.attach finalizer).otherFinalizers finalizer = m.otherFinalizers finalizer := by
  rw [otherFinalizers, finalizerList_attach, List.filter_append, otherFinalizers]
  simp

theorem otherFinalizers_release (m : Metadata) (finalizer : String) :
    (m.release finalizer).otherFinalizers finalizer = m.otherFinalizers finalizer := by
  rw [otherFinalizers, finalizerList_release, List.filter_filter, otherFinalizers]
  simp

theorem count_release (m : Metadata) (finalizer : String) :
    (m.release finalizer).finalizerList.count finalizer = 0 := by
  rw [finalizerList_release, List.count_eq_zero]
  intro h
  simpa using (List.mem_filter.1 h).2

end Metadata

variable {Spec St : Type} [Managed Spec St]

/-- How often the object carries its kind's finalizer. -/
def Resource.guardCount (o : Resource Spec St) : Nat :=
  o.metadata.finalizerList.count (Managed.finalizer Spec)

/-- The finalizers of others on the object. -/
def Resource.otherFinalizers (o : Resource Spec St) : List String :=
  o.metadata.otherFinalizers (Managed.finalizer Spec)

namespace Resource

variable {o n p : Resource Spec St}

theorem isGuarded_iff_guardCount : o.IsGuarded ↔ 0 < o.guardCount := List.count_pos_iff.symm

theorem Matches.guardCount_eq (h : n.Matches p) : n.guardCount = p.guardCount :=
  congrArg (List.count _) h.finalizers

/-- Attaching the finalizer to an object that is not guarded makes it occur once. -/
theorem guardCount_guarded (h : ¬ o.IsGuarded) : o.guarded.guardCount = 1 := by
  have hzero : o.guardCount = 0 := Nat.eq_zero_of_not_pos (isGuarded_iff_guardCount.not.1 h)
  show List.count _ (o.metadata.finalizerList ++ [Managed.finalizer Spec]) = 1
  rw [List.count_append, List.count_singleton_self]
  show o.guardCount + 1 = 1
  rw [hzero]

theorem guardCount_released : o.released.guardCount = 0 := o.metadata.count_release _

theorem otherFinalizers_guarded : o.guarded.otherFinalizers = o.otherFinalizers :=
  o.metadata.otherFinalizers_attach _

theorem otherFinalizers_released : o.released.otherFinalizers = o.otherFinalizers :=
  o.metadata.otherFinalizers_release _

end Resource

/-! ## Answers -/

/-- The DELETE of the address was answered by a success, or by the news that it is gone. -/
def Invocation.Deleted {O : Type} (i : Invocation O) (url : String) : Prop :=
  ∃ (request : Request) (reply : Reply) (before after : Slot O),
    ⟨.remote (.send request), .reply (.ok reply), before, after⟩ ∈ i.answers ∧
      request.method = "DELETE" ∧ request.url = url ∧
      (Reply.isSuccess reply.status = true ∨ Reply.isGone "DELETE" reply.status = true)

/-- The answer takes the kind's finalizer from the stored object, or takes the object away. -/
def EngineAnswer.Releases (a : EngineAnswer (Resource Spec St)) : Prop :=
  (∃ b, a.before.stored = some b ∧ b.IsGuarded) ∧ ∀ n, a.after.stored = some n → ¬ n.IsGuarded

/-- The answer is to a replacement. -/
def EngineAnswer.isUpdate {O : Type} (a : EngineAnswer O) : Bool :=
  match a.call with
  | .update _ => true
  | _ => false

/-- The discipline of the finalizer in a run, for a kind whose remote resources live at the given
    addresses. -/
structure KeepsGuard (address : Resource Spec St → Option String)
    (s : Setting (Resource Spec St)) (start : Resource Spec St)
    (h : List (Invocation (Resource Spec St))) (stored : Option (Resource Spec St)) : Prop where
  /-- Whenever a creation is sent, the stored object is guarded. -/
  guarded_on_creation : ∀ i ∈ h, ∀ a ∈ i.answers, ∀ request,
    a.call = .remote (.send request) → request.method = "POST" →
    ∃ o, a.before.stored = some o ∧ o.IsGuarded
  /-- No answer makes the finalizer occur twice, -/
  never_twice : ∀ i ∈ h, ∀ a ∈ i.answers, ∀ b n, a.before.stored = some b →
    a.after.stored = some n → n.guardCount = b.guardCount ∨ n.guardCount ≤ 1
  /-- so that it occurs once at most if it did not occur twice from the start. -/
  at_most_once : start.guardCount ≤ 1 → ∀ o, Occurs h stored o → o.guardCount ≤ 1
  /-- The guard falls in the phase of deletion, in an invocation that has removed the remote
      resource or knows of none. -/
  released_after_removal : ∀ i ∈ h, (∃ a ∈ i.answers, a.Releases) →
    ∃ o, i.before = some o ∧ o.phase = .deleting ∧
      ∀ endpoint, address o = some endpoint → i.Deleted (s.gateway.baseUrl ++ endpoint)
  /-- As long as the remote resource has not been removed, no answer changes any finalizer. -/
  kept_until_removal : ∀ i ∈ h, ∀ o, i.before = some o → o.phase = .deleting →
    ∀ endpoint, address o = some endpoint → ¬ i.Deleted (s.gateway.baseUrl ++ endpoint) →
    ∀ a ∈ i.answers, ∀ b, a.before.stored = some b →
      ∃ n, a.after.stored = some n ∧ n.metadata.finalizerList = b.metadata.finalizerList
  /-- No answer touches the finalizers of others. -/
  others_kept : ∀ i ∈ h, ∀ a ∈ i.answers, ∀ b, a.before.stored = some b →
    (∀ n, a.after.stored = some n → n.otherFinalizers = b.otherFinalizers) ∧
      (a.after.stored = none → b.otherFinalizers = [])

section

variable {s : Setting (Resource Spec St)} {k : Circumstances} {key : ObjectKey}
  {g : Gateway} {c : RemoteCalls Spec St} {o b : Resource Spec St}
  {w w₁ : Slot (Resource Spec St)} {τ : List (EngineAnswer (Resource Spec St))}
  {a : EngineAnswer (Resource Spec St)}

/-- What an answer does to the finalizers of the stored object. -/
inductive Refinalizes (o b : Resource Spec St) (a : EngineAnswer (Resource Spec St)) : Prop
  | same {n} : a.after.stored = some n → n.metadata.finalizerList = b.metadata.finalizerList →
      Refinalizes o b a
  | attached {n} : o.phase = .uninitialized → ¬ b.IsGuarded → a.after.stored = some n →
      n.metadata.finalizerList = b.guarded.metadata.finalizerList → Refinalizes o b a
  | released : o.phase = .deleting → a.isUpdate = true →
      (∀ n, a.after.stored = some n →
        n.metadata.finalizerList = b.released.metadata.finalizerList) →
      (a.after.stored = none → b.released.metadata.finalizerList = []) → Refinalizes o b a

theorem Involves.refinalizes (h : Involves k c o a) (hb : a.before.stored = some b) :
    Refinalizes o b a := by
  cases h with
  | read => exact .same hb rfl
  | authenticated => exact .same hb rfl
  | written hm =>
      cases hb
      exact .same rfl hm.finalizers
  | unwritten => exact .same hb rfl
  | decided hp =>
      cases hp with
      | clock => exact .same hb rfl
      | project => exact .same hb rfl
      | checked => exact .same hb rfl
      | requested _ _ => exact .same hb rfl
      | refused => exact .same hb rfl
      | attached hphase hg hm =>
          cases hb
          exact .attached hphase hg rfl hm.finalizers
      | released hphase hg hm hw =>
          cases hb
          rcases hw with rfl | ⟨rfl, hnil⟩
          · refine .released hphase rfl (fun n hn => ?_) fun hnone => nomatch hnone
            cases hn
            exact hm.finalizers
          · refine .released hphase rfl (fun n hn => nomatch hn) fun _ => ?_
            exact hm.finalizers.symm.trans hnil

/-- An answer leaves the number of occurrences of the finalizer, or makes it one or none. -/
theorem Refinalizes.guardCount (h : Refinalizes o b a) {n : Resource Spec St}
    (hn : a.after.stored = some n) : n.guardCount = b.guardCount ∨ n.guardCount ≤ 1 := by
  cases h with
  | same hm hlist =>
      cases hm.symm.trans hn
      exact .inl (congrArg (List.count _) hlist)
  | attached _ hnot hm hlist =>
      cases hm.symm.trans hn
      have hone := Resource.guardCount_guarded hnot
      rw [Resource.guardCount, ← hlist] at hone
      exact .inr (Nat.le_of_eq hone)
  | released _ _ hlist _ =>
      have hzero := Resource.guardCount_released (o := b)
      rw [Resource.guardCount, ← hlist n hn] at hzero
      exact .inr (le_of_eq_of_le hzero (Nat.zero_le 1))

/-- An answer leaves the finalizers of others. -/
theorem Refinalizes.otherFinalizers (h : Refinalizes o b a) {n : Resource Spec St}
    (hn : a.after.stored = some n) : n.otherFinalizers = b.otherFinalizers := by
  cases h with
  | same hm hlist =>
      cases hm.symm.trans hn
      exact congrArg (List.filter _) hlist
  | attached _ _ hm hlist =>
      cases hm.symm.trans hn
      exact (congrArg (List.filter _) hlist).trans Resource.otherFinalizers_guarded
  | released _ _ hlist _ =>
      exact (congrArg (List.filter _) (hlist n hn)).trans Resource.otherFinalizers_released

/-- Where the remote resource is known, its removal is a DELETE that was answered. -/
theorem Asked.deleted {i : Invocation (Resource Spec St)} {endpoint : String}
    (h : Asked k g (c.remove o) w τ (.ok ()) w₁) (haddress : c.address o = some endpoint)
    (hτ : ∀ a ∈ τ, a ∈ i.answers) : i.Deleted (g.baseUrl ++ endpoint) := by
  rw [RemoteCalls.remove, haddress] at h
  obtain ⟨_, reply, _, w₂, rfl, -, hbody, -⟩ := h.sent_of_ok
  exact ⟨_, reply, w₂, w₂, hτ _ (List.mem_cons_of_mem _ (List.mem_cons_self ..)), rfl, rfl,
    Reply.isSuccess_or_isGone hbody⟩

/-- Questions to the remote API replace nothing. -/
theorem Asked.isUpdate_eq_false {α : Type} {ask : Ask α} {r : Outcome α}
    (h : Asked k g ask w τ r w₁) : ∀ a ∈ τ, a.isUpdate = false := by
  cases h with
  | known => exact fun a ha => nomatch ha
  | unconfigured => exact fun a ha => nomatch ha
  | cancelled _ => exact List.forall_mem_singleton.2 rfl
  | sent _ _ => exact List.forall_mem_cons.2 ⟨rfl, List.forall_mem_singleton.2 rfl⟩

theorem Timed.isUpdate_eq_false {policy : Policy} {up : Bool} (h : Timed k policy o w τ up w₁) :
    ∀ a ∈ τ, a.isUpdate = false := by
  cases h with
  | untimed _ => exact fun a ha => nomatch ha
  | within _ _ _ _ => exact List.forall_mem_singleton.2 rfl
  | up _ _ _ _ => exact List.forall_mem_singleton.2 rfl

theorem Settles.isUpdate_eq_false {policy : Policy} {d : Decision (Resource Spec St)}
    {result : Outcome Action} (h : Settles k key policy d w τ result w₁) :
    ∀ a ∈ τ, a.isUpdate = false := by
  cases h with
  | rest => exact fun a ha => nomatch ha
  | deferred _ _ => exact List.forall_mem_singleton.2 rfl
  | written _ _ _ _ => exact List.forall_mem_cons.2 ⟨rfl, List.forall_mem_singleton.2 rfl⟩
  | refused _ _ _ _ => exact List.forall_mem_cons.2 ⟨rfl, List.forall_mem_singleton.2 rfl⟩

/-- The removal of the remote resource succeeded on the way. -/
def Removes (k : Circumstances) (g : Gateway) (c : RemoteCalls Spec St) (o : Resource Spec St)
    (τ : List (EngineAnswer (Resource Spec St))) : Prop :=
  ∃ τ₁ w w₁, Asked k g (c.remove o) w τ₁ (.ok ()) w₁ ∧ ∀ a ∈ τ₁, a ∈ τ

/-- In the phase of deletion, nothing is replaced before the remote resource has been removed. -/
theorem Serves.removes {d : Decision (Resource Spec St)} (h : Serves k key g c o w τ d w₁)
    (hp : o.phase = .deleting) (hτ : ∃ a ∈ τ, a.isUpdate = true) : Removes k g c o τ := by
  obtain ⟨a, ha, hrep⟩ := hτ
  cases h with
  | unremoved _ hasked => exact nomatch ((hasked.isUpdate_eq_false a ha).symm.trans hrep)
  | removed _ hasked _ => exact ⟨_, _, _, hasked, fun _ hb => hb⟩
  | released _ hasked _ _ _ => exact ⟨_, _, _, hasked, fun _ => List.mem_append_left _⟩
  | gone _ hasked _ _ _ _ => exact ⟨_, _, _, hasked, fun _ => List.mem_append_left _⟩
  | unreleased _ hasked _ _ _ _ => exact ⟨_, _, _, hasked, fun _ => List.mem_append_left _⟩
  | ended _ => exact nomatch ha
  | guarded hq | guard hq | unguarded hq | unplaced hq | uncreated hq | created hq | unpolled hq
  | polled hq | pushed hq | current hq | drifted hq => exact nomatch hp.symm.trans hq

theorem Invokes.removes {result : Outcome Action} (h : Invokes s k key c (some o) τ result w)
    (hp : o.phase = .deleting) (hτ : ∃ a ∈ τ, a.isUpdate = true) :
    ∃ token, Removes k (s.gateway.authorized token) c o τ := by
  obtain ⟨a, ha, hrep⟩ := hτ
  cases h with
  | unread _ _ =>
      cases List.mem_singleton.1 ha
      exact nomatch hrep
  | tenantless _ _ _ =>
      cases List.mem_singleton.1 ha
      exact nomatch hrep
  | unauthenticated _ _ =>
      rcases List.mem_cons.1 ha with rfl | ha
      · exact nomatch hrep
      · cases List.mem_singleton.1 ha
        exact nomatch hrep
  | @decided _ token _ _ τ₁ _ _ τ₂ _ _ _ _ _ hdec hset =>
      -- only serving the phase replaces anything
      rcases List.mem_cons.1 ha with rfl | ha
      · exact nomatch hrep
      rcases List.mem_cons.1 ha with rfl | ha
      · exact nomatch hrep
      rcases List.mem_append.1 ha with ha | ha
      · cases hdec with
        | timedOut ht => exact nomatch ((ht.isUpdate_eq_false a ha).symm.trans hrep)
        | marked ht _ _ _ => exact nomatch ((ht.isUpdate_eq_false a ha).symm.trans hrep)
        | served ht _ hs =>
            rcases List.mem_append.1 ha with ha | ha
            · exact nomatch ((ht.isUpdate_eq_false a ha).symm.trans hrep)
            · obtain ⟨τ₃, w₃, w₄, hasked, hsub⟩ := hs.removes hp ⟨a, ha, hrep⟩
              refine ⟨token, τ₃, w₃, w₄, hasked, fun b hb => ?_⟩
              refine List.mem_cons_of_mem _ (List.mem_cons_of_mem _ (List.mem_append_left _ ?_))
              exact List.mem_append_right _ (hsub b hb)
      · exact nomatch ((hset.isUpdate_eq_false a ha).symm.trans hrep)

/-- A creation is sent in its phase, while the slot shows the object that was read. -/
theorem Involves.creates {request : Request} (h : Involves k c o a)
    (hcall : a.call = .remote (.send request)) (hpost : request.method = "POST") :
    o.phase = .creating ∧ a.before.Shows k o := by
  cases h with
  | read | authenticated | written _ | unwritten => exact nomatch hcall
  | decided hp =>
      cases hp with
      | clock | project | checked | attached _ _ _ | released _ _ _ _ | refused =>
          exact nomatch hcall
      | @requested method _ _ _ _ hreq hw =>
          cases hcall
          have hmethod : method = "POST" := hpost
          cases hreq with
          | create hphase => exact ⟨hphase, hw⟩
          | poll _ | push _ | remove _ => exact absurd hmethod (by decide)

/-- An answer leaves no object where there was none. -/
theorem Involves.before_eq_some (h : Involves k c o a) {n : Resource Spec St}
    (hn : a.after.stored = some n) : ∃ b, a.before.stored = some b := by
  cases h with
  | read | authenticated | unwritten => exact ⟨n, hn⟩
  | written _ => exact ⟨_, rfl⟩
  | decided hp =>
      cases hp with
      | clock | project | checked | requested _ _ | refused => exact ⟨n, hn⟩
      | attached _ _ _ | released _ _ _ _ => exact ⟨_, rfl⟩

end

/-! ## Slots with a guarded object -/

section

variable {k : Circumstances} {key : ObjectKey} {policy : Policy} {g : Gateway}
  {c : RemoteCalls Spec St} {o p : Resource Spec St} {w w₁ : Slot (Resource Spec St)}
  {τ : List (EngineAnswer (Resource Spec St))}

/-- The object in the slot, if there is one, is guarded. -/
def Slot.Guarded (w : Slot (Resource Spec St)) : Prop := ∀ n, w.stored = some n → n.IsGuarded

theorem Slot.Guarded.drifts (h : w.Guarded) (hd : w.Drifts k w₁) : w₁.Guarded := by
  rcases hd with rfl | ⟨-, hm⟩
  · exact h
  · cases hm with
    | edited he =>
        intro n hn
        cases hn
        exact he.isGuarded_iff.2 (h _ rfl)
    | removed _ => exact fun n hn => nomatch hn

theorem Slot.Shows.guarded (h : w.Shows k o) (hg : o.IsGuarded) : w.Guarded := by
  obtain ⟨m, hm, hmg⟩ := h.stored hg
  intro n hn
  cases hm.symm.trans hn
  exact hmg

/-- Outside of the phase of deletion, no answer takes the guard. -/
theorem Involves.guarded {a : EngineAnswer (Resource Spec St)} (h : Involves k c o a)
    (hp : o.phase ≠ .deleting) (hbefore : a.before.Guarded) : a.after.Guarded := by
  intro n hn
  obtain ⟨b, hb⟩ := h.before_eq_some hn
  have hguarded := hbefore b hb
  cases h.refinalizes hb with
  | same hm hlist =>
      cases hm.symm.trans hn
      rw [Resource.IsGuarded, hlist]
      exact hguarded
  | attached _ hnot _ _ => exact absurd hguarded hnot
  | released hphase _ _ _ => exact absurd hphase hp

/-- The phase of creation is entered with a guarded object in the slot. -/
theorem Decides.guarded {t : Transition} {urgent : Bool}
    (h : Decides k key policy g c o w τ (.move t p urgent) w₁) (hkey : o.key = key)
    (hw : w.Shows k o) (hp : o.phase = .uninitialized) (ht : t.phase = .creating) :
    w₁.Guarded := by
  cases h with
  | timedOut _ => exact nomatch ht
  | marked _ _ _ _ => exact nomatch ht
  | served htimed _ hs =>
      have hshows := htimed.shows hw
      cases hs with
      | guarded _ hg => exact hshows.guarded hg
      | guard _ hg hr hd =>
          -- the replacement that attaches the finalizer has just succeeded
          obtain ⟨-, hm, -, hstored⟩ := hshows.replaced hr hkey rfl
          refine Slot.Guarded.drifts (fun n hn => ?_) hd
          rcases hstored with rfl | ⟨rfl, -⟩
          · cases hn
            rw [Resource.isGuarded_iff_guardCount, hm.guardCount_eq, Resource.guardCount_guarded hg]
            exact Nat.one_pos
          · exact nomatch hn
      | unguarded _ _ _ _ => exact absurd ht (Transition.ofFault_phase_ne (by decide) (by decide))
      | unplaced hq | uncreated hq | created hq | polled hq | pushed hq | drifted hq
      | unremoved hq | unreleased hq => exact nomatch hp.symm.trans hq

theorem Settles.guarded {d : Decision (Resource Spec St)} {result : Outcome Action}
    (h : Settles k key policy d w τ result w₁)
    (hd : ∀ t p urgent, d = .move t p urgent → p.key = key) (hw : w.Guarded) : w₁.Guarded := by
  cases h with
  | rest => exact hw
  | deferred _ hdrift => exact hw.drifts hdrift
  | refused _ hdrift hwrite hdrift' =>
      have hkey := hd _ _ _ rfl
      cases hwrite.error hkey
      exact (hw.drifts hdrift).drifts hdrift'
  | written _ hdrift hwrite hdrift' =>
      have hkey := hd _ _ _ rfl
      obtain ⟨cur, stale, rfl, rfl, hm, -⟩ := hwrite.ok hkey
      refine Slot.Guarded.drifts (fun n hn => ?_) hdrift'
      cases hn
      rw [Resource.IsGuarded, hm.finalizers]
      exact (hw.drifts hdrift) cur rfl

end

/-! ## Runs -/

section

variable {s : Setting (Resource Spec St)} {k : Circumstances} {c : RemoteCalls Spec St}
  {start : Resource Spec St} {h : List (Invocation (Resource Spec St))}
  {stored : Option (Resource Spec St)}

/-- An object that is being created is guarded. -/
theorem Runs.guarded_of_creating (hr : Runs s k start h stored) (hl : s.lifecycle = c.lifecycle)
    (hstart : start.status = none) :
    ∀ o, stored = some o → o.phase = .creating → o.IsGuarded := by
  refine hr.invariant (P := fun _ o => o.phase = .creating → o.IsGuarded) hl ?_ ?_ ?_
  · exact fun hp => nomatch (Resource.phase_of_status_none hstart).symm.trans hp
  · intro _ o n ho he hp
    exact he.isGuarded_iff.2 (ho ((Resource.phase_congr he.status).symm.trans hp))
  · intro _ o n τ result w ho hkey ht hi hn hp
    by_cases hphase : o.phase = .creating
    · -- the phase was entered before: nothing takes the guard any more
      have hdeleting : o.phase ≠ .deleting := fun hd => nomatch hd.symm.trans hphase
      refine ht.preserves (fun _ _ hd hg => Slot.Guarded.drifts hg hd)
        (fun a ha hg => (hi.involves hkey a ha).guarded hdeleting hg) ?_ n hn
      intro m hm
      cases hm
      exact ho hphase
    · -- the phase is entered now
      cases hi.effect hkey with
      | still _ hkeeps =>
          exact absurd ((Resource.phase_congr (hkeeps n hn).2.1).symm.trans hp) hphase
      | moved hshows hdec hset _ _ _ hkeeps =>
          have ht := (Resource.phase_congr (hkeeps n hn).2.1).symm.trans hp
          rw [Resource.phase_recorded] at ht
          have huninit := (hdec.departs hkey).eq_uninitialized ht hphase
          refine hset.guarded ?_ (hdec.guarded hkey hshows huninit ht) n hn
          rintro t p urgent ⟨⟩
          exact (hdec.continues hkey hshows).key.trans hkey

/-- A finalizer that does not occur twice from the start never does. -/
theorem Runs.guardCount_le (hr : Runs s k start h stored) (hl : s.lifecycle = c.lifecycle)
    (hstart : start.guardCount ≤ 1) : ∀ o, stored = some o → o.guardCount ≤ 1 := by
  refine hr.invariant (P := fun _ o => o.guardCount ≤ 1) hl hstart ?_ ?_
  · exact fun _ o n ho he => le_of_eq_of_le he.guard ho
  · intro _ o n τ result w ho hkey ht hi hn
    -- edits leave the count, and so do all answers but the one that attaches the finalizer
    refine ht.preserves (P := fun w => ∀ n, w.stored = some n → n.guardCount ≤ 1)
      ?_ (fun a ha hle n hn => ?_) ?_ n hn
    · rintro w₁ w₂ (rfl | ⟨-, hm⟩) hle
      · exact hle
      · cases hm with
        | edited he =>
            intro n hn
            cases hn
            exact le_of_eq_of_le he.guard (hle _ rfl)
        | removed _ => exact fun n hn => nomatch hn
    · have hinv := hi.involves hkey a ha
      obtain ⟨b, hb⟩ := hinv.before_eq_some hn
      rcases (hinv.refinalizes hb).guardCount hn with hsame | hone
      · exact le_of_eq_of_le hsame (hle b hb)
      · exact hone
    · intro m hm
      cases hm
      exact ho

/-- Every run of a kind with given remote calls keeps the discipline of the finalizer. -/
theorem Runs.keepsGuard (hr : Runs s k start h stored) (hl : s.lifecycle = c.lifecycle)
    (hstart : start.status = none) : KeepsGuard c.address s start h stored where
  guarded_on_creation i hi a ha request hcall hpost := by
    rcases hr.answer hl hi ha with ⟨_, rfl⟩ | ⟨o, earlier, w, -, hrun, -, hinv⟩
    · cases hcall
    · obtain ⟨hphase, hshows⟩ := hinv.creates hcall hpost
      exact hshows.stored (hrun.guarded_of_creating hl hstart o rfl hphase)
  never_twice i hi a ha b n hb hn := by
    rcases hr.answer hl hi ha with ⟨_, rfl⟩ | ⟨o, earlier, w, -, -, -, hinv⟩
    · cases hb
    · exact (hinv.refinalizes hb).guardCount hn
  at_most_once hcount o ho := by
    obtain ⟨h', hrun⟩ := hr.of_occurs ho
    exact hrun.guardCount_le hl hcount o rfl
  released_after_removal i hi := by
    rintro ⟨a, ha, ⟨b, hb, hguarded⟩, hnot⟩
    rcases hr.answer hl hi ha with ⟨_, rfl⟩ | ⟨o, earlier, w, hbefore, -, hinvokes, hinv⟩
    · cases hb
    · cases hinv.refinalizes hb with
      | same hm hlist =>
          refine absurd ?_ (hnot _ hm)
          rw [Resource.IsGuarded, hlist]
          exact hguarded
      | attached _ hfree _ _ => exact absurd hguarded hfree
      | released hphase hupdate _ _ =>
          refine ⟨o, hbefore, hphase, fun endpoint haddress => ?_⟩
          obtain ⟨token, τ₁, w₁, w₂, hasked, hsub⟩ := hinvokes.removes hphase ⟨a, ha, hupdate⟩
          exact hasked.deleted haddress hsub
  kept_until_removal i hi o hbefore hphase endpoint haddress hnot a ha b hb := by
    rcases hr.answer hl hi ha with ⟨_, rfl⟩ | ⟨o', earlier, w, hbefore', -, hinvokes, hinv⟩
    · cases hb
    · cases hbefore.symm.trans hbefore'
      cases hinv.refinalizes hb with
      | same hm hlist => exact ⟨_, hm, hlist⟩
      | attached huninit _ _ _ => cases hphase.symm.trans huninit
      | released _ hupdate _ _ =>
          obtain ⟨token, τ₁, w₁, w₂, hasked, hsub⟩ := hinvokes.removes hphase ⟨a, ha, hupdate⟩
          exact absurd (hasked.deleted haddress hsub) hnot
  others_kept i hi a ha b hb := by
    rcases hr.answer hl hi ha with ⟨_, rfl⟩ | ⟨o, earlier, w, -, -, -, hinv⟩
    · cases hb
    · have hre := hinv.refinalizes hb
      refine ⟨fun n hn => hre.otherFinalizers hn, fun hnone => ?_⟩
      cases hre with
      | same hm _ => cases hm.symm.trans hnone
      | attached _ _ hm _ => cases hm.symm.trans hnone
      | released _ _ _ hnil =>
          rw [← Resource.otherFinalizers_released]
          exact congrArg (List.filter _) (hnil hnone)

end

/-- Runs of projects and of volumes from an object without status keep the discipline of their
    finalizers: a project lives at the recorded identifier, a volume at the two that are recorded
    for it and its project. -/
theorem finalizer_guard :
    (∀ (s : Setting Project) (k : Circumstances) (start : Project)
        (h : List (Invocation Project)) (stored : Option Project),
      s.lifecycle = projectLifecycle → start.status = none → Runs s k start h stored →
      KeepsGuard (fun p : Project => p.remoteId?.map ("/projects/" ++ ·)) s start h stored) ∧
    (∀ (s : Setting Volume) (k : Circumstances) (start : Volume)
        (h : List (Invocation Volume)) (stored : Option Volume),
      s.lifecycle = volumeLifecycle → start.status = none → Runs s k start h stored →
      KeepsGuard (fun v : Volume => v.remoteIds?.map fun (project, volume) =>
        Gateway.volumeAt project volume) s start h stored) := by
  constructor
  · intro s k start h stored hl hstart hr
    exact hr.keepsGuard (hl.trans projectLifecycle_eq) hstart
  · intro s k start h stored hl hstart hr
    exact hr.keepsGuard (hl.trans volumeLifecycle_eq) hstart

open Scripted in
/-- A project and a volume that are created and removed keep the discipline, and lose their guards
    in the end. -/
theorem finalizer_guard_stories :
    (KeepsGuard (fun p : Project => p.remoteId?.map ("/projects/" ++ ·)) projectSetting newProject
        projectStory.1 (projectStory.2.slot projectShelf newProject.key).stored ∧
      (projectStory.1.map fun i => i.after.map Resource.guardCount) =
        [some 0, some 1, some 1, some 1]) ∧
    KeepsGuard (fun v : Volume => v.remoteIds?.map fun (project, volume) =>
        Gateway.volumeAt project volume) volumeSetting newVolume volumeStory.1
        (volumeStory.2.slot volumeShelf newVolume.key).stored ∧
      (volumeStory.1.map fun i => i.after.map Resource.guardCount) =
        [some 0, some 1, some 1, some 1, some 1] := by
  refine ⟨⟨?_, by decide +kernel⟩, ?_, by decide +kernel⟩
  · exact finalizer_guard.1 _ _ _ _ _ rfl rfl runs_projectStory
  · exact finalizer_guard.2 _ _ _ _ _ rfl rfl runs_volumeStory

end CloudReconciler
