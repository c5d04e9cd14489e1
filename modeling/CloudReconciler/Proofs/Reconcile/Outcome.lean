import CloudReconciler.Proofs.Reconcile.FinalizerGuard

/-! # Outcomes — what a decision to move comes to

    A transition that is decided about is put off to the next point of the
    grid, or its status is written, or the write is refused.  `Concludes`
    tells the three apart by what the invocation returns and by the status
    that the object is left with. -/

namespace CloudReconciler

variable {Spec St : Type} [Managed Spec St]

/-! ## Delays -/

/-- The way to the next point of the grid is not empty, and no longer than one step of the grid. -/
theorem gridDelay_bounds {elapsed interval wait : Duration}
    (h : gridDelay elapsed interval = some wait) : .zero < wait ∧ wait ≤ interval := by
  rw [gridDelay] at h
  split at h
  · exact nomatch h
  · next hinterval =>
      dsimp only at h
      split at h
      · exact nomatch h
      · split at h
        · cases h
          have hinto : elapsed.nanos % interval.nanos < interval.nanos :=
            Nat.mod_lt _ (Nat.pos_of_ne_zero hinterval)
          exact ⟨Nat.sub_pos_of_lt hinto, Nat.sub_le _ _⟩
        · exact nomatch h

/-- Only a retry of the current phase is put off, by one step of the grid at most. -/
theorem Transition.deferral?_spec {t : Transition} {policy : Policy} {now : Instant}
    {o : Resource Spec St} {wait : Duration} (h : t.deferral? policy now o = some wait) :
    t.requeue = true ∧ t.phase = o.phase ∧ .zero < wait ∧ wait ≤ policy.interval := by
  rw [deferral?] at h
  split at h
  · next hretry =>
      obtain ⟨start, -, hgrid⟩ := Option.bind_eq_some_iff.1 h
      exact ⟨hretry.1, hretry.2, gridDelay_bounds hgrid⟩
  · exact nomatch h

/-! ## The outcomes -/

/-- What a decision to move the object comes to, for an invocation that has read `o` and holds `p`:
    the answers of carrying it out, the slot that it leaves, and its result. -/
inductive Concludes (k : Circumstances) (policy : Policy) (o : Resource Spec St) (t : Transition)
    (p : Resource Spec St) (urgent : Bool) (τ : List (EngineAnswer (Resource Spec St)))
    (w : Slot (Resource Spec St)) : Outcome Action → Prop
  /-- A retry is put off, and nothing is written. -/
  | deferred {wait} : t.requeue = true → t.phase = p.phase → .zero < wait →
      wait ≤ policy.interval → w.Keeps k o o.status →
      Concludes k policy o t p urgent τ w (.ok (Decision.actionOf urgent (.requeue wait)))
  | written {now n w₁ w₂} : ⟨.updateStatus (t.recorded now p), .ok n, w₁, w₂⟩ ∈ τ →
      n.status = (t.recorded now p).status → w.Keeps k o (t.recorded now p).status →
      Concludes k policy o t p urgent τ w (.ok (Decision.actionOf urgent (t.action policy)))
  | refused {now f w₁} : ⟨.updateStatus (t.recorded now p), .error f, w₁, w₁⟩ ∈ τ →
      w.Keeps k o o.status → Concludes k policy o t p urgent τ w (.error f)

section

variable {k : Circumstances} {key : ObjectKey} {policy : Policy} {o p n : Resource Spec St}
  {t : Transition} {urgent : Bool} {w w₁ : Slot (Resource Spec St)}
  {τ : List (EngineAnswer (Resource Spec St))} {result : Outcome Action}

/-- A decision to move comes to nothing else. -/
theorem Settles.concludes (h : Settles k key policy (.move t p urgent) w τ result w₁)
    (hkey : p.key = key) (hw : w.Keeps k o o.status) :
    Concludes k policy o t p urgent τ w₁ result := by
  cases h with
  | deferred hwait hd =>
      obtain ⟨hretry, hphase, hpos, hle⟩ := Transition.deferral?_spec hwait
      exact .deferred hretry hphase hpos hle (hw.drifts hd)
  | written _ hd hwrite hd' =>
      obtain ⟨_, _, -, -, -, hstatus⟩ := hwrite.ok hkey
      refine .written (List.mem_cons_of_mem _ (List.mem_cons_self ..)) hstatus ?_
      exact ((hw.drifts hd).written hwrite hkey).drifts hd'
  | refused _ hd hwrite hd' =>
      cases hwrite.error hkey
      exact .refused (List.mem_cons_of_mem _ (List.mem_cons_self ..)) ((hw.drifts hd).drifts hd')

/-- The record of an object that was left with the status of a transition. -/
theorem Slot.Keeps.record {now : Instant} (h : w.Keeps k o (t.recorded now p).status)
    (hn : w.stored = some n) :
    n.recordOrBlank = t.apply p.metadata.generation now p.recordOrBlank := by
  rw [Resource.recordOrBlank_congr (h n hn).2.1, Resource.recordOrBlank_recorded]

/-! ## Nobody else around -/

omit [Managed Spec St] in
theorem Resource.Matches.refl (o : Resource Spec St) : o.Matches o := ⟨rfl, rfl, rfl, rfl, rfl⟩

/-- Where nobody else edits the object, nothing happens to it between two calls. -/
theorem Slot.Drifts.eq_of_alone (h : w.Drifts k w₁) (hk : ¬ k.concurrent) : w₁ = w :=
  h.resolve_right fun hm => hk hm.1

/-- Where nobody else edits the object, it is the one that was read. -/
theorem Slot.Shows.eq_of_alone (h : w.Shows k o) (hk : ¬ k.concurrent) : w = ⟨some o, false⟩ := by
  cases h with
  | untouched => rfl
  | edited hc _ => exact absurd hc hk
  | removed hc _ => exact absurd hc hk

/-- Where nobody else edits the object, carrying a decision out leaves everything but its status,
    and all of it if the status is not written. -/
theorem Settles.alone {d : Decision (Resource Spec St)}
    (h : Settles k key policy d w τ result w₁)
    (hd : ∀ t p urgent, d = .move t p urgent → p.key = key) (hw : w.Shows k o)
    (hk : ¬ k.concurrent) :
    (∃ n, w₁.stored = some n ∧ n.Matches o) ∧
      ((∃ f, result = .error f) → w₁.stored = some o) := by
  obtain rfl := hw.eq_of_alone hk
  cases h with
  | rest => exact ⟨⟨o, rfl, .refl o⟩, fun ⟨_, hf⟩ => nomatch hf⟩
  | deferred _ hdrift =>
      obtain rfl := hdrift.eq_of_alone hk
      exact ⟨⟨o, rfl, .refl o⟩, fun ⟨_, hf⟩ => nomatch hf⟩
  | written _ hdrift hwrite hdrift' =>
      obtain rfl := hdrift.eq_of_alone hk
      have hp := hd _ _ _ rfl
      obtain ⟨cur, stale, hcur, rfl, hm, -⟩ := hwrite.ok hp
      cases hcur
      obtain rfl := hdrift'.eq_of_alone hk
      exact ⟨⟨_, rfl, hm⟩, fun ⟨_, hf⟩ => nomatch hf⟩
  | refused _ hdrift hwrite hdrift' =>
      obtain rfl := hdrift.eq_of_alone hk
      have hp := hd _ _ _ rfl
      cases hwrite.error hp
      obtain rfl := hdrift'.eq_of_alone hk
      exact ⟨⟨o, rfl, .refl o⟩, fun _ => rfl⟩

end

/-! ## Invocations that only write the status -/

/-- The engine has replaced nothing, and where nobody else edits the object, everything but its
    status is as it was read. -/
structure Invocation.KeepsObject (k : Circumstances) (o : Resource Spec St)
    (i : Invocation (Resource Spec St)) : Prop where
  unreplaced : ∀ a ∈ i.answers, a.isUpdate = false
  kept : ¬ k.concurrent → ∃ n, i.after = some n ∧ n.Matches o

/-- The invocation ends in the refusal of its status write, which leaves the object alone. -/
structure Invocation.IsRefused (k : Circumstances) (o : Resource Spec St)
    (i : Invocation (Resource Spec St)) : Prop where
  refusal : ∃ p f w, ⟨.updateStatus p, .error f, w, w⟩ ∈ i.answers ∧ i.result = .error f
  status : ∀ n, i.after = some n → n.status = o.status
  untouched : ¬ k.concurrent → i.after = some o

/-- The object `n` is `o`, failed for the given reason. -/
def Resource.FailedFor (reason : String) (o n : Resource Spec St) : Prop :=
  n.phase = .failed ∧ n.recordOrBlank.synchronized.map Condition.reason = some reason ∧
    n.recordOrBlank.resourceId = o.recordOrBlank.resourceId

/-- The invocation fails its object, or would if its status write were not refused. -/
structure Invocation.Fails (reason : String) (k : Circumstances) (o : Resource Spec St)
    (i : Invocation (Resource Spec St)) : Prop extends i.KeepsObject k o where
  attempted : ∃ p reply w w₁, ⟨.updateStatus p, reply, w, w₁⟩ ∈ i.answers ∧ o.FailedFor reason p
  result : i.IsRefused k o ∨
    i.result = .ok .awaitChange ∧ ∀ n, i.after = some n → o.FailedFor reason n

/-- The condition of a record after a transition gives the reason of the transition. -/
theorem Transition.reason_apply (t : Transition) (generation : Option Int64) (now : Instant)
    (s : Status) :
    (t.apply generation now s).synchronized.map Condition.reason = some t.reason := by
  show ((Status.upsert (t.condition now) s.conditions).find? (·.kind == _)).map _ = _
  induction s.conditions with
  | nil => rfl
  | cons old rest ih =>
      rw [Status.upsert]
      by_cases hkind : old.kind = (t.condition now).kind
      · rw [if_pos hkind]
        split
        all_goals rfl
      · rw [if_neg hkind, List.find?_cons_of_neg]
        · exact ih
        · rw [beq_iff_eq]
          exact hkind

section

variable {k : Circumstances} {key : ObjectKey} {policy : Policy} {o p : Resource Spec St}
  {t : Transition} {f : Fault} {w w₁ : Slot (Resource Spec St)}
  {τ τ₂ : List (EngineAnswer (Resource Spec St))} {result : Outcome Action}

/-- A status write that is refused ends the invocation. -/
theorem Settles.isRefused (h : Settles k key policy (.move t p false) w₁ τ₂ (.error f) w)
    (hkey : p.key = key) (hw : w₁.Shows k o) (hτ : ∀ b ∈ τ₂, b ∈ τ) :
    Invocation.IsRefused k o ⟨some o, τ, .error f, w.stored⟩ := by
  have halone := h.alone (fun _ _ _ hd => by cases hd; exact hkey) hw
  generalize hr : (Except.error f : Outcome Action) = r at h
  cases h.concludes hkey hw.keeps with
  | deferred _ _ _ _ _ => exact nomatch hr
  | written _ _ _ => exact nomatch hr
  | refused hrefusal hkeeps =>
      cases hr
      refine ⟨⟨_, _, _, hτ _ hrefusal, rfl⟩, fun n hn => (hkeeps n hn).2.1, fun hk => ?_⟩
      exact (halone hk).2 ⟨f, rfl⟩

/-- A transition to failure fails the object that was read. -/
theorem Settles.fails (h : Settles k o.key policy (.move t p false) w₁ τ₂ result w)
    (hp : o.Placed p) (hw : w₁.Shows k o) (hτ : ∀ b ∈ τ₂, b ∈ τ)
    (hquiet : ∀ b ∈ τ, b.isUpdate = false) (hphase : t.phase = .failed)
    (hrequeue : t.requeue = false) :
    Invocation.Fails t.reason k o ⟨some o, τ, result, w.stored⟩ := by
  have hkey : p.key = o.key := hp.continues.key
  have hno : ¬ t.requeue = true := Bool.not_eq_true _ ▸ hrequeue
  have hfailed : ∀ (n : Resource Spec St) generation now,
      n.recordOrBlank = t.apply generation now p.recordOrBlank → o.FailedFor t.reason n := by
    intro n generation now hn
    rw [hp.record] at hn
    rw [Resource.FailedFor, Resource.phase, hn, Transition.reason_apply]
    exact ⟨hphase, rfl, rfl⟩
  refine ⟨⟨hquiet, fun hk => ?_⟩, ?_, ?_⟩
  · exact (h.alone (fun _ _ _ hd => by cases hd; exact hkey) hw hk).1
  · cases h.concludes hkey hw.keeps with
    | deferred hretry _ _ _ _ => exact absurd hretry hno
    | written hwrite _ _ | refused hwrite _ =>
        exact ⟨_, _, _, _, hτ _ hwrite, hfailed _ _ _ (Resource.recordOrBlank_recorded _ _ _)⟩
  · have h' := h
    cases h.concludes hkey hw.keeps with
    | deferred hretry _ _ _ _ => exact absurd hretry hno
    | refused _ _ => exact .inl (h'.isRefused hkey hw hτ)
    | written _ _ hkeeps =>
        refine .inr ⟨?_, fun n hn => hfailed n _ _ (hkeeps.record hn)⟩
        show Except.ok (t.action policy) = _
        rw [Transition.action, if_neg hno]

end

end CloudReconciler
