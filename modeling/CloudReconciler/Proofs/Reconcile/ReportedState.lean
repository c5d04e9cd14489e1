import CloudReconciler.Proofs.Reconcile.Creation
import CloudReconciler.Proofs.Reconcile.Outcome
import CloudReconciler.Proofs.Reconcile.StatusRecord

/-! # Reported states — where the state of a remote volume moves the object

    A creation and a poll may both report a state.  A creation lists the
    states that are pending and takes every other one as done; a poll lists
    the states that are ready or failed and takes every other one as
    pending.  Outside of the failed states the two tables agree on what
    either of them lists, and on nothing else.

    * `EngineAnswer.Reports`: the answer that reports a state;
    * `Phase.ofCreated`, `Phase.ofPolled`: where the two tables lead;
    * `Invocation.MovesTo`: the phase that an invocation moves its object to. -/

namespace CloudReconciler

/-! ## The two tables -/

/-- The phase after a creation that reports the state. -/
def Phase.ofCreated (state : String) : Phase :=
  if state ∈ remoteStates.pending then .provisioning else .created

/-- The phase after a poll that reports the state. -/
def Phase.ofPolled (state : String) : Phase :=
  if state ∈ remoteStates.ready then .created
  else if state ∈ remoteStates.failed then .failed
  else .provisioning

/-- Outside of the failed states the tables agree on the states that one of them lists. -/
theorem Phase.ofCreated_eq_ofPolled_iff {state : String} (h : state ∉ remoteStates.failed) :
    ofCreated state = ofPolled state ↔
      state ∈ remoteStates.ready ∨ state ∈ remoteStates.pending := by
  have hdisjoint : ∀ s ∈ remoteStates.pending, s ∉ remoteStates.ready := by decide
  rw [ofCreated, ofPolled, if_neg h]
  by_cases hpending : state ∈ remoteStates.pending
  · rw [if_pos hpending, if_neg (hdisjoint state hpending)]
    exact ⟨fun _ => .inr hpending, fun _ => rfl⟩
  · rw [if_neg hpending]
    by_cases hready : state ∈ remoteStates.ready
    · rw [if_pos hready]
      exact ⟨fun _ => .inl hready, fun _ => rfl⟩
    · rw [if_neg hready]
      exact ⟨fun he => (nomatch he), fun he => absurd he (not_or.2 ⟨hready, hpending⟩)⟩

/-- What the state of a volume, reported in the reply to a method, makes of the object. -/
inductive Transition.IsTold (state : String) : Method → Transition → Prop
  | created : IsTold state "POST" (.ofCreation (some state))
  | polled : IsTold state "GET" (.ofPoll (some state))

section

variable {state : String} {t : Transition}

theorem Transition.phase_ofCreation (state : String) :
    (ofCreation (some state)).phase = .ofCreated state := by
  rw [ofCreation, Phase.ofCreated]
  split
  all_goals rfl

theorem Transition.phase_ofPoll (state : String) :
    (ofPoll (some state)).phase = .ofPolled state := by
  rw [ofPoll, Phase.ofPolled]
  split
  · rfl
  · split
    all_goals rfl

theorem Transition.IsTold.phase_created (h : IsTold state "POST" t) :
    t.phase = .ofCreated state := by
  generalize hm : "POST" = method at h
  cases h with
  | created => exact phase_ofCreation state
  | polled => exact absurd hm (by decide)

theorem Transition.IsTold.phase_polled (h : IsTold state "GET" t) : t.phase = .ofPolled state := by
  generalize hm : "GET" = method at h
  cases h with
  | created => exact absurd hm (by decide)
  | polled => exact phase_ofPoll state

/-- The object is reported as synchronized exactly when the state leads to a created one. -/
theorem Transition.IsTold.synchronized_eq {method : Method} (h : IsTold state method t) :
    t.synchronized = decide (t.phase = .created) := by
  cases h with
  | created =>
      rcases ofCreation_cases (some state) with ht | ⟨ht, -⟩
      · rw [ht]
        rfl
      · rw [ht]
        rfl
  | polled =>
      rcases ofPoll_cases (some state) with ht | ht | ⟨_, ht⟩
      all_goals
        rw [ht]
        rfl

end

/-! ## One invocation -/

/-- The answer is a success of the given method whose body reports the state of a volume. -/
def EngineAnswer.Reports (method : Method) (state : String) (a : EngineAnswer Volume) : Prop :=
  ∃ (request : Request) (reply : Reply) (v : RemoteVolume) (w w₁ : Slot Volume),
    a = ⟨.remote (.send request), .reply (.ok reply), w, w₁⟩ ∧ request.method = method ∧
      Reply.isSuccess reply.status = true ∧
      Gateway.decode RemoteVolume.ofJson? reply.body = .ok v ∧ v.state? = some state

/-- The invocation moves its object to the phase: it writes no other one, with the condition that
    belongs to it, and unless the write is refused, no other one is left in the store. -/
structure Invocation.MovesTo (p : Phase) (k : Circumstances) (o : Volume)
    (i : Invocation Volume) : Prop where
  writes : ∀ q reply w w₁, ⟨.updateStatus q, reply, w, w₁⟩ ∈ i.answers →
    q.phase = p ∧
      q.recordOrBlank.synchronized.map Condition.verdict = some (.ofBool (decide (p = .created)))
  left : i.IsRefused k o ∨ ∀ n, i.after = some n → n.phase = p

theorem EngineAnswer.Reports.isRequest {method : Method} {state : String} {a : EngineAnswer Volume}
    (h : a.Reports method state) : a.IsRequest := by
  obtain ⟨request, reply, v, w, w₁, rfl, -⟩ := h
  exact ⟨request, rfl⟩

section

variable {s : Setting Volume} {k : Circumstances} {key : ObjectKey} {policy : Policy} {g : Gateway}
  {o p : Volume} {w w₁ : Slot Volume} {τ τ₂ : List (EngineAnswer Volume)}
  {a : EngineAnswer Volume} {method : Method} {state : String} {result : Outcome Action}
  {t : Transition}

/-- A question of which a call reports a state was asked with the method of that call, and comes to
    what is read in the body. -/
theorem Asked.of_reports {α : Type} {ask : Ask α} {r : Outcome α} (h : Asked k g ask w τ r w₁)
    (ha : a ∈ τ) (hrep : a.Reports method state) :
    ∃ endpoint body read bytes v, ask = .send method endpoint body read ∧ r = read bytes ∧
      Gateway.decode RemoteVolume.ofJson? bytes = .ok v ∧ v.state? = some state := by
  obtain ⟨request, reply, v, w', w'', rfl, hmethod, hs, hv, hstate⟩ := hrep
  cases h with
  | known => exact nomatch ha
  | unconfigured => exact nomatch ha
  | cancelled _ => exact nomatch List.mem_singleton.1 ha
  | @sent method' endpoint body read _ _ _ wake _ _ =>
      rcases List.mem_cons.1 ha with he | ha
      · exact nomatch he
      · cases List.mem_singleton.1 ha
        obtain rfl : method' = method := hmethod
        refine ⟨endpoint, body, read, reply.body, v, rfl, ?_, hv, hstate⟩
        show reply.body? method' >>= read = _
        rw [Reply.body?, hs]
        rfl

theorem volumeCreation_eq {bytes : List UInt8} {v : RemoteVolume}
    (h : Gateway.decode RemoteVolume.ofJson? bytes = .ok v) :
    volumeCreation bytes = .ok ⟨v.identity.id, v.state?⟩ := by
  rw [volumeCreation, h]
  rfl

theorem volumeState_eq {bytes : List UInt8} {v : RemoteVolume}
    (h : Gateway.decode RemoteVolume.ofJson? bytes = .ok v) :
    volumeState bytes = .ok v.state? := by
  rw [volumeState, h]
  rfl

/-- A creation is sent in the phase of creation, and a poll in that of provisioning. -/
theorem Performs.phase_of_reports (h : Performs k g volumeCalls o a)
    (hrep : a.Reports method state) :
    (method = "POST" → o.phase = .creating) ∧ (method = "GET" → o.phase = .provisioning) := by
  obtain ⟨request, reply, v, w', w'', rfl, rfl, -⟩ := hrep
  cases h with
  | @requested method endpoint body _ _ hreq _ =>
      show (method = "POST" → _) ∧ (method = "GET" → _)
      cases hreq with
      | create hp => exact ⟨fun _ => hp, fun hm => absurd hm (by decide)⟩
      | poll hp => exact ⟨fun hm => absurd hm (by decide), fun _ => hp⟩
      | push _ | remove _ =>
          exact ⟨fun hm => absurd hm (by decide), fun hm => absurd hm (by decide)⟩

theorem Located.not_isRequest {q : Placement Volume} {r : Outcome Volume}
    (h : Located k q w τ r w₁) : ∀ b ∈ τ, ¬ b.IsRequest := by
  cases h with
  | here => exact fun b hb => nomatch hb
  | found _ =>
      exact List.forall_mem_singleton.2 (EngineAnswer.not_isRequest fun _ hc => nomatch hc)

/-- What a creation that reports a state comes to. -/
theorem Asked.created_of_reports {q : Volume} {r : Outcome Creation}
    (h : Asked k g (volumeCalls.create q) w τ r w₁) (ha : a ∈ τ) (hrep : a.Reports method state) :
    ∃ c : Creation, r = .ok c ∧ c.state = some state := by
  obtain ⟨endpoint, body, read, bytes, v, hask, rfl, hv, hstate⟩ := h.of_reports ha hrep
  cases hask
  exact ⟨_, volumeCreation_eq hv, hstate⟩

/-- What a poll that reports a state comes to. -/
theorem Asked.polled_of_reports {ask : Ask (Option String)} {r : Outcome (Option String)}
    (h : Asked k g ask w τ r w₁) (hask : volumeCalls.poll o = some ask) (ha : a ∈ τ)
    (hrep : a.Reports method state) : r = .ok (some state) := by
  obtain ⟨endpoint, body, read, bytes, v, rfl, rfl, hv, hstate⟩ := h.of_reports ha hrep
  have hask := Option.some.inj hask
  cases hids : o.remoteIds? with
  | none =>
      rw [hids] at hask
      exact nomatch hask
  | some ids =>
      rw [hids] at hask
      cases hask
      rw [← hstate]
      exact volumeState_eq hv

/-- A volume of which a creation reports a state is moved as the state tells. -/
theorem Serves.of_created {d : Decision Volume} (h : Serves k key g volumeCalls o w τ d w₁)
    (hw : w.Shows k o) (hphase : o.phase = .creating) (ha : a ∈ τ)
    (hrep : a.Reports method state) :
    w₁.Shows k o ∧ ∃ p, d = .move (.ofCreation (some state)) p false ∧ p.phase = o.phase ∧
      p.key = o.key := by
  cases h with
  | unplaced _ hl => exact absurd hrep.isRequest (hl.not_isRequest a ha)
  | uncreated _ hl hasked =>
      have ha := (List.mem_append.1 ha).resolve_left fun ha => hl.not_isRequest a ha hrep.isRequest
      obtain ⟨c, hc, -⟩ := hasked.created_of_reports ha hrep
      exact nomatch hc
  | created _ hl hasked =>
      have ha := (List.mem_append.1 ha).resolve_left fun ha => hl.not_isRequest a ha hrep.isRequest
      obtain ⟨c, hc, hstate⟩ := hasked.created_of_reports ha hrep
      cases hc
      have hplaced := volumeCalls.placed o _ hl.gives
      rw [hstate]
      refine ⟨hasked.shows (hl.shows hw), _, rfl, ?_, hplaced.continues.key⟩
      show (Resource.recordOrBlank _).phase = o.recordOrBlank.phase
      rw [← hplaced.record]
      rfl
  | guarded hp _ | guard hp _ _ _ | unguarded hp _ _ _ | unpolled hp _ | polled hp _ _
  | pushed hp _ | current hp _ | drifted hp _ | unremoved hp _ | removed hp _ _
  | released hp _ _ _ _ | gone hp _ _ _ _ _ | unreleased hp _ _ _ _ _ =>
      exact nomatch hphase.symm.trans hp
  | ended _ => exact nomatch ha

/-- A volume of which a poll reports a state is moved as the state tells. -/
theorem Serves.of_polled {d : Decision Volume} (h : Serves k key g volumeCalls o w τ d w₁)
    (hw : w.Shows k o) (hphase : o.phase = .provisioning) (ha : a ∈ τ)
    (hrep : a.Reports method state) :
    w₁.Shows k o ∧ d = .move (.ofPoll (some state)) o false := by
  cases h with
  | polled _ hc hasked =>
      rw [hasked.polled_of_reports hc ha hrep]
      exact ⟨hasked.shows hw, rfl⟩
  | unpolled _ _ => exact nomatch ha
  | guarded hp _ | guard hp _ _ _ | unguarded hp _ _ _ | unplaced hp _ | uncreated hp _ _
  | created hp _ _ | pushed hp _ | current hp _ | drifted hp _ | unremoved hp _ | removed hp _ _
  | released hp _ _ _ _ | gone hp _ _ _ _ _ | unreleased hp _ _ _ _ _ =>
      exact nomatch hphase.symm.trans hp
  | ended _ => exact nomatch ha

/-- A phase in which a creation or a poll reports a state is left as the state tells. -/
theorem Serves.of_reports {d : Decision Volume} (h : Serves k key g volumeCalls o w τ d w₁)
    (hkey : o.key = key) (hw : w.Shows k o) (hmethod : method = "POST" ∨ method = "GET")
    (ha : a ∈ τ) (hrep : a.Reports method state) :
    w₁.Shows k o ∧ ∃ t p, d = .move t p false ∧ Transition.IsTold state method t ∧
      p.phase = o.phase ∧ p.key = o.key := by
  obtain ⟨hpost, hget⟩ := (h.performs hkey hw a ha).phase_of_reports hrep
  rcases hmethod with rfl | rfl
  · obtain ⟨hshows, p, rfl, hphase, hkey⟩ := h.of_created hw (hpost rfl) ha hrep
    exact ⟨hshows, _, p, rfl, .created, hphase, hkey⟩
  · obtain ⟨hshows, rfl⟩ := h.of_polled hw (hget rfl) ha hrep
    exact ⟨hshows, _, o, rfl, .polled, rfl, rfl⟩

/-- The condition of a record after a transition says whether the transition synchronizes. -/
theorem Transition.verdict_apply (t : Transition) (generation : Option Int64) (now : Instant)
    (s : Status) :
    (t.apply generation now s).synchronized.map Condition.verdict =
      some (.ofBool t.synchronized) := by
  refine (congrArg (Option.map Condition.verdict)
    (Status.condition?_setCondition_self _ (t.condition now))).trans (congrArg some ?_)
  generalize Status.condition? _ _ = old
  cases old with
  | none => rfl
  | some old => exact ((t.condition now).replacing_spec old).2.1

/-- Only the status of the transition is written when it is carried out. -/
theorem Settles.eq_recorded {urgent : Bool} {q : Volume}
    (h : Settles k key policy (.move t p urgent) w τ result w₁) (ha : a ∈ τ)
    (hcall : a.call = .updateStatus q) : ∃ now, q = t.recorded now p := by
  cases h with
  | deferred _ _ =>
      cases List.mem_singleton.1 ha
      exact nomatch hcall
  | written _ _ _ _ | refused _ _ _ _ =>
      rcases List.mem_cons.1 ha with rfl | ha
      · exact nomatch hcall
      · cases List.mem_singleton.1 ha
        cases hcall
        exact ⟨_, rfl⟩

/-- Carrying out what a state tells moves the object, if nothing else of the invocation writes a
    status. -/
theorem Settles.movesTo (h : Settles k o.key policy (.move t p false) w₁ τ₂ result w)
    (ht : Transition.IsTold state method t) (hphase : p.phase = o.phase) (hkey : p.key = o.key)
    (hw : w₁.Shows k o) (hτ : ∀ b ∈ τ₂, b ∈ τ) (hquiet : ∀ b ∈ τ, b.IsStatusWrite → b ∈ τ₂) :
    Invocation.MovesTo t.phase k o ⟨some o, τ, result, w.stored⟩ := by
  have hkept : ∀ n : Volume, n.status = o.status → n.phase = o.phase := fun n hn =>
    congrArg Status.phase (Resource.recordOrBlank_congr hn)
  refine ⟨fun q reply v v₁ ha => ?_, ?_⟩
  · obtain ⟨now, rfl⟩ := h.eq_recorded (hquiet _ ha ⟨q, rfl⟩) rfl
    rw [Resource.phase, Resource.recordOrBlank_recorded, Transition.verdict_apply,
      ht.synchronized_eq]
    exact ⟨rfl, rfl⟩
  · have h' := h
    cases h.concludes hkey hw.keeps with
    | deferred _ hretry _ _ hkeeps =>
        refine .inr fun n hn => ?_
        rw [hkept n (hkeeps n hn).2.1, ← hphase, hretry]
    | written _ _ hkeeps => exact .inr fun n hn => congrArg Status.phase (hkeeps.record hn)
    | refused _ _ => exact .inl (h'.isRefused hkey hw hτ)

/-- An invocation in which a creation or a poll reports a state moves its object as it tells. -/
theorem Invokes.movesTo (h : Invokes s k o.key volumeCalls (some o) τ result w)
    (hmethod : method = "POST" ∨ method = "GET") (ha : a ∈ τ) (hrep : a.Reports method state) :
    ∃ t, Transition.IsTold state method t ∧
      Invocation.MovesTo t.phase k o ⟨some o, τ, result, w.stored⟩ := by
  have hcalled := hrep.isRequest
  cases h with
  | unread _ _ | tenantless _ _ _ =>
      cases List.mem_singleton.1 ha
      obtain ⟨_, hcall⟩ := hcalled
      exact nomatch hcall
  | unauthenticated _ _ =>
      rcases List.mem_cons.1 ha with rfl | ha
      · obtain ⟨_, hcall⟩ := hcalled
        exact nomatch hcall
      · cases List.mem_singleton.1 ha
        obtain ⟨_, hcall⟩ := hcalled
        exact nomatch hcall
  | @decided _ _ _ _ τ₁ _ _ τ₂ _ _ _ hd₀ hd₁ hdec hset =>
      have hshows := (Slot.Shows.untouched.drifts hd₀).drifts hd₁
      have hperforms := hdec.performs rfl hshows
      -- the call that reports was made on the way to the decision
      have ha : a ∈ τ₁ := by
        rcases List.mem_cons.1 ha with rfl | ha
        · obtain ⟨_, hcall⟩ := hcalled
          exact nomatch hcall
        rcases List.mem_cons.1 ha with rfl | ha
        · obtain ⟨_, hcall⟩ := hcalled
          exact nomatch hcall
        exact (List.mem_append.1 ha).resolve_right fun ha => hset.not_isRequest a ha hcalled
      cases hdec with
      | timedOut ht => exact absurd hcalled (ht.not_isRequest a ha)
      | marked ht _ _ _ => exact absurd hcalled (ht.not_isRequest a ha)
      | served ht _ hs =>
          have ha := (List.mem_append.1 ha).resolve_left fun ha => ht.not_isRequest a ha hcalled
          obtain ⟨hshows₁, t, p, rfl, htold, hphase, hkey⟩ :=
            hs.of_reports rfl (ht.shows hshows) hmethod ha hrep
          refine ⟨t, htold, hset.movesTo htold hphase hkey hshows₁ (fun b hb => ?_) ?_⟩
          · exact List.mem_cons_of_mem _ (List.mem_cons_of_mem _ (List.mem_append_right _ hb))
          · intro b hb hwrite
            obtain ⟨q, hcall⟩ := hwrite
            rcases List.mem_cons.1 hb with rfl | hb
            · exact nomatch hcall
            rcases List.mem_cons.1 hb with rfl | hb
            · exact nomatch hcall
            exact (List.mem_append.1 hb).resolve_left fun hb =>
              (hperforms b hb).not_isStatusWrite ⟨q, hcall⟩

end

/-! ## Volumes -/

/-- A creation that reports a state that has not failed moves the volume to the phase of
    provisioning where the state is pending, and to that of created ones otherwise.  A poll moves
    it to the created ones where the state is ready, to the failed ones where it has failed, and to
    those in provisioning otherwise.  Outside of the failed states the two agree on the listed
    ones, and after a poll that reports a failed state the volume is never written as created. -/
theorem reported_state (s : Setting Volume) (k : Circumstances) (o : Volume)
    (τ : List (EngineAnswer Volume)) (result : Outcome Action) (w : Slot Volume)
    (hl : s.lifecycle = volumeLifecycle)
    (h : Procedure.Trace (Slot.surroundings k o.key) (s.reconcile o.key.1 o.key.2)
      ⟨some o, false⟩ τ result w) (state : String) :
    (state ∉ remoteStates.failed → (∃ a ∈ τ, a.Reports "POST" state) →
      Invocation.MovesTo (.ofCreated state) k o ⟨some o, τ, result, w.stored⟩) ∧
    ((∃ a ∈ τ, a.Reports "GET" state) →
      Invocation.MovesTo (.ofPolled state) k o ⟨some o, τ, result, w.stored⟩) ∧
    (state ∉ remoteStates.failed → (Phase.ofCreated state = Phase.ofPolled state ↔
      state ∈ remoteStates.ready ∨ state ∈ remoteStates.pending)) ∧
    (state ∈ remoteStates.failed → (∃ a ∈ τ, a.Reports "GET" state) →
      ∀ q reply v v₁, ⟨.updateStatus q, reply, v, v₁⟩ ∈ τ → q.phase ≠ .created ∧
        q.recordOrBlank.synchronized.map Condition.verdict ≠ some .holds) := by
  have hinvokes := invokes_of_trace (hl.trans volumeLifecycle_eq) h
  have hpolled : (∃ a ∈ τ, a.Reports "GET" state) →
      Invocation.MovesTo (.ofPolled state) k o ⟨some o, τ, result, w.stored⟩ := by
    rintro ⟨a, ha, hrep⟩
    obtain ⟨t, htold, hmoves⟩ := hinvokes.movesTo (.inr rfl) ha hrep
    rwa [htold.phase_polled] at hmoves
  refine ⟨fun _ hcreated => ?_, hpolled, Phase.ofCreated_eq_ofPolled_iff, fun hfailed hrep => ?_⟩
  · obtain ⟨a, ha, hrep⟩ := hcreated
    obtain ⟨t, htold, hmoves⟩ := hinvokes.movesTo (.inl rfl) ha hrep
    rwa [htold.phase_created] at hmoves
  · have hphase : Phase.ofPolled state = .failed := by
      have hdisjoint : ∀ s ∈ remoteStates.failed, s ∉ remoteStates.ready := by decide
      rw [Phase.ofPolled, if_neg (hdisjoint state hfailed), if_pos hfailed]
    have hmoves := hpolled hrep
    rw [hphase] at hmoves
    intro q reply v v₁ ha
    obtain ⟨hq, hverdict⟩ := hmoves.writes q reply v v₁ ha
    rw [hq, hverdict]
    exact ⟨by decide, by decide⟩

namespace Scripted

/-- The volume while it is being created. -/
def creatingVolume : Volume :=
  { newVolume with
    metadata := newVolume.metadata.attach (Managed.finalizer VolumeSpec)
    status := some { record := { phase := .creating, phaseStart := some ⟨0, 0⟩ } } }

/-- The volume while it is being provisioned. -/
def provisioningVolume : Volume :=
  { creatingVolume with
    status := some
      { record := { phase := .provisioning, phaseStart := some ⟨-7, 0⟩, resourceId := some "v1" }
        projectId := some "p1" } }

/-- The volume is reconciled once, and the remote API reports a state of it. -/
def reportedStory (v : Volume) (status : UInt16) (state : String) : Invocation Volume :=
  (worldOf [oldProject] [v] [.reply (volumeReported status state)]).invocation volumeShelf
    volumeSetting v.key

/-- The phase that the volume is left in. -/
def reportedPhase (v : Volume) (status : UInt16) (state : String) : Option Phase :=
  (reportedStory v status state).after.map Resource.phase

theorem admits_reportedWorld (v : Volume) (script : List (Line CloudReconciler.Reply)) :
    (volumeShelf.store (worldOf [oldProject] [v] script)).Admits calm :=
  ⟨nofun, nofun, nofun, fun _ => rfl⟩

theorem decode_volumeReported_queued (status : UInt16) :
    Gateway.decode RemoteVolume.ofJson? (volumeReported status "Queued").body =
      .ok ⟨⟨"v1", "disk"⟩, some "Queued"⟩ := by
  show Gateway.decode RemoteVolume.ofJson? (volumeReported 200 "Queued").body = _
  decide +kernel

/-- The creation of the volume reports that it is queued. -/
theorem reports_creation_queued :
    ∃ a ∈ (reportedStory creatingVolume 201 "Queued").answers, a.Reports "POST" "Queued" :=
  ⟨_, List.mem_of_getElem? (i := 5) rfl, _, _, _, _, _, rfl, rfl, rfl,
    decode_volumeReported_queued 201, rfl⟩

/-- The poll of the volume reports that it is queued. -/
theorem reports_poll_queued :
    ∃ a ∈ (reportedStory provisioningVolume 200 "Queued").answers, a.Reports "GET" "Queued" :=
  ⟨_, List.mem_of_getElem? (i := 4) rfl, _, _, _, _, _, rfl, rfl, rfl,
    decode_volumeReported_queued 200, rfl⟩

end Scripted

open Scripted in
/-- A volume that is queued is created when its creation says so, and in provisioning when a poll
    does. -/
theorem reported_state_stories :
    ("Queued" ∉ remoteStates.failed ∧
      (reportedStory creatingVolume 201 "Queued").MovesTo .created calm creatingVolume ∧
      reportedPhase creatingVolume 201 "Queued" = some .created) ∧
    (reportedStory provisioningVolume 200 "Queued").MovesTo .provisioning calm provisioningVolume ∧
      reportedPhase provisioningVolume 200 "Queued" = some .provisioning := by
  have hqueued : "Queued" ∉ remoteStates.failed := by decide
  refine ⟨⟨hqueued, ?_, by decide +kernel⟩, ?_, by decide +kernel⟩
  · have hreported := reported_state volumeSetting _ creatingVolume _ _ _ rfl
      (World.trace_run volumeShelf_isLawful _
        (admits_reportedWorld creatingVolume [.reply (volumeReported 201 "Queued")])).1 "Queued"
    exact hreported.1 hqueued reports_creation_queued
  · have hreported := reported_state volumeSetting _ provisioningVolume _ _ _ rfl
      (World.trace_run volumeShelf_isLawful _
        (admits_reportedWorld provisioningVolume [.reply (volumeReported 200 "Queued")])).1 "Queued"
    exact hreported.2.1 reports_poll_queued

open Scripted in
/-- A creation and a poll do not make the same of a reported state: a volume that is queued is left
    in two phases, and one of which the creation has failed is written as created. -/
theorem reported_state_differs :
    (∃ a ∈ (reportedStory creatingVolume 201 "Queued").answers, a.Reports "POST" "Queued") ∧
    (∃ a ∈ (reportedStory provisioningVolume 200 "Queued").answers, a.Reports "GET" "Queued") ∧
    reportedPhase creatingVolume 201 "Queued" = some .created ∧
    reportedPhase provisioningVolume 200 "Queued" = some .provisioning ∧
    "Failed" ∈ remoteStates.failed ∧
    (∃ a ∈ (reportedStory creatingVolume 201 "Failed").answers, a.Reports "POST" "Failed") ∧
    reportedPhase creatingVolume 201 "Failed" = some .created ∧
    ((reportedStory creatingVolume 201 "Failed").after.bind fun v =>
      v.recordOrBlank.synchronized.map Condition.verdict) = some .holds := by
  refine ⟨reports_creation_queued, reports_poll_queued, by decide +kernel, by decide +kernel,
    by decide, ?_, by decide +kernel, by decide +kernel⟩
  have hdecoded : Gateway.decode RemoteVolume.ofJson? (volumeReported 201 "Failed").body =
      .ok ⟨⟨"v1", "disk"⟩, some "Failed"⟩ := by decide +kernel
  exact ⟨_, List.mem_of_getElem? (i := 5) rfl, _, _, _, _, _, rfl, rfl, rfl, hdecoded, rfl⟩

end CloudReconciler
