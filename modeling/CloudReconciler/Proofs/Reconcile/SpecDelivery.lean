import CloudReconciler.Proofs.Reconcile.PhaseGraph

/-! # Delivery of the spec — what the remote resource was last told

    The phase of a created object says that the remote resource matches the
    spec, and a later edit is noticed by the observed generation.  For
    projects this works: the body that was accepted last was built from the
    spec at the generation that is observed.

    A volume that is provisioned in the background is created from the
    object in its first request, and becomes a created one when a poll finds
    it ready.  The poll records the generation of the object that it read
    itself.  So an edit between the two is overtaken: it is recorded as
    observed, although no request has carried it, and nothing sends it
    afterwards.  This is the only way in which an edit is lost. -/

namespace CloudReconciler

variable {Spec St : Type}

/-- The body that was accepted last was built from the object. -/
def LastAccepted (document : Resource Spec St → Json) (h : List (Invocation (Resource Spec St)))
    (src : Resource Spec St) : Prop :=
  ∃ request, (accepted h).head? = some ⟨request, some src⟩ ∧
    request.body = some (Reply.compact (document src))

section

variable {document : Resource Spec St → Json} {h : List (Invocation (Resource Spec St))}
  {i : Invocation (Resource Spec St)} {o src src' : Resource Spec St}

/-- The body that was accepted last was built from one object. -/
theorem LastAccepted.unique (hsrc : LastAccepted document h src)
    (hsrc' : LastAccepted document h src') : src = src' := by
  obtain ⟨request, hr, -⟩ := hsrc
  obtain ⟨request', hr', -⟩ := hsrc'
  cases hr.symm.trans hr'
  rfl

/-- An invocation in which no body was accepted leaves the last one. -/
theorem LastAccepted.keep (hsrc : LastAccepted document h src)
    (hi : i.answers.filterMap EngineAnswer.accepted? = []) :
    LastAccepted document (i :: h) src := by
  obtain ⟨request, hr, hbody⟩ := hsrc
  refine ⟨request, ?_, hbody⟩
  rw [accepted, List.flatMap_cons, Invocation.accepted, hi]
  exact hr

/-- The body that an invocation has sent is the last one. -/
theorem LastAccepted.sent (hbefore : i.before = some o)
    (hi : ∃ request, i.answers.filterMap EngineAnswer.accepted? = [request] ∧
      request.body = some (Reply.compact (document o))) : LastAccepted document (i :: h) o := by
  obtain ⟨request, hr, hbody⟩ := hi
  refine ⟨request, ?_, hbody⟩
  rw [accepted, List.flatMap_cons, Invocation.accepted, hr, hbefore]
  rfl

end

/-- The body that was accepted last is the one that the object asks for at its generation. -/
def SpecDelivered (document : Resource Spec St → Json)
    (h : List (Invocation (Resource Spec St))) (o : Resource Spec St) : Prop :=
  ∃ src, LastAccepted document h src ∧ src.metadata.generation = o.metadata.generation ∧
    src.spec = o.spec ∧ document src = document o

theorem SpecDelivered.spec_eq {document : Resource Spec St → Json}
    {h : List (Invocation (Resource Spec St))} {o : Resource Spec St}
    (hd : SpecDelivered document h o) :
    ((accepted h).head?.bind Sent.source).map Resource.spec = some o.spec := by
  obtain ⟨src, ⟨request, hr, -⟩, -, hspec, -⟩ := hd
  rw [hr, ← hspec]
  rfl

variable [Managed Spec St]

/-- The object is created and its generation is the observed one, so no update is due. -/
def Resource.IsSteady (o : Resource Spec St) : Prop :=
  o.phase = .created ∧ o.recordOrBlank.observedGeneration = o.metadata.generation

/-- The object was last found created by a poll that read another generation than the one from which
    the creation was sent. -/
def Overtaken (document : Resource Spec St → Json)
    (h : List (Invocation (Resource Spec St))) : Prop :=
  ∃ i o src, h.find? (·.enters .created) = some i ∧ i.before = some o ∧
    o.phase = .provisioning ∧ LastAccepted document h src ∧
    src.metadata.generation ≠ o.metadata.generation

/-! ## Requests that are accepted -/

section

variable {k : Circumstances} {key : ObjectKey} {policy : Policy} {g : Gateway}
  {c : RemoteCalls Spec St} {o p : Resource Spec St} {w w₁ : Slot (Resource Spec St)}
  {τ : List (EngineAnswer (Resource Spec St))}

/-- Only creations and pushes carry a body. -/
theorem Involves.accepted?_eq_none {a : EngineAnswer (Resource Spec St)} (h : Involves k c o a)
    (hcreating : o.phase ≠ .creating) (hupdating : o.phase ≠ .updating) :
    a.accepted? = none := by
  cases h with
  | read | authenticated | written _ | unwritten => rfl
  | decided hp =>
      cases hp with
      | clock | project | checked | attached _ _ _ | released _ _ _ _ | refused => rfl
      | requested hreq _ =>
          cases hreq with
          | create hq => exact absurd hq hcreating
          | push hq => exact absurd hq hupdating
          | poll _ | remove _ => rfl

theorem Located.accepted_eq_nil {q : Placement (Resource Spec St)}
    {r : Outcome (Resource Spec St)} (h : Located k q w τ r w₁) :
    τ.filterMap EngineAnswer.accepted? = [] := by
  cases h with
  | here => rfl
  | found _ => rfl

theorem Timed.accepted_eq_nil {up : Bool} (h : Timed k policy o w τ up w₁) :
    τ.filterMap EngineAnswer.accepted? = [] := by
  cases h with
  | untimed _ => rfl
  | within _ _ _ _ => rfl
  | up _ _ _ _ => rfl

/-- A question with a body that comes to a value has sent one request, which was accepted. -/
theorem Asked.accepted_of_ok {α : Type} {ask : Ask α} {x : α} {method : Method} {body : Json}
    (h : Asked k g ask w τ (.ok x) w₁) (hneeds : ask.NeedsRequest)
    (hsends : ask.Sends method (some body)) (hmethod : method = "POST" ∨ method = "PUT") :
    ∃ request, τ.filterMap EngineAnswer.accepted? = [request] ∧
      request.body = some (Reply.compact body) := by
  cases ask with
  | known outcome =>
      obtain ⟨f, rfl⟩ := hneeds
      exact nomatch h
  | send m endpoint _ read =>
      obtain ⟨rfl, rfl⟩ := hsends
      obtain ⟨_, reply, bytes, w₂, rfl, ⟨_, _, rfl⟩, hbody, -⟩ := h.sent_of_ok
      have hcarries : (g.request m endpoint (some body)).carriesBody = true := by
        rcases hmethod with rfl | rfl
        · rfl
        · rfl
      -- neither method takes a missing resource for a success
      have hsuccess : Reply.isSuccess reply.status = true := by
        rcases Reply.isSuccess_or_isGone hbody with hs | hgone
        · exact hs
        · rcases hmethod with rfl | rfl
          · exact nomatch hgone
          · exact nomatch hgone
      have haccepted : EngineAnswer.accepted? (.aside
          (.remote (.send (g.request m endpoint (some body)))) (.reply (.ok reply)) w₂ :
            EngineAnswer (Resource Spec St)) = some (g.request m endpoint (some body)) := by
        show (if _ && Reply.isSuccess reply.status then some _ else none) = _
        rw [hcarries, hsuccess]
        rfl
      refine ⟨g.request m endpoint (some body), ?_, rfl⟩
      rw [List.filterMap_cons_none rfl, List.filterMap_cons_some haccepted]
      rfl

/-- Outside of the two phases, no body is sent. -/
theorem Invokes.accepted_eq_nil {s : Setting (Resource Spec St)} {result : Outcome Action}
    (h : Invokes s k key c (some o) τ result w) (hkey : o.key = key)
    (hcreating : o.phase ≠ .creating) (hupdating : o.phase ≠ .updating) :
    τ.filterMap EngineAnswer.accepted? = [] :=
  List.filterMap_eq_nil_iff.2 fun a ha =>
    (h.involves hkey a ha).accepted?_eq_none hcreating hupdating

/-- A creation or a push that succeeds has sent the document of the object that was read. -/
theorem Serves.accepted {t : Transition} {urgent : Bool}
    (h : Serves k key g c o w τ (.move t p urgent) w₁)
    (hphase : o.phase = .creating ∨ o.phase = .updating)
    (ht : t.phase = .created ∨ t.phase = .provisioning) :
    ∃ request, τ.filterMap EngineAnswer.accepted? = [request] ∧
      request.body = some (Reply.compact (c.document o)) := by
  -- a fault leaves the phase or fails the object
  have hfault : ∀ {q f}, t = .ofFault q f → q = .creating ∨ q = .updating → False := by
    rintro q f rfl (rfl | rfl)
    · rcases ht with ht | ht
      · exact Transition.ofFault_phase_ne (by decide) (by decide) ht
      · exact Transition.ofFault_phase_ne (by decide) (by decide) ht
    · rcases ht with ht | ht
      · exact Transition.ofFault_phase_ne (by decide) (by decide) ht
      · exact Transition.ofFault_phase_ne (by decide) (by decide) ht
  cases h with
  | unplaced _ _ => exact (hfault rfl (.inl rfl)).elim
  | uncreated _ _ _ => exact (hfault rfl (.inl rfl)).elim
  | created _ hl ha =>
      rw [List.filterMap_append, hl.accepted_eq_nil]
      exact ha.accepted_of_ok (c.create_needs _) (c.create_sends_placed hl.gives) (.inl rfl)
  | @pushed _ r _ _ ha =>
      cases r with
      | error f => exact (hfault rfl (.inr rfl)).elim
      | ok _ => exact ha.accepted_of_ok (c.push_needs o) (c.push_sends o) (.inr rfl)
  | guarded hq | guard hq | unguarded hq | polled hq | drifted hq | unremoved hq
  | unreleased hq =>
      rcases hphase with hp | hp
      · exact nomatch hp.symm.trans hq
      · exact nomatch hp.symm.trans hq

theorem Decides.accepted {t : Transition} {urgent : Bool}
    (h : Decides k key policy g c o w τ (.move t p urgent) w₁)
    (hphase : o.phase = .creating ∨ o.phase = .updating)
    (ht : t.phase = .created ∨ t.phase = .provisioning) :
    ∃ request, τ.filterMap EngineAnswer.accepted? = [request] ∧
      request.body = some (Reply.compact (c.document o)) := by
  cases h with
  | timedOut _ => exact ht.elim (fun h => nomatch h) fun h => nomatch h
  | marked _ _ _ _ => exact ht.elim (fun h => nomatch h) fun h => nomatch h
  | served htimed _ hs =>
      rw [List.filterMap_append, htimed.accepted_eq_nil]
      exact hs.accepted hphase ht

end

/-! ## Runs -/

/-- What a run has delivered for the object that is in the cluster. -/
structure Delivers (c : RemoteCalls Spec St) (h : List (Invocation (Resource Spec St)))
    (o : Resource Spec St) : Prop where
  /-- A provisioned object was created from a version of it. -/
  provisioning : o.phase = .provisioning → ∃ src, LastAccepted c.document h src ∧ src.Succeeds o
  /-- A created object was last found or made so in an invocation that observed the generation it
      read, and that had sent the body itself unless it was a poll. -/
  created : o.phase = .created → ∃ i e src, h.find? (·.enters .created) = some i ∧
    i.before = some e ∧ LastAccepted c.document h src ∧ src.Succeeds e ∧ e.Succeeds o ∧
    o.recordOrBlank.observedGeneration = e.metadata.generation ∧
    (e.phase ≠ .provisioning → src = e)

section

variable {s : Setting (Resource Spec St)} {k : Circumstances} {c : RemoteCalls Spec St}
  {start : Resource Spec St} {h : List (Invocation (Resource Spec St))}
  {stored : Option (Resource Spec St)} {i : Invocation (Resource Spec St)}
  {o n src : Resource Spec St}

/-- A later version with the same status has the same delivered for it. -/
theorem Delivers.later (hd : Delivers c h o) (hsucc : o.Succeeds n) (hs : n.status = o.status) :
    Delivers c h n := by
  have hphase : n.phase = o.phase := Resource.phase_congr hs
  refine ⟨fun hp => ?_, fun hp => ?_⟩
  · obtain ⟨src, hlast, hsrc⟩ := hd.provisioning (hphase.symm.trans hp)
    exact ⟨src, hlast, hsrc.trans hsucc⟩
  · obtain ⟨i, e, src, hfind, hbefore, hlast, hsrc, he, hobs, heq⟩ :=
      hd.created (hphase.symm.trans hp)
    refine ⟨i, e, src, hfind, hbefore, hlast, hsrc, he.trans hsucc, ?_, heq⟩
    rw [Resource.recordOrBlank_congr hs]
    exact hobs

/-- An invocation that leaves the object in its phase, or where nothing was delivered before. -/
theorem Delivers.still {after : Option (Resource Spec St)}
    {τ : List (EngineAnswer (Resource Spec St))} {result : Outcome Action} (hd : Delivers c h o)
    (hsucc : o.Succeeds n) (hs : n.status = o.status)
    (hi : o.phase ≠ .creating → o.phase ≠ .updating → τ.filterMap EngineAnswer.accepted? = []) :
    Delivers c (⟨some o, τ, result, after⟩ :: h) n := by
  have hphase : n.phase = o.phase := Resource.phase_congr hs
  have hn := hd.later hsucc hs
  refine ⟨fun hp => ?_, fun hp => ?_⟩
  · have ho := hphase.symm.trans hp
    obtain ⟨src, hlast, hsrc⟩ := hn.provisioning hp
    exact ⟨src, hlast.keep (hi (ho ▸ nofun) (ho ▸ nofun)), hsrc⟩
  · have ho := hphase.symm.trans hp
    obtain ⟨i, e, src, hfind, hbefore, hlast, hrest⟩ := hn.created hp
    refine ⟨i, e, src, ?_, hbefore, hlast.keep (hi (ho ▸ nofun) (ho ▸ nofun)), hrest⟩
    rw [List.find?_cons_of_neg, hfind]
    rw [Invocation.enters_iff]
    exact fun hent => hent.1 (congrArg some ho)

/-- An invocation that writes a transition of the object. -/
theorem Delivers.moved {key : ObjectKey} {policy : Policy} {g : Gateway}
    {w₀ w₁ : Slot (Resource Spec St)} {τ τ₁ : List (EngineAnswer (Resource Spec St))}
    {t : Transition} {p : Resource Spec St} {urgent : Bool} {now : Instant}
    {result : Outcome Action} {after : Option (Resource Spec St)} (hd : Delivers c h o)
    (hkey : o.key = key) (hshows : w₀.Shows k o)
    (hdec : Decides k key policy g c o w₀ τ₁ (.move t p urgent) w₁)
    (haccepted : τ.filterMap EngineAnswer.accepted? = τ₁.filterMap EngineAnswer.accepted?)
    (hquiet : o.phase ≠ .creating → o.phase ≠ .updating →
      τ.filterMap EngineAnswer.accepted? = [])
    (hafter : after = some n) (hsucc : o.Succeeds n) (hn : n.status = (t.recorded now p).status) :
    Delivers c (⟨some o, τ, result, after⟩ :: h) n := by
  have hdeparts := hdec.departs hkey
  have hphase : n.phase = t.phase := (Resource.phase_congr hn).trans (Resource.phase_recorded ..)
  have hobserved : n.recordOrBlank.observedGeneration = o.metadata.generation := by
    rw [Resource.recordOrBlank_congr hn, Resource.recordOrBlank_recorded]
    exact (hdec.continues hkey hshows).generation
  -- a body that was sent in this invocation
  have hsent : o.phase = .creating ∨ o.phase = .updating →
      t.phase = .created ∨ t.phase = .provisioning →
      LastAccepted c.document (⟨some o, τ, result, after⟩ :: h) o := by
    intro ho ht
    refine LastAccepted.sent rfl ?_
    rw [haccepted]
    exact hdec.accepted ho ht
  -- an earlier body, from which the provisioned object was created
  have hkept : o.phase = .provisioning → ∃ src,
      LastAccepted c.document (⟨some o, τ, result, after⟩ :: h) src ∧ src.Succeeds o := by
    intro ho
    obtain ⟨src, hlast, hsrc⟩ := hd.provisioning ho
    exact ⟨src, hlast.keep (hquiet (ho ▸ nofun) (ho ▸ nofun)), hsrc⟩
  refine ⟨fun hp => ?_, fun hp => ?_⟩
  · have ht := hphase.symm.trans hp
    -- the object was provisioned already, or this invocation has sent the creation
    rcases hdeparts.target.2 ht with ho | ⟨ho, -⟩
    · obtain ⟨src, hlast, hsrc⟩ := hkept ho
      exact ⟨src, hlast, hsrc.trans hsucc⟩
    · exact ⟨o, hsent (.inl ho) (.inr ht), hsucc⟩
  · have ht := hphase.symm.trans hp
    have hfrom := hdeparts.of_created ht
    have henters : (⟨some o, τ, result, after⟩ : Invocation (Resource Spec St)).enters .created =
        true := by
      refine Invocation.enters_iff.2 ⟨fun he => ?_, n, hafter, hp⟩
      have ho : o.phase = .created := Option.some.inj he
      rcases hfrom with hq | hq | hq
      · exact nomatch hq.symm.trans ho
      · exact nomatch hq.symm.trans ho
      · exact nomatch hq.symm.trans ho
    have hfind := List.find?_cons_of_pos (l := h) henters
    -- by a creation or a push of this invocation, or by a poll
    rcases hfrom with ho | ho | ho
    · exact ⟨_, o, o, hfind, rfl, hsent (.inl ho) (.inl ht), .refl o, hsucc, hobserved,
        fun _ => rfl⟩
    · exact ⟨_, o, o, hfind, rfl, hsent (.inr ho) (.inl ht), .refl o, hsucc, hobserved,
        fun _ => rfl⟩
    · obtain ⟨src, hlast, hsrc⟩ := hkept ho
      exact ⟨_, o, src, hfind, rfl, hlast, hsrc, hsucc, hobserved, fun hne => absurd ho hne⟩

theorem Runs.delivers (hr : Runs s k start h stored) (hl : s.lifecycle = c.lifecycle)
    (hstart : start.status = none) : ∀ o, stored = some o → Delivers c h o := by
  refine hr.invariant hl ?_ ?_ ?_
  · have hp := Resource.phase_of_status_none hstart
    exact ⟨fun h => (nomatch hp.symm.trans h), fun h => nomatch hp.symm.trans h⟩
  · exact fun _ o n hd he => hd.later he.toSucceeds he.status
  · intro _ o n τ result w hd hkey _ hi hn
    have hquiet := hi.accepted_eq_nil hkey
    cases hi.effect hkey with
    | still _ hkeeps =>
        obtain ⟨hsucc, hs, -⟩ := hkeeps n hn
        exact hd.still hsucc hs hquiet
    | moved hshows hdec _ haccepted _ _ hkeeps =>
        obtain ⟨hsucc, hs, -⟩ := hkeeps n hn
        exact hd.moved hkey hshows hdec haccepted hquiet hn hsucc hs

/-- The spec of a steady object has been delivered exactly if it was not overtaken. -/
theorem Delivers.iff (hd : Delivers c h o) (ho : o.IsSteady) :
    SpecDelivered c.document h o ↔ ¬ Overtaken c.document h := by
  obtain ⟨hphase, hobserved⟩ := ho
  obtain ⟨i, e, src, hfind, hbefore, hlast, hsrc, he, hobs, heq⟩ := hd.created hphase
  have hgen : o.metadata.generation = e.metadata.generation := hobserved.symm.trans hobs
  constructor
  · rintro ⟨src', hlast', hgen', -⟩ ⟨i', e', src'', hfind', hbefore', -, hlast'', hne⟩
    cases hfind.symm.trans hfind'
    cases hbefore.symm.trans hbefore'
    cases hlast.unique hlast'
    cases hlast.unique hlast''
    exact hne (hgen'.trans hgen)
  · intro hnot
    have hsame : src.metadata.generation = o.metadata.generation := by
      by_cases hpoll : e.phase = .provisioning
      · -- the poll would have overtaken an edit
        by_contra hne
        exact hnot ⟨i, e, src, hfind, hbefore, hpoll, hlast, fun h => hne (h.trans hgen.symm)⟩
      · rw [heq hpoll, hgen]
    have hsucc := hsrc.trans he
    have hspec := hsucc.spec_eq hsame.symm
    exact ⟨src, hlast, hsame, hspec.symm, (c.document_congr src o hsucc.key hspec).symm⟩

end

/-- In runs of projects from an object without status, the spec of a steady project has always been
    delivered; that of a steady volume has exactly if no edit was overtaken by the end of its
    provisioning. -/
theorem spec_delivery (k : Circumstances) :
    (∀ (s : Setting Project) (start : Project) (h : List (Invocation Project)) (o : Project),
      s.lifecycle = projectLifecycle → start.status = none → Runs s k start h (some o) →
      o.IsSteady → SpecDelivered (fun p : Project => (projectRequest p).toJson) h o) ∧
    (∀ (s : Setting Volume) (start : Volume) (h : List (Invocation Volume)) (o : Volume),
      s.lifecycle = volumeLifecycle → start.status = none → Runs s k start h (some o) →
      o.IsSteady →
      (SpecDelivered (fun v : Volume => (volumeRequest v).toJson) h o ↔
        ¬ Overtaken (fun v : Volume => (volumeRequest v).toJson) h)) := by
  constructor
  · intro s start h o hl hstart hr ho
    have hl' := hl.trans projectLifecycle_eq
    refine ((hr.delivers hl' hstart o rfl).iff ho).2 ?_
    -- a project is never provisioned
    rintro ⟨i, e, src, hfind, hbefore, hpoll, -, -⟩
    obtain ⟨h', hrun⟩ := hr.of_occurs (.inr ⟨i, List.mem_of_find?_eq_some hfind, .inl hbefore⟩)
    exact (hrun.phase_sound hl' hstart e rfl).2 hpoll
  · intro s start h o hl hstart hr ho
    exact (hr.delivers (hl.trans volumeLifecycle_eq) hstart o rfl).iff ho

/-! ## Stories with an edit -/

theorem Overtaken.polled {document : Resource Spec St → Json}
    {h : List (Invocation (Resource Spec St))} (ho : Overtaken document h) :
    ((h.find? (·.enters .created)).bind Invocation.before).map Resource.phase =
      some .provisioning := by
  obtain ⟨i, o, src, hfind, hbefore, hphase, -, -⟩ := ho
  rw [hfind, Option.bind_some, hbefore, Option.map_some, hphase]

instance (o : Resource Spec St) : Decidable o.IsSteady :=
  inferInstanceAs (Decidable (_ ∧ _))

namespace Scripted

/-- The spec of the new volume, with more space. -/
def largerVolume : VolumeSpec := { newVolume.spec with sizeGb := 20 }

/-- The project is created, edited and updated. -/
def projectEdited : List (Invocation Project) × World :=
  (projectWorld [.reply projectCreated, .reply ⟨204, []⟩]).story projectShelf projectSetting
    newProject.key 2 (·.respecified { newProject.spec with tags := [] } 2) 2

/-- The volume is created, edited and updated. -/
def volumeEdited : List (Invocation Volume) × World :=
  (volumeWorld [.reply (volumeReported 201 "InCreation"), .reply (volumeReported 200 "Available"),
    .reply ⟨204, []⟩]).story volumeShelf volumeSetting newVolume.key 3
      (·.respecified largerVolume 2) 2

/-- The volume is edited while it is provisioned. -/
def volumeOvertaken : List (Invocation Volume) × World :=
  (volumeWorld [.reply (volumeReported 201 "InCreation"),
    .reply (volumeReported 200 "Available")]).story volumeShelf volumeSetting newVolume.key 2
      (·.respecified largerVolume 2) 2

theorem runs_projectEdited : Runs projectSetting calm newProject projectEdited.1
    (projectEdited.2.slot projectShelf newProject.key).stored :=
  World.runs_story_respecified projectShelf_isLawful rfl (admits_projectWorld _) 2 2 _
    1 (by decide +kernel) (by decide)

theorem runs_volumeEdited : Runs volumeSetting calm newVolume volumeEdited.1
    (volumeEdited.2.slot volumeShelf newVolume.key).stored :=
  World.runs_story_respecified volumeShelf_isLawful rfl (admits_volumeWorld _) 3 2 _
    1 (by decide +kernel) (by decide)

theorem runs_volumeOvertaken : Runs volumeSetting calm newVolume volumeOvertaken.1
    (volumeOvertaken.2.slot volumeShelf newVolume.key).stored :=
  World.runs_story_respecified volumeShelf_isLawful rfl (admits_volumeWorld _) 2 2 _
    1 (by decide +kernel) (by decide)

end Scripted

open Scripted in
/-- A project and a volume that are edited after their creation end up with the edit delivered. -/
theorem spec_delivery_stories :
    (∃ p, (projectEdited.2.slot projectShelf newProject.key).stored = some p ∧ p.IsSteady ∧
      SpecDelivered (fun p : Project => (projectRequest p).toJson) projectEdited.1 p) ∧
    ∃ v, (volumeEdited.2.slot volumeShelf newVolume.key).stored = some v ∧ v.IsSteady ∧
      SpecDelivered (fun v : Volume => (volumeRequest v).toJson) volumeEdited.1 v := by
  constructor
  · have hany : (projectEdited.2.slot projectShelf newProject.key).stored.any
        (fun p => p.IsSteady) = true := by decide +kernel
    obtain ⟨p, hp, hsteady⟩ := (Option.any_eq_true _ _).1 hany
    have hsteady := of_decide_eq_true hsteady
    exact ⟨p, hp, hsteady, (spec_delivery calm).1 _ _ _ p rfl rfl (hp ▸ runs_projectEdited) hsteady⟩
  · have hany : (volumeEdited.2.slot volumeShelf newVolume.key).stored.any
        (fun v => v.IsSteady) = true := by decide +kernel
    have hupdated : ((volumeEdited.1.find? (·.enters .created)).bind Invocation.before).map
        Resource.phase = some .updating := by decide +kernel
    obtain ⟨v, hv, hsteady⟩ := (Option.any_eq_true _ _).1 hany
    have hsteady := of_decide_eq_true hsteady
    have hiff := (spec_delivery calm).2 _ _ _ v rfl rfl (hv ▸ runs_volumeEdited) hsteady
    exact ⟨v, hv, hsteady, hiff.2 fun ho => nomatch hupdated.symm.trans ho.polled⟩

open Scripted in
/-- The edit of a volume while it is provisioned is recorded as observed, and is not delivered. -/
theorem volume_edit_lost :
    Runs volumeSetting calm newVolume volumeOvertaken.1
        (volumeOvertaken.2.slot volumeShelf newVolume.key).stored ∧
      ∃ v, (volumeOvertaken.2.slot volumeShelf newVolume.key).stored = some v ∧ v.IsSteady ∧
        v.spec = largerVolume ∧
        ¬ SpecDelivered (fun v : Volume => (volumeRequest v).toJson) volumeOvertaken.1 v := by
  refine ⟨runs_volumeOvertaken, ?_⟩
  have hsource : ((accepted volumeOvertaken.1).head?.bind Sent.source).map Resource.spec =
      some newVolume.spec := by decide +kernel
  have hany : (volumeOvertaken.2.slot volumeShelf newVolume.key).stored.any (fun v =>
      v.IsSteady ∧ v.spec = largerVolume) = true := by decide +kernel
  obtain ⟨v, hv, hlost⟩ := (Option.any_eq_true _ _).1 hany
  obtain ⟨hsteady, hspec⟩ := of_decide_eq_true hlost
  refine ⟨v, hv, hsteady, hspec, fun hd => ?_⟩
  have hsame : newVolume.spec = largerVolume :=
    (Option.some.inj (hsource.symm.trans hd.spec_eq)).trans hspec
  exact absurd hsame (by decide)

end CloudReconciler
