import CloudReconciler.Proofs.Reconcile.RemoteAddress

/-! # Volume homes — a volume is addressed where it was created

    The project that a volume refers to is looked up again for every attempt
    to create it, and what was found is recorded even if the attempt fails.
    The invocation that records the identifier of the volume, though, also
    records the project of its own creation call (`Invocation.Founds`), in
    one status write.  From then on nothing changes either identifier, and
    every request is made to the address that the two of them form.

    * `Decides.founding`: a decision moves the recorded identifiers, or it
      founds the volume in the project that it has just created it in;
    * `HomeOutcome`: the same of a whole invocation;
    * `AtHome`: what holds after a run;
    * `Slot.surroundingsWith`: a store of projects with given contents,
      which only the phase of creation asks. -/

namespace CloudReconciler

open Procedure (Trace)

/-- The volume has recorded the remote project and the remote volume. -/
def Resource.LivesAt (v : Volume) (project volume : String) : Prop :=
  v.projectId? = some project ∧ v.recordOrBlank.resourceId = some volume

/-- The answer is to a creation in the project, with the identifier of the new volume. -/
def EngineAnswer.CreatesAt (s : Setting Volume) (project volume : String)
    (a : EngineAnswer Volume) : Prop :=
  ∃ request body created, a.call = .remote (.send request) ∧ request.method = "POST" ∧
    request.url = s.gateway.baseUrl ++ Gateway.volumesOf project ∧ a.creation? = some body ∧
    volumeCreation body = .ok created ∧ created.id = volume

/-- The invocation has created the volume in the project and has recorded both. -/
structure Invocation.Founds (s : Setting Volume) (i : Invocation Volume)
    (project volume : String) : Prop where
  created : ∃ a ∈ i.answers, a.CreatesAt s project volume
  persisted : ∃ write ∈ i.statusWrites, write.stored.LivesAt project volume

/-! ## Identifiers in a status -/

namespace Resource

variable {v n : Volume} {project volume : String}

@[simp] theorem projectId?_withProjectId (v : Volume) (project : String) :
    (v.withProjectId project).projectId? = some project := rfl

theorem LivesAt.congr (h : v.LivesAt project volume) (hs : n.status = v.status) :
    n.LivesAt project volume := by
  refine ⟨?_, (congrArg Status.resourceId (recordOrBlank_congr hs)).trans h.2⟩
  rw [projectId?, hs]
  exact h.1

theorem LivesAt.recorded (h : v.LivesAt project volume) (t : Transition) (now : Instant) :
    (t.recorded now v).LivesAt project volume := by
  refine ⟨(v.projectId?_withRecord _).trans h.1, ?_⟩
  rw [recordOrBlank_recorded]
  exact h.2

theorem livesAt_named (v : Volume) (project volume : String) :
    ((v.withProjectId project).named volume).LivesAt project volume := by
  refine ⟨projectId?_withRecord _ _, ?_⟩
  rw [named, recordOrBlank, record?_withRecord, Option.getD_some]

theorem LivesAt.eq {project' volume' : String} (h : v.LivesAt project volume)
    (h' : v.LivesAt project' volume') : project' = project ∧ volume' = volume :=
  ⟨Option.some.inj (h'.1.symm.trans h.1), Option.some.inj (h'.2.symm.trans h.2)⟩

/-- The identifiers that a volume is addressed by are the recorded ones. -/
theorem livesAt_of_remoteIds? (h : v.remoteIds? = some (project, volume)) :
    v.LivesAt project volume := by
  rw [remoteIds?] at h
  cases hproject : v.projectId? with
  | none =>
      rw [hproject] at h
      cases h
  | some p =>
      cases hvolume : v.remoteId? with
      | none =>
          rw [hproject, hvolume] at h
          cases h
      | some id =>
          rw [hproject, hvolume] at h
          cases h
          exact ⟨hproject, (remoteId?_eq_some.1 hvolume).1⟩

end Resource

/-! ## One invocation -/

/-- The question is a creation, or is put to the address that the volume has recorded, if it sends a
    request at all. -/
def Ask.HeadsHome {α : Type} (v : Volume) : Ask α → Prop
  | .known _ => True
  | .send method endpoint _ _ => method = "POST" ∨
      ∃ project volume, v.LivesAt project volume ∧ endpoint = Gateway.volumeAt project volume

theorem volumeCalls_poll_headsHome {v : Volume} {ask : Ask (Option String)}
    (h : volumeCalls.poll v = some ask) : ask.HeadsHome v := by
  obtain rfl := Option.some.inj h
  cases hids : v.remoteIds? with
  | none => trivial
  | some ids => exact .inr ⟨_, _, Resource.livesAt_of_remoteIds? hids, rfl⟩

theorem volumeCalls_push_headsHome (v : Volume) : (volumeCalls.push v).HeadsHome v := by
  unfold volumeCalls
  dsimp only
  split
  · trivial
  · next project volume hids => exact .inr ⟨_, _, Resource.livesAt_of_remoteIds? hids, rfl⟩

theorem volumeCalls_remove_headsHome (v : Volume) : (volumeCalls.remove v).HeadsHome v := by
  have haddress : volumeCalls.address v =
      v.remoteIds?.map fun ids => Gateway.volumeAt ids.1 ids.2 := rfl
  rw [RemoteCalls.remove, haddress]
  cases hids : v.remoteIds? with
  | none => trivial
  | some ids => exact .inr ⟨_, _, Resource.livesAt_of_remoteIds? hids, rfl⟩

section

variable {s : Setting Volume} {k : Circumstances} {key : ObjectKey} {policy : Policy} {g : Gateway}
  {o p : Volume} {w w₁ : Slot Volume} {τ : List (EngineAnswer Volume)} {t : Transition}
  {urgent : Bool} {result : Outcome Action} {a : EngineAnswer Volume} {request : Request}

/-- Where an answer takes the volume to be: a request that is no creation goes to its recorded
    address, and only the phase of creation asks for its project. -/
structure EngineAnswer.GoesHome (baseUrl : String) (o : Volume) (a : EngineAnswer Volume) :
    Prop where
  request : ∀ request, a.call = .remote (.send request) → request.method ≠ "POST" →
    ∃ project volume, o.LivesAt project volume ∧
      request.url = baseUrl ++ Gateway.volumeAt project volume
  project : ∀ namespace_ name, a.call = .fetchProject namespace_ name → o.phase = .creating

/-- Other calls have nothing to do with where the volume lives. -/
theorem EngineAnswer.goesHome_of {baseUrl : String}
    (hsend : ∀ request, a.call ≠ .remote (.send request))
    (hproject : ∀ namespace_ name, a.call ≠ .fetchProject namespace_ name) :
    a.GoesHome baseUrl o :=
  ⟨fun request hcall => absurd hcall (hsend request),
    fun namespace_ name hcall => absurd hcall (hproject namespace_ name)⟩

theorem Asked.goesHome {α : Type} {ask : Ask α} {r : Outcome α} (h : Asked k g ask w τ r w₁)
    (hask : ask.HeadsHome o) : ∀ a ∈ τ, a.GoesHome g.baseUrl o := by
  have hchecked : ∀ stopped w, EngineAnswer.GoesHome g.baseUrl o
      (.aside (.remote .isCancelled) stopped w) := fun _ _ =>
    EngineAnswer.goesHome_of (fun _ hcall => nomatch hcall) fun _ _ hcall => nomatch hcall
  cases h with
  | known | unconfigured => exact fun a ha => absurd ha List.not_mem_nil
  | cancelled _ => exact List.forall_mem_singleton.2 (hchecked _ _)
  | sent _ _ =>
      refine List.forall_mem_cons.2 ⟨hchecked _ _, List.forall_mem_singleton.2 ?_⟩
      refine ⟨?_, fun _ _ hcall => nomatch hcall⟩
      rintro request hcall hpost
      cases hcall
      rcases hask with hmethod | ⟨project, volume, hlives, rfl⟩
      · exact absurd hmethod hpost
      · exact ⟨project, volume, hlives, rfl⟩

theorem Located.goesHome {q : Placement Volume} {r : Outcome Volume} {baseUrl : String}
    (h : Located k q w τ r w₁) (hp : o.phase = .creating) : ∀ a ∈ τ, a.GoesHome baseUrl o := by
  cases h with
  | here => exact fun a ha => absurd ha List.not_mem_nil
  | found _ =>
      refine List.forall_mem_singleton.2 ⟨?_, fun _ _ _ => hp⟩
      exact fun _ hcall => nomatch hcall

theorem Timed.goesHome {up : Bool} {baseUrl : String} (h : Timed k policy o w τ up w₁) :
    ∀ a ∈ τ, a.GoesHome baseUrl o := by
  have hclock : ∀ now w, EngineAnswer.GoesHome baseUrl o (.aside .now now w) := fun _ _ =>
    EngineAnswer.goesHome_of (fun _ hcall => nomatch hcall) fun _ _ hcall => nomatch hcall
  cases h with
  | untimed _ => exact fun a ha => absurd ha List.not_mem_nil
  | within _ _ _ _ => exact List.forall_mem_singleton.2 (hclock _ _)
  | up _ _ _ _ => exact List.forall_mem_singleton.2 (hclock _ _)

theorem Serves.goesHome {d : Decision Volume} (h : Serves k key g volumeCalls o w τ d w₁) :
    ∀ a ∈ τ, a.GoesHome g.baseUrl o := by
  have hupdate : ∀ p reply (w w₁ : Slot Volume),
      EngineAnswer.GoesHome g.baseUrl o ⟨.update p, reply, w, w₁⟩ := fun _ _ _ _ =>
    EngineAnswer.goesHome_of (fun _ hcall => nomatch hcall) fun _ _ hcall => nomatch hcall
  have hcreate : ∀ q, (volumeCalls.create q).HeadsHome o := fun _ => .inl rfl
  cases h with
  | guarded _ _ | unpolled _ _ | current _ _ | drifted _ _ | ended _ =>
      exact fun a ha => absurd ha List.not_mem_nil
  | guard _ _ _ _ => exact List.forall_mem_singleton.2 (hupdate _ _ _ _)
  | unguarded _ _ _ _ => exact List.forall_mem_singleton.2 (hupdate _ _ _ _)
  | unplaced hp hl => exact hl.goesHome hp
  | uncreated hp hl ha =>
      exact List.forall_mem_append.2 ⟨hl.goesHome hp, ha.goesHome (hcreate _)⟩
  | created hp hl ha =>
      exact List.forall_mem_append.2 ⟨hl.goesHome hp, ha.goesHome (hcreate _)⟩
  | polled _ hask ha => exact ha.goesHome (volumeCalls_poll_headsHome hask)
  | pushed _ ha => exact ha.goesHome (volumeCalls_push_headsHome o)
  | unremoved _ ha => exact ha.goesHome (volumeCalls_remove_headsHome o)
  | removed _ ha _ => exact ha.goesHome (volumeCalls_remove_headsHome o)
  | released _ ha _ _ _ | gone _ ha _ _ _ _ | unreleased _ ha _ _ _ _ =>
      refine List.forall_mem_append.2 ⟨ha.goesHome (volumeCalls_remove_headsHome o), ?_⟩
      exact List.forall_mem_singleton.2 (hupdate _ _ _ _)

theorem Settles.goesHome {d : Decision Volume} {baseUrl : String}
    (h : Settles k key policy d w τ result w₁) : ∀ a ∈ τ, a.GoesHome baseUrl o := by
  have hclock : ∀ now w, EngineAnswer.GoesHome baseUrl o (.aside .now now w) := fun _ _ =>
    EngineAnswer.goesHome_of (fun _ hcall => nomatch hcall) fun _ _ hcall => nomatch hcall
  have hwrite : ∀ p reply (w w₁ : Slot Volume),
      EngineAnswer.GoesHome baseUrl o ⟨.updateStatus p, reply, w, w₁⟩ := fun _ _ _ _ =>
    EngineAnswer.goesHome_of (fun _ hcall => nomatch hcall) fun _ _ hcall => nomatch hcall
  cases h with
  | rest => exact fun a ha => absurd ha List.not_mem_nil
  | deferred _ _ => exact List.forall_mem_singleton.2 (hclock _ _)
  | written _ _ _ _ | refused _ _ _ _ =>
      exact List.forall_mem_cons.2 ⟨hclock _ _, List.forall_mem_singleton.2 (hwrite _ _ _ _)⟩

/-- Every request of an invocation is a creation, or goes where the volume lives. -/
theorem Invokes.goesHome (h : Invokes s k key volumeCalls (some o) τ result w) :
    ∀ a ∈ τ, a.GoesHome s.gateway.baseUrl o := by
  have hfetch : ∀ reply w, EngineAnswer.GoesHome s.gateway.baseUrl o
      (.aside (.fetch key.1 key.2) reply w) := fun _ _ =>
    EngineAnswer.goesHome_of (fun _ hcall => nomatch hcall) fun _ _ hcall => nomatch hcall
  have hauth : ∀ tenant reply w, EngineAnswer.GoesHome s.gateway.baseUrl o
      (.aside (.authenticate tenant) reply w) := fun _ _ _ =>
    EngineAnswer.goesHome_of (fun _ hcall => nomatch hcall) fun _ _ hcall => nomatch hcall
  cases h with
  | unread _ _ => exact List.forall_mem_singleton.2 (hfetch _ _)
  | tenantless _ _ _ => exact List.forall_mem_singleton.2 (hfetch _ _)
  | unauthenticated _ _ =>
      exact List.forall_mem_cons.2 ⟨hfetch _ _, List.forall_mem_singleton.2 (hauth _ _ _)⟩
  | decided _ _ _ hdec hset =>
      refine List.forall_mem_cons.2 ⟨hfetch _ _, List.forall_mem_cons.2 ⟨hauth _ _ _, ?_⟩⟩
      refine List.forall_mem_append.2 ⟨?_, hset.goesHome⟩
      cases hdec with
      | timedOut ht => exact ht.goesHome
      | marked ht _ _ _ => exact ht.goesHome
      | served ht _ hs => exact List.forall_mem_append.2 ⟨ht.goesHome, hs.goesHome⟩

/-! ### The founding creation -/

/-- The request that creates a placed volume goes to the project that it was placed in. -/
theorem Asked.createsIn {q : Volume} {r : Outcome Creation} {project : String}
    (h : Asked k g (volumeCalls.create q) w τ r w₁) (hq : q.projectId? = some project) :
    ∀ a ∈ τ, ∀ request, a.call = .remote (.send request) →
      request.url = g.baseUrl ++ Gateway.volumesOf project := by
  have hcreate : volumeCalls.create q = .send "POST" (Gateway.volumesOf project)
      (some (volumeRequest q).toJson) volumeCreation := by
    show Ask.send "POST" (Gateway.volumesOf (q.projectId?.getD "")) _ _ = _
    rw [hq]
    rfl
  rw [hcreate] at h
  cases h with
  | unconfigured => exact fun a ha => absurd ha List.not_mem_nil
  | cancelled _ => exact List.forall_mem_singleton.2 fun _ hcall => nomatch hcall
  | sent _ _ =>
      refine List.forall_mem_cons.2 ⟨?_, List.forall_mem_singleton.2 ?_⟩
      · exact fun _ hcall => nomatch hcall
      · intro request hcall
        cases hcall
        rfl

/-- A placed volume has recorded the project that it was placed in. -/
theorem volumeCalls_gives {q : Volume} (h : (volumeCalls.placement o).Gives q) :
    ∃ project, q = o.withProjectId project := by
  obtain ⟨reply, hq⟩ := h
  obtain ⟨_, project, -, -, rfl⟩ := placeVolume_ok hq
  exact ⟨project, rfl⟩

/-- In the phase of creation, requests go to the project that is recorded with the move. -/
theorem Serves.createsIn (h : Serves k key g volumeCalls o w τ (.move t p urgent) w₁)
    (hp : o.phase = .creating) (ha : a ∈ τ) {request : Request}
    (hcall : a.call = .remote (.send request)) :
    ∃ project, p.projectId? = some project ∧
      request.url = g.baseUrl ++ Gateway.volumesOf project := by
  have hlocated : ∀ {q : Placement Volume} {r τ} {w w₁ : Slot Volume},
      Located k q w τ r w₁ → a ∉ τ := by
    intro q r τ w w₁ hl hmem
    cases hl with
    | here => exact absurd hmem List.not_mem_nil
    | found _ =>
        cases List.mem_singleton.1 hmem
        exact nomatch hcall
  cases h with
  | unplaced _ hl => exact absurd ha (hlocated hl)
  | uncreated _ hl hc =>
      obtain ⟨project, rfl⟩ := volumeCalls_gives hl.gives
      have hmem := (List.mem_append.1 ha).resolve_left (hlocated hl)
      exact ⟨project, rfl, hc.createsIn rfl a hmem request hcall⟩
  | created _ hl hc =>
      obtain ⟨project, hq⟩ := volumeCalls_gives hl.gives
      subst hq
      have hmem := (List.mem_append.1 ha).resolve_left (hlocated hl)
      exact ⟨project, Resource.projectId?_withRecord _ _, hc.createsIn rfl a hmem request hcall⟩
  | guarded hq | guard hq | unguarded hq | polled hq | pushed hq | drifted hq | unremoved hq
  | unreleased hq => exact nomatch hp.symm.trans hq

/-- What a decision makes of where the volume lives: nothing, or a home, where it has just been
    created. -/
inductive Houses (s : Setting Volume) (o p : Volume) (t : Transition)
    (τ : List (EngineAnswer Volume)) : Prop
  | kept : p.recordOrBlank = o.recordOrBlank → (o.phase ≠ .creating → p.status = o.status) →
      Houses s o p t τ
  | given {project volume} : o.phase = .creating → (∃ a ∈ τ, a.CreatesAt s project volume) →
      p.LivesAt project volume → t.phase.HasRemote → Houses s o p t τ

theorem Decides.houses {token : String}
    (h : Decides k key policy (s.gateway.authorized token) volumeCalls o w τ (.move t p urgent) w₁)
    (hkey : o.key = key) (hw : w.Shows k o) : Houses s o p t τ := by
  have hbegets := h.begets volumeCalls_reads hkey hw
  generalize hbodies : creationsOf τ = bodies at hbegets
  cases hbegets with
  | unborn _ hrecord hstatus _ => exact .kept hrecord hstatus
  | @born body r q hp hread hq hnamed ht =>
      obtain ⟨project, rfl⟩ := volumeCalls_gives hq
      have hlives : p.LivesAt project r.id := hnamed ▸ o.livesAt_named project r.id
      refine .given hp ?_ hlives (ht ▸ Transition.hasRemote_ofCreation r.state)
      have hbody : body ∈ τ.filterMap EngineAnswer.creation? := by
        rw [← creationsOf, hbodies]
        exact List.mem_singleton_self body
      obtain ⟨a, ha, hcreation⟩ := List.mem_filterMap.1 hbody
      obtain ⟨request, hcall, hpost⟩ := EngineAnswer.isCreate_of_creation? hcreation
      refine ⟨a, ha, request, body, r, hcall, hpost, ?_, hcreation, hread, rfl⟩
      -- the clock is no request, so the creation was asked while the phase was served
      cases h with
      | timedOut ht => exact absurd ⟨request, hcall⟩ (ht.not_isRequest a ha)
      | marked ht _ _ _ => exact absurd ⟨request, hcall⟩ (ht.not_isRequest a ha)
      | served ht _ hs =>
          rcases List.mem_append.1 ha with ha | ha
          · exact absurd ⟨request, hcall⟩ (ht.not_isRequest a ha)
          · obtain ⟨project', hproject, hurl⟩ := hs.createsIn hp ha hcall
            cases hlives.1.symm.trans hproject
            exact hurl

/-- More answers do not take a home away. -/
theorem Houses.mono {τ' : List (EngineAnswer Volume)} (h : Houses s o p t τ) (hτ : τ ⊆ τ') :
    Houses s o p t τ' := by
  cases h with
  | kept hrecord hstatus => exact .kept hrecord hstatus
  | given hp hcreates hlives hremote =>
      obtain ⟨a, ha, hcreate⟩ := hcreates
      exact .given hp ⟨a, hτ ha, hcreate⟩ hlives hremote

/-- What an invocation that has read the volume leaves of where it lives. -/
inductive HomeOutcome (s : Setting Volume) (k : Circumstances) (o : Volume)
    (τ : List (EngineAnswer Volume)) (w : Slot Volume) : Prop
  | still : statusWritesFrom none τ = [] → w.Keeps k o o.status → HomeOutcome s k o τ w
  | written {t p now n} : Houses s o p t τ → (t.phase.IsPending → o.phase.IsPending) →
      statusWritesFrom none τ = [⟨some now, t.recorded now p, n⟩] →
      n.status = (t.recorded now p).status → w.Keeps k o (t.recorded now p).status →
      HomeOutcome s k o τ w

theorem Invokes.homeOutcome (h : Invokes s k key volumeCalls (some o) τ result w)
    (hkey : o.key = key) : HomeOutcome s k o τ w := by
  cases h with
  | unread _ hd => exact .still rfl (Slot.Shows.untouched.drifts hd).keeps
  | tenantless _ _ hd => exact .still rfl (Slot.Shows.untouched.drifts hd).keeps
  | unauthenticated hd hd' =>
      exact .still rfl ((Slot.Shows.untouched.drifts hd).drifts hd').keeps
  | @decided _ _ _ _ τ₁ _ _ τ₂ _ _ _ hd₀ hd₁ hdec hset =>
      have hshows := (Slot.Shows.untouched.drifts hd₀).drifts hd₁
      have hkeeps := hdec.keeps hkey hshows
      obtain ⟨last, hlast⟩ := statusWritesFrom_append (τ := τ₁) fun a ha =>
        (hdec.performs hkey hshows a ha).not_isStatusWrite
      cases hset with
      | rest => exact .still (hlast _) hkeeps
      | deferred _ hd => exact .still (hlast _) (hkeeps.drifts hd)
      | refused _ hd hw hd' =>
          cases hw.error ((hdec.continues hkey hshows).key.trans hkey)
          exact .still (hlast _) ((hkeeps.drifts hd).drifts hd')
      | written _ hd hw hd' =>
          have hp := (hdec.continues hkey hshows).key.trans hkey
          have hwritten := (hkeeps.drifts hd).written hw hp
          obtain ⟨cur, stale, rfl, rfl, -, hs⟩ := hw.ok hp
          refine .written ((hdec.houses hkey hshows).mono ?_) (hdec.departs hkey).isPending
            (hlast _) hs (hwritten.drifts hd')
          exact fun a ha =>
            List.mem_cons_of_mem _ (List.mem_cons_of_mem _ (List.mem_append_left _ ha))

end

/-! ## Runs -/

/-- What is known of where the volume lives in a run: where it was founded, and nowhere before. -/
structure AtHome (s : Setting Volume) (h : List (Invocation Volume)) (o : Volume) : Prop where
  founded : ∀ i ∈ h, ∀ project volume, i.Founds s project volume →
    o.LivesAt project volume ∧ ¬ o.phase.IsPending
  recorded : ∀ volume, o.recordOrBlank.resourceId = some volume →
    ∃ i ∈ h, ∃ project, i.Founds s project volume

section

variable {s : Setting Volume} {k : Circumstances} {key : ObjectKey} {start o n p : Volume}
  {h later earlier : List (Invocation Volume)} {stored : Option Volume} {w : Slot Volume}
  {i j : Invocation Volume} {project volume : String} {τ : List (EngineAnswer Volume)}
  {result : Outcome Action} {t : Transition}

theorem AtHome.congr (ha : AtHome s h o) (hs : n.status = o.status) : AtHome s h n where
  founded i hi project volume hfounds := by
    obtain ⟨hlives, hpending⟩ := ha.founded i hi project volume hfounds
    rw [Resource.phase_congr hs]
    exact ⟨hlives.congr hs, hpending⟩
  recorded volume hvolume := by
    rw [Resource.recordOrBlank_congr hs] at hvolume
    exact ha.recorded volume hvolume

/-- Nothing has been founded as long as the volume waits to be created. -/
theorem AtHome.not_founds (ha : AtHome s h o) (hp : o.phase.IsPending) (hi : i ∈ h) :
    ¬ i.Founds s project volume := fun hfounds =>
  (ha.founded i hi project volume hfounds).2 hp

/-- A volume is founded in the phase of creation. -/
theorem Invocation.Founds.phase (hfounds : i.Founds s project volume)
    (hi : Invokes s k key volumeCalls (some o) i.answers i.result w) (hkey : o.key = key) :
    o.phase = .creating := by
  obtain ⟨a, ha, request, _, _, hcall, hpost, -⟩ := hfounds.created
  exact ((hi.involves hkey a ha).creates hcall hpost).1

/-- An invocation without a status write founds nothing. -/
theorem Invocation.not_founds_of_still (hi : statusWritesFrom none i.answers = []) :
    ¬ i.Founds s project volume := by
  rintro ⟨-, write, hwrite, -⟩
  rw [statusWrites, hi] at hwrite
  exact List.not_mem_nil hwrite

/-- What an invocation founds is where the volume is that it has written. -/
theorem Invocation.Founds.livesAt {write : StatusWrite Volume}
    (hfounds : i.Founds s project volume) (hi : statusWritesFrom none i.answers = [write]) :
    write.stored.LivesAt project volume := by
  obtain ⟨-, write', hwrite, hlives⟩ := hfounds
  rw [statusWrites, hi] at hwrite
  cases List.mem_singleton.1 hwrite
  exact hlives

/-- Answers that leave the identifiers as they are found nothing: in the phase of creation there
    is no identifier yet. -/
theorem AtHome.not_founds_of_kept {write : StatusWrite Volume} (ha : AtHome s h o)
    (hphase : i.Founds s project volume → o.phase = .creating)
    (hi : statusWritesFrom none i.answers = [write])
    (hrecord : write.stored.recordOrBlank.resourceId = o.recordOrBlank.resourceId) :
    ¬ i.Founds s project volume := by
  intro hfounds
  obtain ⟨-, hvolume⟩ := hfounds.livesAt hi
  rw [hrecord] at hvolume
  obtain ⟨j, hj, _, hfounded⟩ := ha.recorded volume hvolume
  exact ha.not_founds (.inr (hphase hfounds)) hj hfounded

/-- An invocation that founds nothing leaves what is known. -/
theorem AtHome.cons (ha : AtHome s h o)
    (hi : ∀ project volume, ¬ i.Founds s project volume) : AtHome s (i :: h) o where
  founded := List.forall_mem_cons.2 ⟨fun _ _ hfounds => absurd hfounds (hi _ _), ha.founded⟩
  recorded volume hvolume := by
    obtain ⟨j, hj, hfounds⟩ := ha.recorded volume hvolume
    exact ⟨j, List.mem_cons_of_mem _ hj, hfounds⟩

/-- A transition leaves both identifiers. -/
theorem AtHome.moved {now : Instant} (ha : AtHome s h o)
    (hrecord : p.recordOrBlank = o.recordOrBlank)
    (hstatus : o.phase ≠ .creating → p.status = o.status)
    (hpending : t.phase.IsPending → o.phase.IsPending) : AtHome s h (t.recorded now p) where
  founded i hi project volume hfounds := by
    obtain ⟨hlives, hnot⟩ := ha.founded i hi project volume hfounds
    have hp : p.LivesAt project volume :=
      hlives.congr (hstatus fun hcreating => hnot (.inr hcreating))
    rw [Resource.phase_recorded]
    exact ⟨hp.recorded t now, fun ht => hnot (hpending ht)⟩
  recorded volume hvolume := by
    rw [Resource.recordOrBlank_recorded, hrecord] at hvolume
    exact ha.recorded volume hvolume

/-- The creation that is recorded founds the volume, which has not been founded before. -/
theorem AtHome.housed {now : Instant} {m : Volume} (ha : AtHome s h o) (hp : o.phase = .creating)
    (hcreates : ∃ a ∈ i.answers, a.CreatesAt s project volume) (hlives : p.LivesAt project volume)
    (hremote : t.phase.HasRemote)
    (hwrites : statusWritesFrom none i.answers = [⟨some now, t.recorded now p, m⟩])
    (hm : m.status = (t.recorded now p).status) : AtHome s (i :: h) (t.recorded now p) := by
  have hwritten : (t.recorded now p).LivesAt project volume := hlives.recorded t now
  constructor
  · refine List.forall_mem_cons.2 ⟨fun project' volume' hfounds => ?_, ?_⟩
    · obtain ⟨rfl, rfl⟩ := (hwritten.congr hm).eq (hfounds.livesAt hwrites)
      rw [Resource.phase_recorded]
      exact ⟨hwritten, hremote.not_isPending⟩
    · exact fun j hj _ _ hfounds => absurd hfounds (ha.not_founds (.inr hp) hj)
  · intro volume' hvolume
    cases hwritten.2.symm.trans hvolume
    have hmem : (⟨some now, t.recorded now p, m⟩ : StatusWrite Volume) ∈ i.statusWrites := by
      rw [Invocation.statusWrites, hwrites]
      exact List.mem_singleton_self _
    exact ⟨i, List.mem_cons_self .., project, hcreates, _, hmem, hwritten.congr hm⟩

theorem AtHome.invoked (ha : AtHome s h o) (hkey : o.key = key)
    (hi : Invokes s k key volumeCalls (some o) τ result w) (hn : w.stored = some n) :
    AtHome s (⟨some o, τ, result, w.stored⟩ :: h) n := by
  cases hi.homeOutcome hkey with
  | still hnone hkeeps =>
      exact (ha.congr (hkeeps n hn).2.1).cons fun _ _ => Invocation.not_founds_of_still hnone
  | @written t p now m hhouses hpending hwrites hm hkeeps =>
      refine AtHome.congr ?_ (hkeeps n hn).2.1
      cases hhouses with
      | kept hrecord hstatus =>
          refine (ha.moved hrecord hstatus hpending).cons fun project volume => ?_
          refine ha.not_founds_of_kept (fun hfounds => hfounds.phase hi hkey) hwrites ?_
          rw [Resource.recordOrBlank_congr hm, Resource.recordOrBlank_recorded, hrecord]
          rfl
      | given hp hcreates hlives hremote =>
          exact ha.housed hp hcreates hlives hremote hwrites hm

/-- What is known of where the volume lives throughout its run. -/
theorem Runs.atHome (hr : Runs s k start h stored) (hl : s.lifecycle = volumeCalls.lifecycle)
    (hstart : start.status = none) : ∀ o, stored = some o → AtHome s h o := by
  refine hr.invariant hl ⟨fun _ hi => absurd hi List.not_mem_nil, ?_⟩ ?_ ?_
  · intro volume hvolume
    rw [Resource.recordOrBlank, Resource.record?, hstart] at hvolume
    cases hvolume
  · exact fun _ o n ha he => ha.congr he.status
  · exact fun _ o n τ result w ha hkey _ hi hn => ha.invoked hkey hi hn

end

/-- The invocation comes after the volume was founded and leaves it where it lives. -/
structure Invocation.KeepsHome (s : Setting Volume) (j : Invocation Volume)
    (project volume : String) : Prop where
  founds_not : ∀ project' volume', ¬ j.Founds s project' volume'
  before : ∀ o, j.before = some o → o.LivesAt project volume
  written : ∀ write ∈ j.statusWrites, write.stored.LivesAt project volume
  after : ∀ o, j.after = some o → o.LivesAt project volume

/-- What a run says about where its volume lives. -/
structure StaysHome (s : Setting Volume) (h : List (Invocation Volume)) (stored : Option Volume) :
    Prop where
  /-- A request that is no creation is made where an earlier invocation has founded the volume. -/
  addressed : ∀ later j earlier, h = later ++ j :: earlier → ∀ a ∈ j.answers, ∀ request,
    a.call = .remote (.send request) → request.method ≠ "POST" →
    ∃ i ∈ earlier, ∃ project volume, i.Founds s project volume ∧
      request.url = s.gateway.baseUrl ++ Gateway.volumeAt project volume
  /-- Once it has been founded, the volume keeps its identifiers. -/
  kept : ∀ later i earlier project volume, h = later ++ i :: earlier →
    i.Founds s project volume →
    (∀ o, i.after = some o ∨ stored = some o → o.LivesAt project volume) ∧
      ∀ j ∈ later, j.KeepsHome s project volume

section

variable {s : Setting Volume} {k : Circumstances} {key : ObjectKey} {start o n p : Volume}
  {h later earlier : List (Invocation Volume)} {stored : Option Volume} {w : Slot Volume}
  {i j : Invocation Volume} {project volume : String} {τ : List (EngineAnswer Volume)}
  {result : Outcome Action} {t : Transition}

/-- An invocation on a volume that has been founded keeps its home. -/
theorem AtHome.keepsHome (ha : AtHome s h o) (hi : i ∈ h) (hfounds : i.Founds s project volume)
    (hkey : o.key = key) (hbefore : j.before = some o)
    (hj : Invokes s k key volumeCalls (some o) j.answers j.result w) (hafter : j.after = w.stored) :
    j.KeepsHome s project volume := by
  obtain ⟨hlives, hpending⟩ := ha.founded i hi project volume hfounds
  have hphase : o.phase ≠ .creating := fun hp => hpending (.inr hp)
  have hstatus : (∀ write ∈ j.statusWrites, write.stored.LivesAt project volume) ∧
      ∀ n, j.after = some n → n.LivesAt project volume := by
    rw [hafter, Invocation.statusWrites]
    cases hj.homeOutcome hkey with
    | still hnone hkeeps =>
        rw [hnone]
        exact ⟨fun _ hw => absurd hw List.not_mem_nil,
          fun n hn => hlives.congr (hkeeps n hn).2.1⟩
    | @written t p now m hhouses _ hwrites hm hkeeps =>
        cases hhouses with
        | given hp _ _ _ => exact absurd hp hphase
        | kept _ hsame =>
            have hwritten := (hlives.congr (hsame hphase)).recorded t now
            rw [hwrites]
            exact ⟨List.forall_mem_singleton.2 (hwritten.congr hm),
              fun n hn => hwritten.congr (hkeeps n hn).2.1⟩
  refine ⟨fun _ _ hfounds => hphase (hfounds.phase hj hkey), ?_, hstatus.1, hstatus.2⟩
  intro n hn
  cases hbefore.symm.trans hn
  exact hlives

/-- A history up to some invocation belongs to a run that ends with it. -/
theorem Runs.after_of_append (hr : Runs s k start h stored) (hh : h = later ++ i :: earlier) :
    Runs s k start (i :: earlier) i.after := by
  obtain ⟨hrun, w, ht, hafter⟩ := hr.invocation_of_append hh
  have hnext := Runs.invoked hrun ht
  rw [← hafter] at hnext
  exact hnext

/-- Without an object, an invocation has nothing to do with its home. -/
theorem Invocation.keepsHome_of_absent
    (hj : Invokes s k key volumeCalls none j.answers j.result w) (hbefore : j.before = none)
    (hafter : j.after = w.stored) : j.KeepsHome s project volume := by
  obtain ⟨hstored, reply, hτ⟩ := hj.absent_spec
  refine ⟨?_, fun o ho => ?_, ?_, fun o ho => ?_⟩
  · rintro _ _ ⟨⟨a, ha, request, _, _, hcall, -⟩, -⟩
    rw [hτ] at ha
    cases List.mem_singleton.1 ha
    exact nomatch hcall
  · exact nomatch hbefore.symm.trans ho
  · rw [Invocation.statusWrites, hτ]
    exact fun _ hw => absurd hw List.not_mem_nil
  · exact nomatch hstored.symm.trans (hafter.symm.trans ho)

theorem Runs.staysHome (hr : Runs s k start h stored) (hl : s.lifecycle = volumeCalls.lifecycle)
    (hstart : start.status = none) : StaysHome s h stored where
  addressed later j earlier hh a ha request hcall hpost := by
    obtain ⟨hrun, w, ht, -⟩ := hr.invocation_of_append hh
    have hinvokes := invokes_of_trace hl ht
    cases hbefore : j.before with
    | none =>
        rw [hbefore] at hinvokes
        obtain ⟨-, reply, hτ⟩ := hinvokes.absent_spec
        rw [hτ] at ha
        cases List.mem_singleton.1 ha
        exact nomatch hcall
    | some o =>
        rw [hbefore] at hrun hinvokes
        obtain ⟨project, volume, hlives, hurl⟩ :=
          (hinvokes.goesHome a ha).request request hcall hpost
        have hhome := hrun.atHome hl hstart o rfl
        obtain ⟨i, hi, project', hfounds⟩ := hhome.recorded volume hlives.2
        obtain ⟨rfl, -⟩ := hlives.eq (hhome.founded i hi project' volume hfounds).1
        exact ⟨i, hi, project', volume, hfounds, hurl⟩
  kept later i earlier project volume hh hfounds := by
    have hi : i ∈ h := hh ▸ List.mem_append_right _ (List.mem_cons_self ..)
    refine ⟨?_, fun j hj => ?_⟩
    · rintro o (ho | ho)
      · have hhome := (hr.after_of_append hh).atHome hl hstart o ho
        exact (hhome.founded i (List.mem_cons_self ..) project volume hfounds).1
      · exact ((hr.atHome hl hstart o ho).founded i hi project volume hfounds).1
    · obtain ⟨last, next, rfl⟩ := List.append_of_mem hj
      rw [List.append_assoc, List.cons_append] at hh
      obtain ⟨hrun, w, ht, hafter⟩ := hr.invocation_of_append hh
      have hinvokes := invokes_of_trace hl ht
      cases hbefore : j.before with
      | none =>
          rw [hbefore] at hinvokes
          exact Invocation.keepsHome_of_absent hinvokes hbefore hafter
      | some o =>
          rw [hbefore] at hrun hinvokes
          have hmem : i ∈ next ++ i :: earlier :=
            List.mem_append_right _ (List.mem_cons_self ..)
          exact (hrun.atHome hl hstart o rfl).keepsHome hmem hfounds (hrun.key_eq hl o rfl)
            hbefore hinvokes hafter

end

/-! ## Stores of projects -/

namespace Slot

/-- How the calls are answered where the store of projects answers as given. -/
def surroundingsWith (found : String → String → Outcome (Option Project) → Prop)
    (k : Circumstances) (key : ObjectKey) : Surroundings (EngineCalls Volume) (Slot Volume) where
  Answers
    | .fetchProject namespace_ name, w, reply, w' => found namespace_ name reply ∧ w' = w
    | .now, w, t, w' => (surroundings k key).Answers .now w t w'
    | .authenticate tenant, w, reply, w' =>
        (surroundings k key).Answers (.authenticate tenant) w reply w'
    | .fetch namespace_ name, w, reply, w' =>
        (surroundings k key).Answers (.fetch namespace_ name) w reply w'
    | .update v, w, reply, w' => (surroundings k key).Answers (.update v) w reply w'
    | .updateStatus v, w, reply, w' => (surroundings k key).Answers (.updateStatus v) w reply w'
    | .remote c, w, reply, w' => (surroundings k key).Answers (.remote c) w reply w'
  Drifts := Drifts k

variable {k : Circumstances} {key : ObjectKey}
  {found found' : String → String → Outcome (Option Project) → Prop} {w w' : Slot Volume}

/-- Any store of projects answers in one of the ways that a run reckons with. -/
theorem answers_of_surroundingsWith {c : EngineCall Volume} {reply : (EngineCalls Volume).Reply c}
    (h : (surroundingsWith found k key).Answers c w reply w') :
    (surroundings k key).Answers c w reply w' := by
  cases c with
  | fetchProject _ _ => exact h.2
  | now | authenticate _ | fetch _ _ | update _ | updateStatus _ | remote _ => exact h

/-- Only a call that looks for a project tells one store of projects from another. -/
theorem surroundingsWith_answers_of_ne {c : EngineCall Volume}
    {reply : (EngineCalls Volume).Reply c}
    (hc : ∀ namespace_ name, c ≠ .fetchProject namespace_ name)
    (h : (surroundingsWith found k key).Answers c w reply w') :
    (surroundingsWith found' k key).Answers c w reply w' := by
  cases c with
  | fetchProject namespace_ name => exact absurd rfl (hc namespace_ name)
  | now | authenticate _ | fetch _ _ | update _ | updateStatus _ | remote _ => exact h

end Slot

/-- An invocation that reads the volume in another phase than that of creation goes with one store
    of projects as it goes with any other. -/
theorem trace_surroundingsWith {s : Setting Volume} {k : Circumstances} {key : ObjectKey}
    {o : Volume} {found found' : String → String → Outcome (Option Project) → Prop}
    {τ : List (EngineAnswer Volume)} {result : Outcome Action} {w : Slot Volume}
    (hl : s.lifecycle = volumeCalls.lifecycle) (hp : o.phase ≠ .creating)
    (h : Procedure.Trace (Slot.surroundingsWith found k key) (s.reconcile key.1 key.2)
      ⟨some o, false⟩ τ result w) :
    Procedure.Trace (Slot.surroundingsWith found' k key) (s.reconcile key.1 key.2)
      ⟨some o, false⟩ τ result w := by
  have hany : Procedure.Trace (Slot.surroundings k key) (s.reconcile key.1 key.2)
      ⟨some o, false⟩ τ result w :=
    h.mono (fun _ _ hx => Slot.answers_of_surroundingsWith hx) fun _ _ hd => hd
  have hhome := (invokes_of_trace hl hany).goesHome
  refine h.mono (fun a ha hx => ?_) fun _ _ hd => hd
  refine Slot.surroundingsWith_answers_of_ne (fun namespace_ name hcall => ?_) hx
  exact hp ((hhome a ha).project namespace_ name hcall)

/-- In runs of a volume from an object without status, every request that is no creation goes to
    the project and the volume of the one creation that was recorded, and these never change; and
    outside of the phase of creation the store of projects makes no difference. -/
theorem volume_home {s : Setting Volume} (hl : s.lifecycle = volumeLifecycle)
    (k : Circumstances) :
    (∀ start h stored, start.status = none → Runs s k start h stored → StaysHome s h stored) ∧
    ∀ (key : ObjectKey) (o : Volume), o.phase ≠ .creating →
      ∀ (found found' : String → String → Outcome (Option Project) → Prop) τ result w,
        Procedure.Trace (Slot.surroundingsWith found k key) (s.reconcile key.1 key.2)
            ⟨some o, false⟩ τ result w ↔
          Procedure.Trace (Slot.surroundingsWith found' k key) (s.reconcile key.1 key.2)
            ⟨some o, false⟩ τ result w := by
  have hl' := hl.trans volumeLifecycle_eq
  constructor
  · exact fun start h stored hstart hr => hr.staysHome hl' hstart
  · exact fun key o hp found found' τ result w =>
      ⟨trace_surroundingsWith hl' hp, trace_surroundingsWith hl' hp⟩

/-! ## A volume that moves before it is created -/

/-- The requests that a history has sent, with their methods, oldest first. -/
def addressesSent (h : List (Invocation Volume)) : List (Method × String) :=
  (answersOf h).filterMap fun
    | ⟨.remote (.send request), _, _, _⟩ => some (request.method, request.url)
    | _ => none

/-- The project and the volume recorded after the invocations of a history, oldest first. -/
def recordedHomes (h : List (Invocation Volume)) : List (Option String × Option String) :=
  (h.filterMap fun i => i.after.map fun v => (v.projectId?, v.recordOrBlank.resourceId)).reverse

namespace Scripted

/-- Another project that has been created remotely. -/
def otherProject : Project where
  metadata := { name := some "mall", generation := some 1 }
  spec := { tenant := "acme" }
  status := some { phase := .created, resourceId := some "p2" }

/-- The world of the new volume and of both projects, where the first creation fails. -/
def movingWorld : World :=
  worldOf [oldProject, otherProject] [newVolume]
    [.reply ⟨503, []⟩, .reply (volumeReported 201 "InCreation"),
      .reply (volumeReported 200 "Available")]

theorem admits_movingWorld : (volumeShelf.store movingWorld).Admits calm :=
  ⟨nofun, nofun, nofun, fun _ => rfl⟩

/-- After the first attempt to create the volume has failed, the user wants it in another project,
    and the second attempt succeeds. -/
def volumeMoved : List (Invocation Volume) × World :=
  movingWorld.story volumeShelf volumeSetting newVolume.key 2
    (·.respecified { newVolume.spec with project := ⟨"mall", none⟩ } 2) 2

theorem runs_volumeMoved : Runs volumeSetting calm newVolume volumeMoved.1
    (volumeMoved.2.slot volumeShelf newVolume.key).stored :=
  World.runs_story_respecified volumeShelf_isLawful rfl admits_movingWorld 2 2 _ 1
    (by decide +kernel) (by decide)

end Scripted

open Scripted in
/-- The project that the failed attempt recorded gives way to the one of the creation, which all
    later requests go to. -/
theorem volume_home_moved :
    StaysHome volumeSetting volumeMoved.1 (volumeMoved.2.slot volumeShelf newVolume.key).stored ∧
      recordedHomes volumeMoved.1 =
        [(none, none), (some "p1", none), (some "p2", some "v1"), (some "p2", some "v1")] ∧
      addressesSent volumeMoved.1 =
        [("POST", "https://api.cloud/projects/p1/providers/Storage/blockStorages"),
          ("POST", "https://api.cloud/projects/p2/providers/Storage/blockStorages"),
          ("GET", "https://api.cloud/projects/p2/providers/Storage/blockStorages/v1")] :=
  ⟨(volume_home rfl calm).1 _ _ _ rfl runs_volumeMoved, by decide +kernel, by decide +kernel⟩

end CloudReconciler
