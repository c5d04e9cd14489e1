import CloudReconciler.Proofs.Reconcile.Creation

/-! # Addresses — whether the remote resource of an object can be found again

    A created object keeps the identifier that the reply to its creation
    reported, and nothing changes it afterwards.  Whether the identifier is
    usable is only asked when it is read: the reply may report an empty
    one, or none, and is accepted all the same.

    So an object is addressable from its creation on exactly if the reported
    identifier is not empty.  With an empty one it is taken for an object
    that was never created remotely: its deletion sends nothing, and the
    remote resource is left behind. -/

namespace CloudReconciler

variable {Spec St : Type} [Managed Spec St]

/-! ## Addresses and statuses -/

/-- How the address of an object depends on its status: once it is at home somewhere, only the
    identifier is needed. -/
structure RemoteCalls.Locates (c : RemoteCalls Spec St) (homed : Resource Spec St → Prop) :
    Prop where
  homed_congr : ∀ {o n : Resource Spec St}, n.status = o.status → homed o → homed n
  homed_recorded : ∀ {p : Resource Spec St} (t : Transition) (now : Instant), homed p →
    homed (t.recorded now p)
  homed_named : ∀ {o q : Resource Spec St} (id : String), (c.placement o).Gives q →
    homed (q.named id)
  address_isSome : ∀ {o : Resource Spec St}, homed o →
    ((c.address o).isSome ↔ ∃ id, o.recordOrBlank.resourceId = some id ∧ id ≠ "")

/-- A usable identifier is one that is recorded and not empty. -/
theorem Resource.remoteId?_eq_some {o : Resource Spec St} {id : String} :
    o.remoteId? = some id ↔ o.recordOrBlank.resourceId = some id ∧ id ≠ "" := by
  rw [remoteId?, Option.filter_eq_some_iff, decide_eq_true_iff]

theorem Resource.remoteId?_isSome {o : Resource Spec St} :
    o.remoteId?.isSome ↔ ∃ id, o.recordOrBlank.resourceId = some id ∧ id ≠ "" := by
  rw [Option.isSome_iff_exists]
  exact exists_congr fun id => remoteId?_eq_some

/-- Projects are at home everywhere. -/
theorem projectCalls_locates : projectCalls.Locates fun _ => True where
  homed_congr _ _ := trivial
  homed_recorded _ _ _ := trivial
  homed_named _ _ := trivial
  address_isSome _ := by
    rw [← Resource.remoteId?_isSome]
    show (Option.map _ _).isSome ↔ _
    rw [Option.isSome_map]

/-- The volume knows the remote project that it was created in. -/
def Resource.HasProject (v : Volume) : Prop := ∃ project, v.projectId? = some project ∧ project ≠ ""

theorem Resource.projectId?_withRecord (v : Volume) (r : Status) :
    (v.withRecord r).projectId? = v.projectId? := by
  obtain ⟨metadata, spec, status⟩ := v
  cases status with
  | none => rfl
  | some status => rfl

/-- Volumes are at home in the project that they were created in. -/
theorem volumeCalls_locates : volumeCalls.Locates Resource.HasProject where
  homed_congr {o n} hs := by
    rintro ⟨project, hproject, hne⟩
    refine ⟨project, ?_, hne⟩
    rw [Resource.projectId?, hs]
    exact hproject
  homed_recorded {p} t now := by
    rintro ⟨project, hproject, hne⟩
    exact ⟨project, (p.projectId?_withRecord _).trans hproject, hne⟩
  homed_named {o q} id hq := by
    obtain ⟨reply, hq⟩ := hq
    obtain ⟨p, project, -, hproject, rfl⟩ := placeVolume_ok hq
    -- the project was resolved to a usable identifier
    refine ⟨project, ?_, (Resource.remoteId?_eq_some.1 hproject).2⟩
    exact Resource.projectId?_withRecord _ _
  address_isSome {o} := by
    rintro ⟨project, hproject, -⟩
    rw [← Resource.remoteId?_isSome]
    show (o.remoteIds?.map _).isSome ↔ _
    rw [Option.isSome_map, Resource.remoteIds?, hproject]
    cases o.remoteId? with
    | none => exact Iff.rfl
    | some id => exact Iff.rfl

/-! ## Answers -/

section

variable {s : Setting (Resource Spec St)} {k : Circumstances} {key : ObjectKey} {policy : Policy}
  {g : Gateway} {c : RemoteCalls Spec St} {o : Resource Spec St}
  {w w₁ : Slot (Resource Spec St)} {τ : List (EngineAnswer (Resource Spec St))}
  {d : Decision (Resource Spec St)} {result : Outcome Action}

/-- The removal of a remote resource whose address is not known asks nothing. -/
theorem Asked.remove_eq_nil {r : Outcome Unit} (h : Asked k g (c.remove o) w τ r w₁)
    (haddress : c.address o = none) : τ = [] := by
  rw [RemoteCalls.remove, haddress] at h
  cases h
  rfl

/-- In the phase of deletion, an object without address is served without any request. -/
theorem Serves.not_isRequest (h : Serves k key g c o w τ d w₁) (hp : o.phase = .deleting)
    (haddress : c.address o = none) : ∀ a ∈ τ, ¬ a.IsRequest := by
  have hupdate : ∀ (p : Resource Spec St) reply (w w₁ : Slot (Resource Spec St)),
      ¬ EngineAnswer.IsRequest ⟨.update p, reply, w, w₁⟩ := fun _ _ _ _ =>
    EngineAnswer.not_isRequest fun _ hc => nomatch hc
  cases h with
  | unremoved _ ha =>
      rw [ha.remove_eq_nil haddress]
      exact fun a ha => nomatch ha
  | removed _ ha _ =>
      rw [ha.remove_eq_nil haddress]
      exact fun a ha => nomatch ha
  | released _ ha _ _ _ =>
      rw [ha.remove_eq_nil haddress]
      exact List.forall_mem_singleton.2 (hupdate _ _ _ _)
  | gone _ ha _ _ _ _ =>
      rw [ha.remove_eq_nil haddress]
      exact List.forall_mem_singleton.2 (hupdate _ _ _ _)
  | unreleased _ ha _ _ _ _ =>
      rw [ha.remove_eq_nil haddress]
      exact List.forall_mem_singleton.2 (hupdate _ _ _ _)
  | ended _ => exact fun a ha => nomatch ha
  | guarded hq | guard hq | unguarded hq | unplaced hq | uncreated hq | created hq | unpolled hq
  | polled hq | pushed hq | current hq | drifted hq => exact nomatch hp.symm.trans hq

/-- An invocation on such an object asks nothing of the remote API. -/
theorem Invokes.not_isRequest (h : Invokes s k key c (some o) τ result w)
    (hp : o.phase = .deleting) (haddress : c.address o = none) : ∀ a ∈ τ, ¬ a.IsRequest := by
  have hfetch : ∀ (reply : Outcome (Option (Resource Spec St))) (w : Slot (Resource Spec St)),
      ¬ (EngineAnswer.aside (.fetch key.1 key.2) reply w).IsRequest :=
    fun _ _ => EngineAnswer.not_isRequest fun _ hc => nomatch hc
  have hauth : ∀ (tenant : String) (reply : Outcome String) (w : Slot (Resource Spec St)),
      ¬ (EngineAnswer.aside (.authenticate tenant) reply w).IsRequest :=
    fun _ _ _ => EngineAnswer.not_isRequest fun _ hc => nomatch hc
  cases h with
  | unread _ _ => exact List.forall_mem_singleton.2 (hfetch _ _)
  | tenantless _ _ _ => exact List.forall_mem_singleton.2 (hfetch _ _)
  | unauthenticated _ _ =>
      exact List.forall_mem_cons.2 ⟨hfetch _ _, List.forall_mem_singleton.2 (hauth _ _ _)⟩
  | decided _ _ _ hdec hset =>
      refine List.forall_mem_cons.2 ⟨hfetch _ _, List.forall_mem_cons.2 ⟨hauth _ _ _, ?_⟩⟩
      refine List.forall_mem_append.2 ⟨?_, hset.not_isRequest⟩
      cases hdec with
      | timedOut ht => exact ht.not_isRequest
      | marked ht _ _ _ => exact ht.not_isRequest
      | served ht _ hs =>
          exact List.forall_mem_append.2 ⟨ht.not_isRequest, hs.not_isRequest hp haddress⟩

end

/-! ## Runs -/

/-- The identifier of the object is the one that the last creation reported. -/
def Reported (read : List UInt8 → Outcome Creation) (h : List (Invocation (Resource Spec St)))
    (o : Resource Spec St) (id : String) : Prop :=
  ∃ body r, (creations h).head? = some body ∧ read body = .ok r ∧ r.id = id ∧
    o.recordOrBlank.resourceId = some id

/-- What is known of the address of the object in a run: nothing has been recorded, or the reported
    identifier and the home of the object have. -/
inductive Addressed (read : List UInt8 → Outcome Creation) (homed : Resource Spec St → Prop)
    (h : List (Invocation (Resource Spec St))) (o : Resource Spec St) : Prop
  | unnamed : o.recordOrBlank.resourceId = none → ¬ o.phase.HasRemote → Addressed read homed h o
  | named {id} : Reported read h o id → homed o → ¬ o.phase.IsPending → Addressed read homed h o

section

variable {s : Setting (Resource Spec St)} {k : Circumstances} {c : RemoteCalls Spec St}
  {start : Resource Spec St} {h : List (Invocation (Resource Spec St))}
  {stored : Option (Resource Spec St)} {read : List UInt8 → Outcome Creation}
  {homed : Resource Spec St → Prop} {i : Invocation (Resource Spec St)} {o n : Resource Spec St}

omit [Managed Spec St] in
/-- Where nothing new was created, the last creation is the same. -/
theorem head?_creations_cons (hnil : creationsOf i.answers = []) :
    (creations (i :: h)).head? = (creations h).head? := by
  rw [creations, List.flatMap_cons, Invocation.creations, hnil]
  rfl

/-- The address stays known with the status. -/
theorem Addressed.congr (ha : Addressed read homed h o) (hloc : c.Locates homed)
    (hs : n.status = o.status) : Addressed read homed h n := by
  have hrecord := Resource.recordOrBlank_congr hs
  have hphase := Resource.phase_congr hs
  cases ha with
  | unnamed hnone hremote => exact .unnamed (hrecord ▸ hnone) (hphase ▸ hremote)
  | named hreported hhome hpending =>
      obtain ⟨body, r, hhead, hr, hid, hnamed⟩ := hreported
      exact .named ⟨body, r, hhead, hr, hid, hrecord ▸ hnamed⟩ (hloc.homed_congr hs hhome)
        (hphase ▸ hpending)

theorem Addressed.cons (ha : Addressed read homed h o) (hnil : creationsOf i.answers = []) :
    Addressed read homed (i :: h) o := by
  cases ha with
  | unnamed hnone hremote => exact .unnamed hnone hremote
  | named hreported hhome hpending =>
      obtain ⟨body, r, hhead, hr⟩ := hreported
      exact .named ⟨body, r, (head?_creations_cons hnil).trans hhead, hr⟩ hhome hpending

/-- A transition that is written leaves the identifier, and leaves the object at home. -/
theorem Addressed.recorded {p : Resource Spec St} {t : Transition} {now : Instant}
    (ha : Addressed read homed h o) (hloc : c.Locates homed)
    (hrecord : p.recordOrBlank = o.recordOrBlank)
    (hstatus : ¬ o.phase.IsPending → p.status = o.status)
    (hremote : t.phase.HasRemote → o.phase.HasRemote)
    (hpending : t.phase.IsPending → o.phase.IsPending) :
    Addressed read homed h (t.recorded now p) := by
  have hid : (t.recorded now p).recordOrBlank.resourceId = o.recordOrBlank.resourceId := by
    rw [Resource.recordOrBlank_recorded, ← hrecord]
    rfl
  have hphase : (t.recorded now p).phase = t.phase := Resource.phase_recorded ..
  cases ha with
  | unnamed hnone hnot =>
      refine .unnamed (hid.trans hnone) ?_
      rw [hphase]
      exact fun ht => hnot (hremote ht)
  | named hreported hhome hnot =>
      obtain ⟨body, r, hhead, hr, hrid, hnamed⟩ := hreported
      have hp : homed p := hloc.homed_congr (hstatus hnot) hhome
      refine .named ⟨body, r, hhead, hr, hrid, hid.trans hnamed⟩ (hloc.homed_recorded t now hp) ?_
      rw [hphase]
      exact fun ht => hnot (hpending ht)

/-- A creation that is recorded gives the object its address. -/
theorem addressed_of_born {q : Resource Spec St} {body : List UInt8} {r : Creation} {now : Instant}
    (hbody : creationsOf i.answers = [body]) (hr : read body = .ok r) (hloc : c.Locates homed)
    (hq : (c.placement o).Gives q) :
    Addressed read homed (i :: h)
      ((Transition.ofCreation r.state).recorded now (q.named r.id)) := by
  have hnamed :
      ((Transition.ofCreation r.state).recorded now (q.named r.id)).recordOrBlank.resourceId =
        some r.id := by
    rw [Resource.recordOrBlank_recorded]
    show (q.named r.id).recordOrBlank.resourceId = some r.id
    rw [Resource.named, Resource.recordOrBlank, Resource.record?_withRecord, Option.getD_some]
  refine .named ⟨body, r, ?_, hr, rfl, hnamed⟩
    (hloc.homed_recorded _ now (hloc.homed_named _ hq)) ?_
  · rw [creations, List.flatMap_cons, Invocation.creations, hbody]
    rfl
  · rw [Resource.phase_recorded]
    exact (Transition.hasRemote_ofCreation r.state).not_isPending

/-- What is known of the address of an object throughout its run. -/
theorem Runs.addressed (hr : Runs s k start h stored) (hl : s.lifecycle = c.lifecycle)
    (hread : c.Reads read) (hloc : c.Locates homed) (hstart : start.status = none) :
    ∀ o, stored = some o → Addressed read homed h o := by
  refine hr.invariant hl ?_ ?_ ?_
  · refine .unnamed ?_ ?_
    · rw [Resource.recordOrBlank, Resource.record?, hstart]
      rfl
    · rw [Resource.phase_of_status_none hstart]
      decide
  · exact fun _ o n ha he => ha.congr hloc he.status
  · intro h o n τ result w ha hkey _ hi hn
    cases hi.creationOutcome hread hkey with
    | unwritten _ hkeeps hcreations =>
        obtain ⟨-, hs, -⟩ := hkeeps n hn
        refine Addressed.congr ?_ hloc hs
        rcases hcreations with hnil | ⟨hp, -⟩
        · exact ha.cons hnil
        · -- what was created is lost, and the object has no identifier yet
          cases ha with
          | unnamed hnone hremote => exact .unnamed hnone hremote
          | named _ _ hpending => exact absurd (.inr hp) hpending
    | @written t p now hdeparts hbegets _ hkeeps =>
        obtain ⟨-, hs, -⟩ := hkeeps n hn
        refine Addressed.congr ?_ hloc hs
        generalize hbodies : creationsOf τ = bodies at hbegets
        cases hbegets with
        | born _ hr hq hp ht =>
            rw [hp, ht]
            exact addressed_of_born hbodies hr hloc hq
        | unborn hlost hrecord hstatus hremote =>
            refine Addressed.recorded ?_ hloc hrecord
              (fun hnot => hstatus fun hp => hnot (.inr hp)) hremote hdeparts.isPending
            rcases hlost with rfl | ⟨hp, -⟩
            · exact ha.cons hbodies
            · cases ha with
              | unnamed hnone hnot => exact .unnamed hnone hnot
              | named _ _ hpending => exact absurd (.inr hp) hpending

/-- An identifier that was recorded is never changed. -/
theorem Runs.resourceId_kept (hr : Runs s k start h stored) (hl : s.lifecycle = c.lifecycle)
    (hread : c.Reads read) (hstart : start.status = none) :
    ∀ o, stored = some o → ∀ i ∈ h, ∀ n id, i.after = some n →
      n.recordOrBlank.resourceId = some id → o.recordOrBlank.resourceId = some id := by
  -- the record that a creation takes the place of has no identifier
  have hfresh : ∀ {h o}, Runs s k start h (some o) → o.phase = .creating →
      o.recordOrBlank.resourceId = none := fun hr hp =>
    (hr.awaits hl hread hstart _ rfl (.inr hp)).unnamed
  induction hr with
  | start => exact fun _ _ i hi => nomatch hi
  | edited _ he ih =>
      intro m hm i hi n id hn hid
      cases hm
      rw [Resource.recordOrBlank_congr he.status]
      exact ih _ rfl i hi n id hn hid
  | removed _ _ _ => exact fun m hm => nomatch hm
  | @invoked h stored τ result w hr ht ih =>
      intro m hm i hmem n id hn hid
      rcases List.mem_cons.1 hmem with rfl | hi
      · cases hn.symm.trans hm
        exact hid
      · have hinvokes := invokes_of_trace hl ht
        cases stored with
        | none => exact nomatch hinvokes.absent_spec.1.symm.trans hm
        | some o =>
            have hold := ih o rfl i hi n id hn hid
            cases hinvokes.creationOutcome hread (hr.key_eq hl o rfl) with
            | unwritten _ hkeeps _ =>
                rw [Resource.recordOrBlank_congr (hkeeps m hm).2.1]
                exact hold
            | @written t p now _ hbegets _ hkeeps =>
                rw [Resource.recordOrBlank_congr (hkeeps m hm).2.1,
                  Resource.recordOrBlank_recorded]
                show p.recordOrBlank.resourceId = some id
                cases hbegets.record_or_creating with
                | inl hrecord =>
                    rw [hrecord]
                    exact hold
                | inr hp => exact nomatch (hfresh hr hp).symm.trans hold

end

/-- What a run says about the address of its object. -/
structure StaysAddressed (read : List UInt8 → Outcome Creation) (homed : Resource Spec St → Prop)
    (address : Resource Spec St → Option String) (s : Setting (Resource Spec St))
    (h : List (Invocation (Resource Spec St))) (stored : Option (Resource Spec St)) : Prop where
  /-- From its creation on, the object has the identifier that the creation reported, and is
      addressable unless that is empty. -/
  created : ∀ o, stored = some o → o.phase.HasRemote →
    ∃ id, Reported read h o id ∧ homed o ∧ ((address o).isSome ↔ id ≠ "")
  /-- An identifier that was recorded is never changed. -/
  kept : ∀ o, stored = some o → ∀ i ∈ h, ∀ n id, i.after = some n →
    n.recordOrBlank.resourceId = some id → o.recordOrBlank.resourceId = some id
  /-- An object with a recorded identifier is let go after the removal of its remote resource,
      or, if the identifier is empty, without a request. -/
  released : ∀ later i earlier, h = later ++ i :: earlier → (∃ a ∈ i.answers, a.Releases) →
    ∃ o, i.before = some o ∧ o.phase = .deleting ∧
      (o.recordOrBlank.resourceId = none ∨ ∃ id, Reported read earlier o id ∧
        (id ≠ "" → ∃ endpoint, address o = some endpoint ∧
          i.Deleted (s.gateway.baseUrl ++ endpoint)) ∧
        (id = "" → ∀ a ∈ i.answers, ¬ a.IsRequest))

section

variable {s : Setting (Resource Spec St)} {k : Circumstances} {c : RemoteCalls Spec St}
  {start : Resource Spec St} {h : List (Invocation (Resource Spec St))}
  {stored : Option (Resource Spec St)} {read : List UInt8 → Outcome Creation}
  {homed : Resource Spec St → Prop}

/-- An object at home with the given identifier is addressable unless that is empty. -/
theorem RemoteCalls.Locates.address_iff (hloc : c.Locates homed) {o : Resource Spec St}
    {id : String} (hhome : homed o) (hid : o.recordOrBlank.resourceId = some id) :
    (c.address o).isSome ↔ id ≠ "" := by
  rw [hloc.address_isSome hhome, hid]
  constructor
  · rintro ⟨_, ⟨⟩, hne⟩
    exact hne
  · exact fun hne => ⟨id, rfl, hne⟩

theorem Runs.staysAddressed (hr : Runs s k start h stored) (hl : s.lifecycle = c.lifecycle)
    (hread : c.Reads read) (hloc : c.Locates homed) (hstart : start.status = none) :
    StaysAddressed read homed c.address s h stored where
  created o ho hremote := by
    cases hr.addressed hl hread hloc hstart o ho with
    | unnamed _ hnot => exact absurd hremote hnot
    | named hreported hhome _ =>
        obtain ⟨_, _, _, _, _, hid⟩ := id hreported
        exact ⟨_, hreported, hhome, hloc.address_iff hhome hid⟩
  kept := hr.resourceId_kept hl hread hstart
  released later i earlier hh hreleases := by
    have hi : i ∈ h := hh ▸ List.mem_append_right _ (List.mem_cons_self ..)
    obtain ⟨hrun, w, ht, -⟩ := hr.invocation_of_append hh
    obtain ⟨o, hbefore, hp, hdeleted⟩ :=
      (hr.keepsGuard hl hstart).released_after_removal i hi hreleases
    refine ⟨o, hbefore, hp, ?_⟩
    rw [hbefore] at hrun ht
    cases hrun.addressed hl hread hloc hstart o rfl with
    | unnamed hnone _ => exact .inl hnone
    | @named reported hreported hhome _ =>
        obtain ⟨_, _, _, _, _, hid⟩ := id hreported
        have haddress := hloc.address_iff hhome hid
        refine .inr ⟨reported, hreported, fun hne => ?_, fun hempty => ?_⟩
        · obtain ⟨endpoint, hendpoint⟩ := Option.isSome_iff_exists.1 (haddress.2 hne)
          exact ⟨endpoint, hendpoint, hdeleted endpoint hendpoint⟩
        · have hnone : c.address o = none := by
            rw [← Option.not_isSome_iff_eq_none, haddress]
            exact not_not.2 hempty
          exact (invokes_of_trace hl ht).not_isRequest hp hnone

end

/-- In runs of projects and of volumes from an object without status, the object is addressable from
    its creation on exactly if the reply to the creation reported an identifier that is not empty,
    and only then is its remote resource removed before it is let go.  A volume also knows its
    project. -/
theorem remote_address (k : Circumstances) :
    (∀ (s : Setting Project) (start : Project) (h : List (Invocation Project))
        (stored : Option Project),
      s.lifecycle = projectLifecycle → start.status = none → Runs s k start h stored →
      StaysAddressed projectCreation (fun _ => True)
        (fun p : Project => p.remoteId?.map ("/projects/" ++ ·)) s h stored) ∧
    (∀ (s : Setting Volume) (start : Volume) (h : List (Invocation Volume))
        (stored : Option Volume),
      s.lifecycle = volumeLifecycle → start.status = none → Runs s k start h stored →
      StaysAddressed volumeCreation Resource.HasProject
        (fun v : Volume => v.remoteIds?.map fun (project, volume) =>
          Gateway.volumeAt project volume) s h stored) := by
  constructor
  · intro s start h stored hl hstart hr
    exact hr.staysAddressed (hl.trans projectLifecycle_eq) projectCalls_reads projectCalls_locates
      hstart
  · intro s start h stored hl hstart hr
    exact hr.staysAddressed (hl.trans volumeLifecycle_eq) volumeCalls_reads volumeCalls_locates
      hstart

/-! ## A resource that is left behind -/

/-- The identifiers recorded for an object after the invocations of a history, oldest first. -/
def recordedIds (h : List (Invocation (Resource Spec St))) : List (Option String) :=
  (h.map fun i => i.after.bind (·.recordOrBlank.resourceId)).reverse

/-- The methods of the requests that a history has sent, oldest first. -/
def methodsSent (h : List (Invocation (Resource Spec St))) : List Method :=
  (answersOf h).filterMap fun
    | ⟨.remote (.send request), _, _, _⟩ => some request.method
    | _ => none

namespace Scripted

/-- A reply that reports no identifier of the project. -/
def projectUnidentified : CloudReconciler.Reply :=
  .ofJson 201 (.object [("metadata", .object [])])

/-- The project is created by such a reply, marked for deletion and let go. -/
def projectOrphaned : List (Invocation Project) × World :=
  (projectWorld [.reply projectUnidentified]).story projectShelf projectSetting newProject.key 2
    (·.markedAt ⟨0, 0⟩) 2

theorem runs_projectOrphaned : Runs projectSetting calm newProject projectOrphaned.1
    (projectOrphaned.2.slot projectShelf newProject.key).stored :=
  World.runs_story projectShelf_isLawful rfl (admits_projectWorld _) 2 2 fun o _ =>
    o.edited_markedAt _

end Scripted

open Scripted in
/-- A project and a volume that are created with an identifier are removed by it. -/
theorem remote_address_stories :
    (StaysAddressed projectCreation (fun _ => True)
        (fun p : Project => p.remoteId?.map ("/projects/" ++ ·)) projectSetting projectStory.1
        (projectStory.2.slot projectShelf newProject.key).stored ∧
      recordedIds projectStory.1 = [none, some "p1", some "p1", some "p1"] ∧
      methodsSent projectStory.1 = ["POST", "DELETE"]) ∧
    StaysAddressed volumeCreation Resource.HasProject
        (fun v : Volume => v.remoteIds?.map fun (project, volume) =>
          Gateway.volumeAt project volume) volumeSetting volumeStory.1
        (volumeStory.2.slot volumeShelf newVolume.key).stored ∧
      recordedIds volumeStory.1 = [none, some "v1", some "v1", some "v1", some "v1"] ∧
      methodsSent volumeStory.1 = ["POST", "GET", "DELETE"] := by
  refine ⟨⟨?_, by decide +kernel, by decide +kernel⟩, ?_, by decide +kernel, by decide +kernel⟩
  · exact (remote_address calm).1 _ _ _ _ rfl rfl runs_projectStory
  · exact (remote_address calm).2 _ _ _ _ rfl rfl runs_volumeStory

open Scripted in
/-- A project whose creation reports no identifier is taken for created, and is let go without any
    attempt to remove the remote resource. -/
theorem project_orphaned :
    Runs projectSetting calm newProject projectOrphaned.1
        (projectOrphaned.2.slot projectShelf newProject.key).stored ∧
      phasesOf projectOrphaned.1 =
        [some .creating, some .created, some .deleting, some .deleting] ∧
      recordedIds projectOrphaned.1 = [none, some "", some "", some ""] ∧
      (projectOrphaned.1.map fun i => i.after.map Resource.guardCount).reverse =
        [some 1, some 1, some 1, some 0] ∧
      methodsSent projectOrphaned.1 = ["POST"] := by
  refine ⟨runs_projectOrphaned, ?_⟩
  decide +kernel

end CloudReconciler
