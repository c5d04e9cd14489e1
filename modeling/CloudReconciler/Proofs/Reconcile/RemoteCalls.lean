import CloudReconciler.Proofs.Reconcile.Slot
import CloudReconciler.Reconcile.ProjectLifecycle
import CloudReconciler.Reconcile.VolumeLifecycle

/-! # Remote calls — what tells one kind's lifecycle from another's

    Both lifecycles are one scheme: place the object, ask the remote API at
    most once, and let the outcome lead to a transition.  `RemoteCalls`
    holds what a kind puts into the scheme, as data: where an object is
    placed and which request each phase sends.  `projectLifecycle_eq` and
    `volumeLifecycle_eq` say that the two lifecycles are the scheme applied
    to their calls, so what holds of every `RemoteCalls` holds of both. -/

namespace CloudReconciler

/-- A question to the remote API: settled without asking, or one request with a reading of the body
    of a success. -/
inductive Ask (α : Type) where
  | known (outcome : Outcome α)
  | send (method : Method) (endpoint : String) (body : Option Json)
      (read : List UInt8 → Outcome α)

namespace Ask

variable {α : Type}

/-- The question put through a gateway. -/
def run {O : Type} (g : Gateway) : Ask α → Engine O (Outcome α)
  | .known outcome => .done outcome
  | .send method endpoint body read =>
      (Engine.remote (g.perform method endpoint body)).bind fun bytes => .done (bytes >>= read)

/-- The question may be answered by the value. -/
def Yields : Ask α → α → Prop
  | .known outcome, a => outcome = .ok a
  | .send _ _ _ read, a => ∃ bytes, read bytes = .ok a

/-- If the question sends a request at all, it has the method and the body. -/
def Sends (method : Method) (body : Option Json) : Ask α → Prop
  | .known _ => True
  | .send m _ b _ => m = method ∧ b = body

/-- The question comes to no value without a request. -/
def NeedsRequest : Ask α → Prop
  | .known outcome => ∃ f, outcome = .error f
  | .send _ _ _ _ => True

end Ask

/-- Where an object is created: by itself, or inside a project that is looked up. -/
inductive Placement (O : Type) where
  | here (o : O)
  | within (namespace_ name : String) (read : Outcome (Option Project) → Outcome O)

namespace Placement

variable {O : Type}

/-- The placement carried out. -/
def run : Placement O → Engine O (Outcome O)
  | .here o => .done (.ok o)
  | .within namespace_ name read =>
      .call (.fetchProject namespace_ name) fun reply => .done (read reply)

/-- The placement may come to the object. -/
def Gives : Placement O → O → Prop
  | .here o, p => p = o
  | .within _ _ read, p => ∃ reply, read reply = .ok p

end Placement

variable {Spec St : Type} [Managed Spec St]

/-- The object as it is created differs from the one that was read only in what a kind keeps beside
    the engine's record. -/
structure Resource.Placed (o p : Resource Spec St) : Prop where
  metadata : p.metadata = o.metadata
  spec : p.spec = o.spec
  record : p.recordOrBlank = o.recordOrBlank

/-- What one kind asks of the remote API. -/
structure RemoteCalls (Spec St : Type) [Managed Spec St] where
  placement : Resource Spec St → Placement (Resource Spec St)
  create : Resource Spec St → Ask Creation
  /-- None for a kind that is never provisioned. -/
  poll : Resource Spec St → Option (Ask (Option String))
  push : Resource Spec St → Ask Unit
  /-- Where the remote resource lives, if it is known. -/
  address : Resource Spec St → Option String
  /-- The remote resource as the object wants it. -/
  document : Resource Spec St → Json
  /-- Objects of the kind may be provisioned in the background. -/
  provisions : Prop
  placed : ∀ o p, (placement o).Gives p → o.Placed p
  create_sends : ∀ o, (create o).Sends "POST" (some (document o))
  poll_sends : ∀ o ask, poll o = some ask → ask.Sends "GET" none
  push_sends : ∀ o, (push o).Sends "PUT" (some (document o))
  create_needs : ∀ o, (create o).NeedsRequest
  push_needs : ∀ o, (push o).NeedsRequest
  document_congr : ∀ o p, p.key = o.key → p.spec = o.spec → document p = document o
  create_state : ∀ o c, (create o).Yields c → c.state.isSome → provisions
  poll_isSome : ∀ o, (poll o).isSome → provisions

/-- What is asked to remove the remote resource: nothing, if it is not known where it lives. -/
def RemoteCalls.remove (c : RemoteCalls Spec St) (o : Resource Spec St) : Ask Unit :=
  match c.address o with
  | none => .known (.ok ())
  | some endpoint => .send "DELETE" endpoint none fun _ => .ok ()

theorem RemoteCalls.remove_sends (c : RemoteCalls Spec St) (o : Resource Spec St) :
    (c.remove o).Sends "DELETE" none := by
  rw [remove]
  cases c.address o with
  | none => trivial
  | some endpoint => exact ⟨rfl, rfl⟩

/-- The lifecycle of a kind with the given calls. -/
def RemoteCalls.lifecycle (c : RemoteCalls Spec St) : Lifecycle (Resource Spec St) where
  initialize_ policy _ o := initializeResource policy o (Managed.finalizer Spec)
  create policy g o := do
    match ← (c.placement o).run with
    | .error f => recordFault policy o f
    | .ok p => handleCreating policy p ((c.create p).run g)
  poll policy g o :=
    match c.poll o with
    | none => .done ⟨.ok .awaitChange, o⟩
    | some ask => handleProvisioning policy o (ask.run g)
  push policy g o := handleUpdating policy o ((c.push o).run g)
  check policy _ o := checkForUpdates policy o
  remove policy g o := handleDeletion policy o (Managed.finalizer Spec) ((c.remove o).run g)

/-! ## Reading replies -/

/-- The creation that the reply to a project's creation reports. -/
def projectCreation (bytes : List UInt8) : Outcome Creation :=
  (Gateway.decode RemoteProject.ofJson? bytes).map fun created => { id := created.identity.id }

/-- The creation that the reply to a volume's creation reports. -/
def volumeCreation (bytes : List UInt8) : Outcome Creation :=
  (Gateway.decode RemoteVolume.ofJson? bytes).map fun created =>
    { id := created.identity.id, state := created.state? }

/-- The state that the reply to a poll reports. -/
def volumeState (bytes : List UInt8) : Outcome (Option String) :=
  (Gateway.decode RemoteVolume.ofJson? bytes).map RemoteVolume.state?

/-- The reply to a push: a document, or nothing. -/
def pushReply {α : Type} (decode? : Json → Option α) (bytes : List UInt8) : Outcome Unit :=
  (if bytes.all Text.isBlankByte then .ok none
    else (Gateway.decode decode? bytes).map some).map fun _ => ()

section

variable {O α β : Type} (g : Gateway)

theorem remote_bind (p : Procedure GatewayCalls α) (next : α → Procedure GatewayCalls β) :
    (Engine.remote (p.bind next) : Engine O β) =
      (Engine.remote p).bind fun a => Engine.remote (next a) :=
  Procedure.expand_bind _ p next

/-- A request whose body is decoded and then looked at is one question. -/
theorem remote_perform_read {method : Method} {endpoint : String} {body : Option Json}
    (decode : List UInt8 → Outcome α) (look : Outcome α → Outcome β)
    (hlook : ∀ f, look (.error f) = .error f) :
    (Engine.remote ((g.perform method endpoint body).bind fun r => .done (r >>= decode)) :
        Engine O (Outcome α)).bind (fun r => .done (look r)) =
      (Ask.send method endpoint body fun bytes => look (decode bytes)).run g := by
  rw [remote_bind, Procedure.bind_assoc]
  refine congrArg _ (funext fun r => ?_)
  cases r with
  | error f => exact congrArg Procedure.done (hlook f)
  | ok bytes => rfl

end

/-! ## Projects -/

/-- What a project asks of the remote API. -/
def projectCalls : RemoteCalls ProjectSpec Status where
  placement p := .here p
  create p := .send "POST" "/projects" (some (projectRequest p).toJson) projectCreation
  poll _ := none
  push p :=
    match p.remoteId? with
    | none => .known (.error projectUnnamed)
    | some id =>
        .send "PUT" ("/projects/" ++ id) (some (projectRequest p).toJson)
          (pushReply RemoteProject.ofJson?)
  address p := p.remoteId?.map ("/projects/" ++ ·)
  document p := (projectRequest p).toJson
  provisions := False
  placed o p h := by
    cases h
    exact ⟨rfl, rfl, rfl⟩
  create_sends _ := ⟨rfl, rfl⟩
  poll_sends _ _ h := nomatch h
  push_sends p := by
    cases p.remoteId? with
    | none => trivial
    | some id => exact ⟨rfl, rfl⟩
  create_needs _ := trivial
  push_needs p := by
    cases p.remoteId? with
    | none => exact ⟨_, rfl⟩
    | some id => trivial
  document_congr o p hkey hspec := by
    have hname : p.name = o.name := congrArg Prod.snd hkey
    simp only [projectRequest, hname, hspec]
  create_state p c h hs := by
    obtain ⟨bytes, hb⟩ := h
    cases hd : Gateway.decode RemoteProject.ofJson? bytes with
    | error f => rw [projectCreation, hd] at hb; exact nomatch hb
    | ok created =>
        rw [projectCreation, hd] at hb
        cases hb
        exact nomatch hs
  poll_isSome _ h := nomatch h

/-- The lifecycle of projects is the scheme applied to their calls. -/
theorem projectLifecycle_eq : projectLifecycle = projectCalls.lifecycle := by
  refine Lifecycle.ext rfl ?_ rfl ?_ rfl ?_
  · -- create
    funext policy g p
    exact congrArg (handleCreating policy p) (remote_perform_read g _ (Except.map _) fun _ => rfl)
  · -- push
    funext policy g p
    refine congrArg (handleUpdating policy p) ?_
    show _ = Ask.run g (match p.remoteId? with | none => _ | some id => _)
    cases p.remoteId? with
    | none => rfl
    | some id => exact remote_perform_read g _ (Except.map _) fun _ => rfl
  · -- remove
    funext policy g p
    refine congrArg (handleDeletion policy p _) ?_
    show _ = Ask.run g (projectCalls.remove p)
    have haddress : projectCalls.address p = p.remoteId?.map ("/projects/" ++ ·) := rfl
    rw [RemoteCalls.remove, haddress]
    cases p.remoteId? with
    | none => rfl
    | some id => exact remote_bind _ _

/-! ## Volumes -/

/-- The volume inside the project that was found for it. -/
def placeVolume (v : Volume) : Outcome (Option Project) → Outcome Volume
  | .error f => .error f
  | .ok none =>
      .error (.dependency ("project " ++ v.spec.project.namespaceOr v.namespaceText ++ "/" ++
        v.spec.project.name ++ " not found"))
  | .ok (some p) =>
      match p.remoteId? with
      | some id => .ok (v.withProjectId id)
      | none =>
          .error (.dependency ("project " ++ v.spec.project.namespaceOr v.namespaceText ++ "/" ++
            v.spec.project.name ++ " has no remote id yet"))

/-- A placed volume is the volume with the remote project recorded. -/
theorem placeVolume_ok {v w : Volume} {reply : Outcome (Option Project)}
    (h : placeVolume v reply = .ok w) :
    ∃ p id, reply = .ok (some p) ∧ p.remoteId? = some id ∧ w = v.withProjectId id := by
  rcases reply with f | _ | p
  · exact nomatch h
  · exact nomatch h
  · cases hid : p.remoteId? with
    | none => simp [placeVolume, hid] at h
    | some id =>
        simp only [placeVolume, hid, Except.ok.injEq] at h
        exact ⟨p, id, rfl, hid, h.symm⟩

/-- Recording the remote project leaves the engine's record alone. -/
@[simp] theorem recordOrBlank_withProjectId (v : Volume) (project : String) :
    (v.withProjectId project).recordOrBlank = v.recordOrBlank := by
  obtain ⟨metadata, spec, status⟩ := v
  cases status with
  | none => rfl
  | some status => rfl

/-- What a volume asks of the remote API. -/
def volumeCalls : RemoteCalls VolumeSpec VolumeStatus where
  placement v :=
    .within (v.spec.project.namespaceOr v.namespaceText) v.spec.project.name (placeVolume v)
  create v :=
    .send "POST" (Gateway.volumesOf (v.projectId?.getD "")) (some (volumeRequest v).toJson)
      volumeCreation
  poll v := some <|
    match v.remoteIds? with
    | none => .known (.error volumeUnnamed)
    | some (project, volume) => .send "GET" (Gateway.volumeAt project volume) none volumeState
  push v :=
    match v.remoteIds? with
    | none => .known (.error volumeUnnamed)
    | some (project, volume) =>
        .send "PUT" (Gateway.volumeAt project volume) (some (volumeRequest v).toJson)
          (pushReply RemoteVolume.ofJson?)
  address v := v.remoteIds?.map fun (project, volume) => Gateway.volumeAt project volume
  document v := (volumeRequest v).toJson
  provisions := True
  placed v w h := by
    obtain ⟨reply, h⟩ := h
    obtain ⟨p, id, -, -, rfl⟩ := placeVolume_ok h
    exact ⟨rfl, rfl, recordOrBlank_withProjectId v id⟩
  create_sends _ := ⟨rfl, rfl⟩
  poll_sends v ask h := by
    cases h
    split
    · trivial
    · exact ⟨rfl, rfl⟩
  push_sends v := by
    split
    · trivial
    · exact ⟨rfl, rfl⟩
  create_needs _ := trivial
  push_needs v := by
    split
    · exact ⟨_, rfl⟩
    · trivial
  document_congr o p hkey hspec := by
    have hname : p.name = o.name := congrArg Prod.snd hkey
    simp only [volumeRequest, hname, hspec]
  create_state _ _ _ _ := trivial
  poll_isSome _ _ := trivial

/-- The lifecycle of volumes is the scheme applied to their calls. -/
theorem volumeLifecycle_eq : volumeLifecycle = volumeCalls.lifecycle := by
  refine Lifecycle.ext rfl ?_ ?_ ?_ rfl ?_
  · -- create: the project is looked up first in both
    funext policy g v
    refine congrArg (Procedure.call _) (funext fun reply => ?_)
    rcases reply with f | _ | p
    · rfl
    · rfl
    · show _ = Procedure.bind (.done (placeVolume v (.ok (some p)))) _
      cases hid : p.remoteId? with
      | none => simp [placeVolume, hid]
      | some id =>
          simp only [placeVolume, hid]
          exact congrArg (handleCreating policy (v.withProjectId id))
            (remote_perform_read g _ (Except.map _) fun _ => rfl)
  · -- poll
    funext policy g v
    refine congrArg (handleProvisioning policy v) ?_
    show _ = Ask.run g (match v.remoteIds? with | none => _ | some (_, _) => _)
    rcases v.remoteIds? with _ | ⟨project, volume⟩
    · rfl
    · exact remote_perform_read g _ (Except.map _) fun _ => rfl
  · -- push
    funext policy g v
    refine congrArg (handleUpdating policy v) ?_
    show _ = Ask.run g (match v.remoteIds? with | none => _ | some (_, _) => _)
    rcases v.remoteIds? with _ | ⟨project, volume⟩
    · rfl
    · exact remote_perform_read g _ (Except.map _) fun _ => rfl
  · -- remove
    funext policy g v
    refine congrArg (handleDeletion policy v _) ?_
    show _ = Ask.run g (volumeCalls.remove v)
    have haddress : volumeCalls.address v =
        v.remoteIds?.map fun (project, volume) => Gateway.volumeAt project volume := rfl
    rw [RemoteCalls.remove, haddress]
    rcases v.remoteIds? with _ | ⟨project, volume⟩
    · rfl
    · exact remote_bind _ _

end CloudReconciler
