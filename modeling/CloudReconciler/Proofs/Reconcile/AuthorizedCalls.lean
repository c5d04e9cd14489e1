import CloudReconciler.Proofs.Interleaving
import CloudReconciler.Proofs.Reconcile.RemoteCalls

/-! # Authorized calls — what an invocation does with its gateway

    Once it is authenticated, an invocation neither reads its object again
    nor authenticates again, and all its requests are made by the one
    gateway that it was given.  This is a property of the text of the
    invocation: it holds whatever the calls are answered, and so in every
    interleaving. -/

namespace CloudReconciler

/-- A call that an authenticated invocation may make: a request is one of its gateway. -/
def EngineCall.IsAuthorized {O : Type} (g : Gateway) : EngineCall O → Prop
  | .authenticate _ => False
  | .fetch _ _ => False
  | .remote (.send r) => ∃ method endpoint body, r = g.request method endpoint body
  | _ => True

/-- The headers of a request that authorize it; the names of headers are told apart without case. -/
def Request.authorizations (r : Request) : List (String × String) :=
  r.headers.filter fun header => asciiLower header.1 == "authorization"

theorem asciiLower_authorization : (asciiLower "Authorization" == "authorization") = true := by
  decide +kernel

theorem Request.mem_authorizations {r : Request} {value : String}
    (h : ("Authorization", value) ∈ r.headers) : ("Authorization", value) ∈ r.authorizations :=
  List.mem_filter.2 ⟨h, asciiLower_authorization⟩

/-- A gateway with a token authorizes its requests with it, and with nothing else. -/
theorem Gateway.authorizations_request (g : Gateway) (token : String) (method : Method)
    (endpoint : String) (body : Option Json) :
    ((g.authorized token).request method endpoint body).authorizations =
      [("Authorization", "Bearer " ++ token)] := by
  have htype : (asciiLower "Content-Type" == "authorization") = false := by decide +kernel
  have haccept : (asciiLower "Accept" == "authorization") = false := by decide +kernel
  simp only [Request.authorizations, request, authorized, List.cons_append, List.nil_append,
    List.filter_cons, List.filter_nil, htype, haccept, asciiLower_authorization,
    Bool.false_eq_true, if_false, if_true]

section

variable {O α : Type} {g : Gateway}

theorem isAuthorized_ask (ask : Ask α) :
    (ask.run g : Engine O (Outcome α)).Every (EngineCall.IsAuthorized g) := by
  cases ask with
  | known outcome => trivial
  | send method endpoint body read =>
      refine Procedure.Every.bind ?_ fun _ => trivial
      rw [Gateway.perform]
      split
      · trivial
      · refine ⟨trivial, fun stopped => ?_⟩
        cases stopped with
        | true => trivial
        | false =>
            refine ⟨⟨method, endpoint, body, rfl⟩, fun wake => ?_⟩
            -- nothing follows, however the request ends
            rcases wake with (f | reply) | late <;> trivial

theorem isAuthorized_placement (p : Placement O) : p.run.Every (EngineCall.IsAuthorized g) := by
  cases p with
  | here o => trivial
  | within namespace_ name read => exact ⟨trivial, fun _ => trivial⟩

end

variable {Spec St : Type} [Managed Spec St] {policy : Policy} {g : Gateway}
  {o : Resource Spec St} {c : RemoteCalls Spec St}

theorem isAuthorized_next (t : Transition) :
    (t.next policy o).Every (EngineCall.IsAuthorized g) := by
  refine ⟨trivial, fun now => ?_⟩
  dsimp only
  split
  · trivial
  · refine ⟨trivial, fun reply => ?_⟩
    cases reply with
    | ok stored => trivial
    | error f => trivial

theorem isAuthorized_timeout :
    (enforceTimeout policy o).Every (EngineCall.IsAuthorized g) := by
  rw [enforceTimeout]
  split
  · trivial
  · split
    · refine ⟨trivial, fun now => ?_⟩
      dsimp only
      split
      · trivial
      · exact (isAuthorized_next _).bind fun _ => trivial
    · trivial

theorem isAuthorized_deletion :
    (beginDeletion policy o).Every (EngineCall.IsAuthorized g) := by
  rw [beginDeletion]
  split
  · exact (isAuthorized_next _).bind fun _ => trivial
  · trivial

theorem isAuthorized_initialize {finalizer : String} :
    (initializeResource policy o finalizer).Every (EngineCall.IsAuthorized g) := by
  rw [initializeResource]
  split
  · exact isAuthorized_next _
  · refine ⟨trivial, fun reply => ?_⟩
    cases reply with
    | ok stored => exact isAuthorized_next _
    | error f => exact isAuthorized_next _

theorem isAuthorized_create :
    (c.lifecycle.create policy g o).Every (EngineCall.IsAuthorized g) := by
  refine (isAuthorized_placement _).bind fun located => ?_
  cases located with
  | error f => exact isAuthorized_next _
  | ok p =>
      refine (isAuthorized_ask _).bind fun created => ?_
      cases created with
      | error f => exact isAuthorized_next _
      | ok creation => exact isAuthorized_next _

theorem isAuthorized_poll : (c.lifecycle.poll policy g o).Every (EngineCall.IsAuthorized g) := by
  rw [RemoteCalls.lifecycle]
  dsimp only
  split
  · trivial
  · refine (isAuthorized_ask _).bind fun polled => ?_
    cases polled with
    | error f => exact isAuthorized_next _
    | ok state => exact isAuthorized_next _

theorem isAuthorized_push : (c.lifecycle.push policy g o).Every (EngineCall.IsAuthorized g) := by
  refine (isAuthorized_ask _).bind fun pushed => ?_
  cases pushed with
  | error f => exact isAuthorized_next _
  | ok _ => exact isAuthorized_next _

theorem isAuthorized_check : (checkForUpdates policy o).Every (EngineCall.IsAuthorized g) := by
  rw [checkForUpdates]
  split
  · trivial
  · exact isAuthorized_next _

theorem isAuthorized_remove :
    (c.lifecycle.remove policy g o).Every (EngineCall.IsAuthorized g) := by
  refine (isAuthorized_ask _).bind fun removed => ?_
  cases removed with
  | error f => exact isAuthorized_next _
  | ok _ =>
      dsimp only
      split
      · refine ⟨trivial, fun reply => ?_⟩
        cases reply with
        | ok stored => trivial
        | error f =>
            dsimp only
            split
            · trivial
            · exact isAuthorized_next _
      · trivial

theorem isAuthorized_serve : (c.lifecycle.serve policy g o).Every (EngineCall.IsAuthorized g) := by
  rw [Lifecycle.serve]
  cases o.phase with
  | uninitialized => exact isAuthorized_initialize
  | creating => exact isAuthorized_create
  | provisioning => exact isAuthorized_poll
  | updating => exact isAuthorized_push
  | created => exact isAuthorized_check
  | deleting => exact isAuthorized_remove
  | deleted | failed => trivial

/-- All requests of an authenticated invocation are made by the gateway that it was given. -/
theorem isAuthorized_advance {s : Setting (Resource Spec St)} (hl : s.lifecycle = c.lifecycle) :
    (s.advance g o).Every (EngineCall.IsAuthorized g) := by
  refine isAuthorized_timeout.bind fun settled => ?_
  cases settled with
  | some stage => trivial
  | none =>
      refine isAuthorized_deletion.bind fun settled => ?_
      cases settled with
      | some stage => trivial
      | none =>
          dsimp only
          rw [hl]
          exact isAuthorized_serve

/-! ## After the object is read -/

/-- The rest of an invocation that has read its object. -/
def Setting.attend (s : Setting (Resource Spec St)) (o : Resource Spec St) :
    Engine (Resource Spec St) (Outcome Action) :=
  if o.tenant?.getD "" = "" ∧ s.multiTenant = true then .done (.error tenantMissing)
  else
    .call (.authenticate (o.tenant?.getD "")) fun
      | .error f => .done (.error f)
      | .ok token => (s.advance (s.gateway.authorized token) o).bind fun stage => .done stage.result

theorem Setting.reconcile_eq (s : Setting (Resource Spec St)) (namespace_ name : String) :
    s.reconcile namespace_ name = .call (.fetch namespace_ name) fun
      | .error f => .done (.error f)
      | .ok none => .done (.ok .awaitChange)
      | .ok (some o) => s.attend o := by
  refine congrArg (Procedure.call _) (funext fun reply => ?_)
  rcases reply with f | _ | o
  · rfl
  · rfl
  · show _ = s.attend o
    rw [attend]
    refine congrArg (ite _ _) (congrArg (Procedure.call _) (funext fun reply => ?_))
    cases reply with
    | error f => rfl
    | ok token => rfl

end CloudReconciler
