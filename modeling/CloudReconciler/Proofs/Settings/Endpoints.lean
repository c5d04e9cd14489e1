import CloudReconciler.Proofs.Settings.Validation
import CloudReconciler.Proofs.Trace
import CloudReconciler.Remote.Gateway
import CloudReconciler.Remote.Transport

/-! # Endpoints — what is left of accepted addresses in the clients' URLs

    Validation takes the blanks around a value away and refuses what is then
    empty.  The clients go on from there and take slashes away, so a value
    of slashes only is accepted and leaves nothing.

    * `Gateway.IsRequest`: everything that is asked through a gateway;
    * `IsWired`: a transport whose replies are readings of what came over
      the wire;
    * `GatewayReached`, `BackendReached`: what the clients make of their
      addresses.  A gateway without base URL ends every request at once in a
      fault of the configuration, any other ends none so. -/

namespace CloudReconciler

open Procedure (Trace trace_call trace_done trace_bind)

/-! ## Requests of a gateway -/

/-- The fault of a gateway without base URL. -/
def Gateway.unaddressed : Fault := .configuration "api gateway url not loaded"

/-- The procedure is one request of the gateway, read in any of the ways that there are. -/
inductive Gateway.IsRequest (g : Gateway) :
    {α : Type} → Procedure GatewayCalls (Outcome α) → Prop
  | perform (method : Method) (endpoint : String) (body : Option Json) :
      IsRequest g (g.perform method endpoint body)
  | get {α : Type} (decode? : Json → Option α) (endpoint : String) :
      IsRequest g (g.get decode? endpoint)
  | post {α : Type} (decode? : Json → Option α) (endpoint : String) (body : Json) :
      IsRequest g (g.post decode? endpoint body)
  | put {α : Type} (decode? : Json → Option α) (endpoint : String) (body : Json) :
      IsRequest g (g.put decode? endpoint body)
  | delete (endpoint : String) : IsRequest g (g.delete endpoint)

/-- Requests go over the wire: what comes back is the reading of a wire's reply. -/
def Surroundings.IsWired {σ : Type} (e : Surroundings GatewayCalls σ) : Prop :=
  ∀ request s o t, e.Answers (.send request) s (.reply o) t → ∃ reply, o = Reply.ofWire reply

/-- The outcome is not a fault of the configuration. -/
def Outcome.IsConfigured {α : Type} (o : Outcome α) : Prop :=
  ∀ detail, o ≠ .error (.configuration detail)

namespace Gateway

variable {g : Gateway} {α : Type} {p : Procedure GatewayCalls (Outcome α)}

theorem isConfigured_decode (decode? : Json → Option α) (bytes : List UInt8) :
    Outcome.IsConfigured (decode decode? bytes) := by
  intro detail
  rw [decode]
  split <;> exact nofun

/-- However a reply is read, reading adds no fault of the configuration. -/
theorem IsRequest.exists_read (hp : g.IsRequest p) :
    ∃ method endpoint body, ∃ read : List UInt8 → Outcome α,
      (∀ bytes, (read bytes).IsConfigured) ∧
      p = (g.perform method endpoint body).bind fun r => .done (r >>= read) := by
  cases hp with
  | perform method endpoint body =>
      refine ⟨method, endpoint, body, .ok, fun _ _ => nofun, ?_⟩
      refine (Procedure.bind_done_right _).symm.trans (congrArg _ (funext fun r => ?_))
      cases r <;> rfl
  | get decode? endpoint =>
      exact ⟨"GET", endpoint, none, decode decode?, isConfigured_decode decode?, rfl⟩
  | post decode? endpoint body =>
      exact ⟨"POST", endpoint, some body, decode decode?, isConfigured_decode decode?, rfl⟩
  | put decode? endpoint body =>
      refine ⟨"PUT", endpoint, some body, _, fun bytes detail => ?_, rfl⟩
      split
      · exact nofun
      · rw [decode]
        split <;> exact nofun
  | delete endpoint =>
      refine ⟨"DELETE", endpoint, none, fun _ => .ok (), fun _ _ => nofun, ?_⟩
      show (g.perform "DELETE" endpoint none).bind _ = _
      refine congrArg _ (funext fun r => ?_)
      cases r <;> rfl

/-- Without a base URL nothing is asked. -/
theorem IsRequest.eq_done (hp : g.IsRequest p) (hbase : g.baseUrl = "") :
    p = .done (.error unaddressed) := by
  obtain ⟨method, endpoint, body, read, -, rfl⟩ := hp.exists_read
  rw [Gateway.perform, if_pos hbase]
  rfl

end Gateway

theorem Reply.isConfigured_body? (method : Method) (r : Reply) :
    (r.body? method).IsConfigured := by
  intro detail
  rw [body?]
  split
  · exact nofun
  · split <;> exact nofun

theorem Reply.isConfigured_ofWire (reply : Except Http.WireFault Http.WireReply) :
    (ofWire reply).IsConfigured := by
  intro detail
  cases reply with
  | error f => exact nofun
  | ok r =>
      rw [ofWire.eq_def]
      dsimp only
      cases r.bytes <;> exact nofun

namespace Gateway

variable {g : Gateway} {α σ : Type} {p : Procedure GatewayCalls (Outcome α)}
  {e : Surroundings GatewayCalls σ} {s t : σ} {τ : List (Answer GatewayCalls σ)} {o : Outcome α}

/-- With a base URL no request over the wire ends in a fault of the configuration. -/
theorem isConfigured_perform {method : Method} {endpoint : String} {body : Option Json}
    {o : Outcome (List UInt8)} (he : e.IsWired) (hbase : g.baseUrl ≠ "")
    (h : Trace e (g.perform method endpoint body) s τ o t) : o.IsConfigured := by
  rw [perform, if_neg hbase] at h
  obtain ⟨stopped, _, _, _, -, -, h, -⟩ := trace_call.1 h
  cases stopped with
  | true =>
      obtain ⟨-, rfl, -⟩ := trace_done.1 h
      exact fun _ => nofun
  | false =>
      obtain ⟨wake, _, _, _, hanswer, -, h, -⟩ := trace_call.1 h
      rcases wake with (f | reply) | late
      · obtain ⟨-, rfl, -⟩ := trace_done.1 h
        obtain ⟨reply, hreply⟩ := he _ _ _ _ hanswer
        have hwired := Reply.isConfigured_ofWire reply
        rw [← hreply] at hwired
        exact fun detail hf => hwired detail (congrArg Except.error (Except.error.inj hf))
      · obtain ⟨-, rfl, -⟩ := trace_done.1 h
        exact reply.isConfigured_body? method
      · obtain ⟨-, rfl, -⟩ := trace_done.1 h
        exact fun _ => nofun

theorem IsRequest.isConfigured (hp : g.IsRequest p) (he : e.IsWired) (hbase : g.baseUrl ≠ "")
    (h : Trace e p s τ o t) : o.IsConfigured := by
  obtain ⟨method, endpoint, body, read, hread, rfl⟩ := hp.exists_read
  obtain ⟨_, r, _, _, hperform, hdone, -⟩ := trace_bind.1 h
  obtain ⟨-, rfl, -⟩ := trace_done.1 hdone
  have hr := isConfigured_perform he hbase hperform
  cases r with
  | error f => exact fun detail hf => hr detail (congrArg Except.error (Except.error.inj hf))
  | ok bytes => exact hread bytes

end Gateway

/-! ## Addresses of the backend -/

namespace Http

namespace Url

theorem scheme?_slash (cs : List Char) : scheme? ('/' :: cs) = none := by
  rw [scheme?, cut]
  cases ('/' :: cs).dropWhile (· ≠ ':') with
  | nil => rfl
  | cons c rest => rfl

/-- What is left of an address that begins with a slash begins with it. -/
theorem exists_cleaned_eq_cons {s : String} (h : s.toList.head? = some '/') :
    ∃ cs, cleaned s = '/' :: cs := by
  obtain ⟨cs, hs⟩ := List.head?_eq_some_iff.1 h
  have hinner : ∃ ds, Text.dropEnd (· ≤ ' ') ('/' :: cs) = '/' :: ds := by
    cases hdrop : Text.dropEnd (· ≤ ' ') ('/' :: cs) with
    | nil =>
        have hslash := (Text.dropEnd_eq_nil_iff _ _).1 hdrop '/' List.mem_cons_self
        exact absurd hslash (by decide)
    | cons d ds =>
        have hfirst := Text.head?_dropEnd (congrArg List.head? hdrop)
        cases hfirst
        exact ⟨ds, rfl⟩
  obtain ⟨ds, hds⟩ := hinner
  refine ⟨ds.filter fun c => !(c ∈ ['\t', '\n', '\r']), ?_⟩
  rw [cleaned, hs]
  show (Text.dropEnd (· ≤ ' ') ('/' :: cs)).filter _ = _
  rw [hds]
  rfl

/-- A text that begins with a slash is no address: it lacks a scheme. -/
theorem read?_eq_none {s : String} (h : s.toList.head? = some '/') : read? s = none := by
  obtain ⟨cs, hcs⟩ := exists_cleaned_eq_cons h
  rw [read?, hcs, scheme?_slash]
  rfl

end Url

/-- A draft without address is never sent. -/
theorem Draft.send_eq_done {d : Draft} (h : Url.read? d.url = none) :
    d.send = .done (.error (.unbuilt none)) := by
  have hbuild : d.build = .error (.unbuilt none) := by
    rw [build, h]
  rw [send, hbuild]

end Http

namespace BackendAddress

variable {b : BackendAddress}

theorem endpoint_head? (hb : b.address = "") (path : String) :
    (b.endpoint path).toList.head? = some '/' := by
  rw [endpoint, hb, String.empty_append, String.toList_append]
  rfl

/-- Without an address a login fails before it is sent. -/
theorem login_eq_done (hb : b.address = "") (c : RoleCredentials) :
    b.login c =
      .done (.error (.secretBackend "approle login request failed: builder error")) := by
  have hsend := Http.Draft.send_eq_done (d := b.loginDraft c)
    (Http.Url.read?_eq_none (endpoint_head? hb _))
  rw [login, session, hsend]
  rfl

/-- Without an address a secret is never asked for. -/
theorem read_eq_done (hb : b.address = "") (token mount path : String) :
    b.read token mount path =
      .done (.error (.secretBackend "secret read request failed: builder error")) := by
  have hsend := Http.Draft.send_eq_done (d := b.readDraft token mount path)
    (Http.Url.read?_eq_none (endpoint_head? hb _))
  rw [read, hsend]
  rfl

theorem loginUrl_eq (b : BackendAddress) :
    b.loginUrl = b.address ++ "/v1/auth/" ++ b.rolePath ++ "/login" := by
  simp only [loginUrl, endpoint, String.append_assoc]
  rfl

theorem readUrl_eq (b : BackendAddress) (mount path : String) :
    b.readUrl mount path = b.address ++ "/v1/" ++ Text.trimOf '/' mount ++ "/data/" ++
      Text.trimOf '/' path := by
  simp only [readUrl, endpoint, String.append_assoc]

end BackendAddress

/-! ## Accepted addresses -/

namespace Settings

/-- What the client makes of a gateway's URL: it is left without base URL exactly by slashes.  Then
    every request ends at once in the fault of a missing URL, and otherwise none that goes over
    the wire ends in a fault of the configuration. -/
structure GatewayReached (url : String) : Prop where
  baseUrl_eq_empty_iff : (Gateway.ofUrl url).baseUrl = "" ↔ Text.HoldsOnly '/' url
  unsent : Text.HoldsOnly '/' url → ∀ (g : Gateway) {α : Type}
    (p : Procedure GatewayCalls (Outcome α)), g.baseUrl = (Gateway.ofUrl url).baseUrl →
    g.IsRequest p → p = .done (.error (.configuration "api gateway url not loaded"))
  sent : ¬ Text.HoldsOnly '/' url → ∀ (g : Gateway) {α σ : Type}
    (p : Procedure GatewayCalls (Outcome α)) (e : Surroundings GatewayCalls σ) (s t : σ)
    (τ : List (Answer GatewayCalls σ)) (o : Outcome α),
    g.baseUrl = (Gateway.ofUrl url).baseUrl → g.IsRequest p → e.IsWired →
    Trace e p s τ o t → o.IsConfigured

/-- What the client makes of a backend's address and mounts: each is a part of the URLs for logins
    and secrets, and is left empty there exactly by slashes.  Without an address nothing is sent. -/
structure BackendReached (b : BackendAddress) (address rolePath mount : String) : Prop where
  loginUrl_eq : b.loginUrl = b.address ++ "/v1/auth/" ++ b.rolePath ++ "/login"
  readUrl_eq : ∀ path, b.readUrl mount path =
    b.address ++ "/v1/" ++ Text.trimOf '/' mount ++ "/data/" ++ Text.trimOf '/' path
  address_eq_empty_iff : b.address = "" ↔ Text.HoldsOnly '/' address
  rolePath_eq_empty_iff : b.rolePath = "" ↔ Text.HoldsOnly '/' rolePath
  mount_eq_empty_iff : Text.trimOf '/' mount = "" ↔ Text.HoldsOnly '/' mount
  unsent : Text.HoldsOnly '/' address →
    (∀ c, b.login c =
      .done (.error (.secretBackend "approle login request failed: builder error"))) ∧
    ∀ token path, b.read token mount path =
      .done (.error (.secretBackend "secret read request failed: builder error"))

theorem gatewayReached (url : String) : GatewayReached url where
  baseUrl_eq_empty_iff := Text.trimEndOf_eq_empty_iff
  unsent hslashes g _ p hbase hp :=
    hp.eq_done (hbase.trans (Text.trimEndOf_eq_empty_iff.2 hslashes))
  sent hslashes g _ _ p e s t τ o hbase hp he h := by
    refine hp.isConfigured he (fun hempty => hslashes ?_) h
    exact Text.trimEndOf_eq_empty_iff.1 (hbase.symm.trans hempty)

theorem backendReached (address rolePath mount : String) (namespace_ : Option String) :
    BackendReached (.ofSettings address rolePath namespace_) address rolePath mount where
  loginUrl_eq := BackendAddress.loginUrl_eq _
  readUrl_eq := BackendAddress.readUrl_eq _ mount
  address_eq_empty_iff := Text.trimEndOf_eq_empty_iff
  rolePath_eq_empty_iff := Text.trimOf_eq_empty_iff
  mount_eq_empty_iff := Text.trimOf_eq_empty_iff
  unsent hslashes := by
    have haddress := Text.trimEndOf_eq_empty_iff.2 hslashes
    exact ⟨BackendAddress.login_eq_done haddress,
      fun token => BackendAddress.read_eq_done haddress token mount⟩

/-- A value that is required is used without the blanks around it. -/
theorem exists_trimmed {value : Option String} {key : String}
    (h : ∃ text, required value key = .ok text) :
    ∃ text, required value key = .ok text ∧ value.map Text.trim = some text := by
  obtain ⟨text, htext⟩ := h
  exact ⟨text, htext, (map_trim_of_present (required_eq_ok_iff.1 htext)).1⟩

/-- Accepted settings have a URL of the gateway, and with the backend enabled an address and two
    mounts, each without the blanks around it.  After the clients' own trimming each of them is
    still there unless it consists of slashes only: a gateway with a base URL never ends a request
    in a fault of the configuration, and no part of the backend's URLs is empty.  Where only
    slashes were given, the gateway ends every request in the fault of a missing URL, and a backend
    without address is never asked. -/
theorem accepted_endpoints (s : Settings) (h : s.validate = .ok ()) :
    (∃ url, s.gateway = .ok url ∧ s.gatewayUrl.map Text.trim = some url ∧ GatewayReached url) ∧
    (s.backendEnabled = true → ∃ address rolePath mount,
      (s.backendAddress = .ok address ∧ s.backendUrl.map Text.trim = some address) ∧
      (s.loginMount = .ok rolePath ∧ s.rolePath.map Text.trim = some rolePath) ∧
      (s.secretMount = .ok mount ∧ s.kvMount.map Text.trim = some mount) ∧
      BackendReached (.ofSettings address rolePath s.namespace_) address rolePath mount) := by
  obtain ⟨hsupplies, -⟩ := validate_eq_ok_iff.1 h
  obtain ⟨url, hurl, htrimmed⟩ := exists_trimmed hsupplies.gateway
  refine ⟨⟨url, hurl, htrimmed, gatewayReached url⟩, fun hbackend => ?_⟩
  obtain ⟨haddress, hrole, hmount, -⟩ := hsupplies.backend hbackend
  obtain ⟨address, haddress⟩ := exists_trimmed haddress
  obtain ⟨rolePath, hrole⟩ := exists_trimmed hrole
  obtain ⟨mount, hmount⟩ := exists_trimmed hmount
  exact ⟨address, rolePath, mount, haddress, hrole, hmount,
    backendReached address rolePath mount s.namespace_⟩

/-- Settings with slashes at the ends of addresses and mounts. -/
def slashEnded : Settings where
  gatewayUrl := some " https://api.example.com/ "
  identityUrl := some "https://login.example.com/auth"
  realm := some "tenants"
  backendEnabled := true
  backendUrl := some "https://vault:8200//"
  rolePath := some "/approle/"
  kvMount := some "kv/"
  roleId := some "role"
  roleSecret := some "secret"

/-- The same settings with nothing but slashes. -/
def slashesOnly : Settings :=
  { slashEnded with
    gatewayUrl := some " / ", backendUrl := some "//", rolePath := some "/", kvMount := some "//" }

/-- Slashes at the ends do no harm: the gateway has its base URL, and every part of the backend's
    URLs is there. -/
theorem accepted_endpoints_slashEnded :
    slashEnded.validate = .ok () ∧
    (∃ url, slashEnded.gateway = .ok url ∧ GatewayReached url ∧
      (Gateway.ofUrl url).baseUrl = "https://api.example.com") ∧
    ∃ address rolePath mount, slashEnded.backendAddress = .ok address ∧
      slashEnded.loginMount = .ok rolePath ∧ slashEnded.secretMount = .ok mount ∧
      BackendReached (.ofSettings address rolePath none) address rolePath mount ∧
      (BackendAddress.ofSettings address rolePath none).loginUrl =
        "https://vault:8200/v1/auth/approle/login" ∧
      (BackendAddress.ofSettings address rolePath none).readUrl mount "acme" =
        "https://vault:8200/v1/kv/data/acme" := by
  have hvalid : slashEnded.validate = .ok () := by decide +kernel
  obtain ⟨⟨url, hurl, -, hgateway⟩, hbackend⟩ := accepted_endpoints slashEnded hvalid
  obtain ⟨address, rolePath, mount, haddress, hrole, hmount, hreached⟩ := hbackend rfl
  refine ⟨hvalid, ⟨url, hurl, hgateway, ?_⟩,
    address, rolePath, mount, haddress.1, hrole.1, hmount.1, hreached, ?_, ?_⟩
  · have hvalue : slashEnded.gateway = .ok "https://api.example.com/" := by decide +kernel
    cases hurl.symm.trans hvalue
    decide +kernel
  all_goals
    have haddress' : slashEnded.backendAddress = .ok "https://vault:8200//" := by decide +kernel
    have hrole' : slashEnded.loginMount = .ok "/approle/" := by decide +kernel
    have hmount' : slashEnded.secretMount = .ok "kv/" := by decide +kernel
    cases haddress.1.symm.trans haddress'
    cases hrole.1.symm.trans hrole'
    cases hmount.1.symm.trans hmount'
    decide +kernel

/-- Settings of slashes only are accepted.  The gateway is left without base URL and ends requests
    in the fault of a missing one, and the backend's URLs lack the address and both mounts. -/
theorem slashesOnly_accepted :
    slashesOnly.validate = .ok () ∧
    slashesOnly.gateway = .ok "/" ∧ (Gateway.ofUrl "/").baseUrl = "" ∧
    ((Gateway.ofUrl "/").authorized "token").delete "/projects/p-1" =
      .done (.error (.configuration "api gateway url not loaded")) ∧
    slashesOnly.backendAddress = .ok "//" ∧ slashesOnly.loginMount = .ok "/" ∧
    slashesOnly.secretMount = .ok "//" ∧
    (BackendAddress.ofSettings "//" "/" none).address = "" ∧
    (BackendAddress.ofSettings "//" "/" none).loginUrl = "/v1/auth//login" ∧
    (BackendAddress.ofSettings "//" "/" none).readUrl "//" "acme" = "/v1//data/acme" := by
  refine ⟨by decide +kernel, by decide +kernel, by decide +kernel, ?_, by decide +kernel,
    by decide +kernel, by decide +kernel, by decide +kernel, by decide +kernel, by decide +kernel⟩
  exact Gateway.IsRequest.eq_done (.delete "/projects/p-1") (by decide +kernel)

end Settings

end CloudReconciler
