import CloudReconciler.Proofs.Operator
import CloudReconciler.Proofs.Reconcile.AuthorizedCalls
import CloudReconciler.Proofs.Scripted.Contract

/-! # Tenant isolation — where every token comes from

    Tokens and credentials pass from one invocation to another through the
    maps of the token manager.  Yet each of them stays with its tenant key:
    what is assigned to a key was read from the key's own secret, and what
    is cached for a key was granted for such credentials.  This is an
    invariant of all interleavings (`Provenance`), and every invocation
    calls as it allows (`Permitted`): it looks up, assigns and caches under
    the key of its own object only.  A request is therefore authorized by a
    token of its own tenant, and the default credentials are never reached. -/

namespace CloudReconciler

/-- A history of the operator, newest first. -/
abbrev OperatorLog (ι : Type) : Type := List (Event ι OperatorCalls ManagerState)

namespace Answer

variable {σ : Type}

/-- The tenant key of the object, if the invocation has read one to reconcile. -/
def servedKey? : Answer OperatorCalls σ → Option String
  | ⟨.engine _ (.fetch _ _), .ok (some o), _, _⟩ => some (tenantKey (o.tenant?.getD ""))
  | _ => none

/-- The path of a secret and the credentials in it, if complete ones were read. -/
def secretRead? : Answer OperatorCalls σ → Option (String × ClientCredentials)
  | ⟨.credentials (.readSecret path), reply, _, _⟩ =>
      match Except.bind reply ClientCredentials.ofSecret with
      | .ok credentials => some (path, credentials)
      | .error _ => none
  | _ => none

/-- The credentials of a login and the token that the identity provider has returned for it. -/
def granted? : Answer OperatorCalls σ → Option (ClientCredentials × String)
  | ⟨.credentials (.login credentials), .reply (.ok grant), _, _⟩ =>
      some (credentials, grant.accessToken)
  | _ => none

/-- Only the first call of an invocation reads the object that is served. -/
theorem call_of_servedKey? {a : Answer OperatorCalls σ} {key : String}
    (h : a.servedKey? = some key) :
    ∃ k namespace_ name, a.call = .engine k (.fetch namespace_ name) := by
  obtain ⟨c, reply, s, t⟩ := a
  cases c with
  | credentials c => exact nomatch h
  | engine k c =>
      cases c with
      | fetch namespace_ name => exact ⟨k, namespace_, name, rfl⟩
      | now | authenticate _ | fetchProject _ _ | update _ | updateStatus _ | remote _ =>
          exact nomatch h

end Answer

/-! ## Provenance -/

section

variable {ι : Type} {log log' : OperatorLog ι} {i : ι} {key token : String}
  {credentials : ClientCredentials}

/-- The task reconciles an object whose tenant has the key. -/
def ActsFor (log : OperatorLog ι) (i : ι) (key : String) : Prop :=
  ∃ ev ∈ log, ev.task = i ∧ ev.servedKey? = some key

/-- The credentials were read from the secret at the key, by a task that acts for the key. -/
def ReadFor (log : OperatorLog ι) (key : String) (credentials : ClientCredentials) : Prop :=
  ∃ ev ∈ log, ev.secretRead? = some (key, credentials) ∧ ActsFor log ev.task key

/-- The token is not empty, and the identity provider has returned it for the login of a task that
    acted for the key, with credentials that had been read for the key. -/
def GrantedFor (log : OperatorLog ι) (key token : String) : Prop :=
  token ≠ "" ∧ ∃ later ev earlier credentials, log = later ++ ev :: earlier ∧
    ev.granted? = some (credentials, token) ∧ ActsFor earlier ev.task key ∧
    ReadFor earlier key credentials

theorem ActsFor.mono (h : ActsFor log i key) (hlog : log <:+ log') : ActsFor log' i key := by
  obtain ⟨ev, hev, hkey⟩ := h
  exact ⟨ev, hlog.mem hev, hkey⟩

theorem ReadFor.mono (h : ReadFor log key credentials) (hlog : log <:+ log') :
    ReadFor log' key credentials := by
  obtain ⟨ev, hev, hread, hacts⟩ := h
  exact ⟨ev, hlog.mem hev, hread, hacts.mono hlog⟩

theorem GrantedFor.mono (h : GrantedFor log key token) (hlog : log <:+ log') :
    GrantedFor log' key token := by
  obtain ⟨hne, later, ev, earlier, credentials, rfl, hgrant⟩ := h
  obtain ⟨newer, rfl⟩ := hlog
  exact ⟨hne, newer ++ later, ev, earlier, credentials, (List.append_assoc ..).symm, hgrant⟩

/-- The key has been assigned credentials. -/
def IsAssigned (log : OperatorLog ι) (key : String) : Prop :=
  ∃ ev ∈ log, ∃ credentials, ev.call = .credentials (.assign key credentials)

theorem IsAssigned.mono (h : IsAssigned log key) (hlog : log <:+ log') : IsAssigned log' key := by
  obtain ⟨ev, hev, hcall⟩ := h
  exact ⟨ev, hlog.mem hev, hcall⟩

/-- Where everything in the manager's maps has come from. -/
structure Provenance (log : OperatorLog ι) (s : ManagerState) : Prop where
  /-- A task acts for one key. -/
  one : ∀ i key key', ActsFor log i key → ActsFor log i key' → key = key'
  assigned : ∀ key credentials, s.assigned.find? key = some credentials →
    ReadFor log key credentials
  cached : ∀ key token, s.cache.find? key = some token →
    GrantedFor log key token.grant.accessToken
  /-- A key that was assigned credentials has some. -/
  kept : ∀ key, IsAssigned log key → (s.assigned.find? key).isSome

/-- The request is authorized with a token for the key that the task acts for, and with nothing
    else. -/
def AuthorizedFor (log : OperatorLog ι) (i : ι) (r : Request) : Prop :=
  ∃ key token, ActsFor log i key ∧ GrantedFor log key token ∧
    r.authorizations = [("Authorization", "Bearer " ++ token)]

/-- What an invocation may call at a point of the history. -/
def Permitted (log : OperatorLog ι) (i : ι) : OperatorCall → Prop
  | .engine _ (.fetch _ _) => ∀ ev ∈ log, ev.task ≠ i
  | .engine _ (.remote (.send r)) => AuthorizedFor log i r
  | .credentials (.readSecret path) => ActsFor log i path
  | .credentials (.assign key credentials) => ReadFor log key credentials
  | .credentials (.credentialsFor key) => IsAssigned log key
  | .credentials (.login credentials) => ∃ key, ActsFor log i key ∧ ReadFor log key credentials
  | .credentials (.remember key token) => GrantedFor log key token.grant.accessToken
  | _ => True

/-! ## Every permitted call keeps the provenance -/

variable {s t : ManagerState} {ev : Event ι OperatorCalls ManagerState}

/-- An answer keeps the provenance if whatever it has put into the maps has come from where it
    should. -/
theorem Provenance.cons (h : Provenance log s)
    (hread : ∀ key, ev.servedKey? = some key → ∀ x ∈ log, x.task ≠ ev.task)
    (hassigned : ∀ key credentials, t.assigned.find? key = some credentials →
      s.assigned.find? key = some credentials ∨ ReadFor log key credentials)
    (hcached : ∀ key token, t.cache.find? key = some token →
      s.cache.find? key = some token ∨ GrantedFor log key token.grant.accessToken)
    (hkept : ∀ key, (s.assigned.find? key).isSome → (t.assigned.find? key).isSome)
    (hnew : ∀ key credentials, ev.call = .credentials (.assign key credentials) →
      (t.assigned.find? key).isSome) :
    Provenance (ev :: log) t := by
  have hlog : log <:+ ev :: log := List.suffix_cons ev log
  refine ⟨?_, ?_, ?_, ?_⟩
  · rintro i key key' ⟨x, hx, rfl, hkey⟩ ⟨x', hx', htask, hkey'⟩
    rcases List.mem_cons.1 hx with rfl | hold
    · rcases List.mem_cons.1 hx' with rfl | hold'
      · exact Option.some.inj (hkey.symm.trans hkey')
      · exact absurd htask (hread key hkey x' hold')
    · rcases List.mem_cons.1 hx' with rfl | hold'
      · exact absurd htask.symm (hread key' hkey' x hold)
      · exact h.one x.task key key' ⟨x, hold, rfl, hkey⟩ ⟨x', hold', htask, hkey'⟩
  · intro key credentials hfind
    rcases hassigned key credentials hfind with hold | hread
    · exact (h.assigned key credentials hold).mono hlog
    · exact hread.mono hlog
  · intro key token hfind
    rcases hcached key token hfind with hold | hgranted
    · exact (h.cached key token hold).mono hlog
    · exact hgranted.mono hlog
  · rintro key ⟨x, hx, credentials, hcall⟩
    rcases List.mem_cons.1 hx with rfl | hold
    · exact hnew key credentials hcall
    · exact hkept key (h.kept key ⟨x, hold, credentials, hcall⟩)

/-- An answer that leaves the maps alone keeps the provenance. -/
theorem Provenance.untouched (h : Provenance log s) (hcache : t.cache = s.cache)
    (hassigned : t.assigned = s.assigned)
    (hread : ∀ key, ev.servedKey? = some key → ∀ x ∈ log, x.task ≠ ev.task)
    (hnew : ∀ key credentials, ev.call ≠ .credentials (.assign key credentials)) :
    Provenance (ev :: log) t := by
  refine h.cons hread ?_ ?_ ?_ fun key credentials hcall => absurd hcall (hnew key credentials)
  · exact fun key credentials hfind => .inl (hassigned ▸ hfind)
  · exact fun key token hfind => .inl (hcache ▸ hfind)
  · exact fun key hsome => hassigned ▸ hsome

/-- Every permitted call keeps the provenance, whatever it is answered. -/
theorem Provenance.step {fallback : Option ClientCredentials} {c : OperatorCall}
    {reply : OperatorCalls.Reply c} (h : Provenance log s) (hc : Permitted log i c)
    (ha : (operatorSurroundings fallback).Answers c s reply t) :
    Provenance (⟨⟨c, reply, s, t⟩, i⟩ :: log) t := by
  cases c with
  | engine k c =>
      obtain rfl := ha
      refine h.untouched rfl rfl (fun key hkey => ?_) fun _ _ hcall => nomatch hcall
      -- only reading the object makes the task act for a key, and that is its first call
      obtain ⟨k', namespace_, name, hcall⟩ := Answer.call_of_servedKey? hkey
      cases hcall
      exact hc
  | credentials c =>
      have hnone : ∀ key, (⟨⟨.credentials c, reply, s, t⟩, i⟩ :
          Event ι OperatorCalls ManagerState).servedKey? = some key →
          ∀ x ∈ log, x.task ≠ i := fun _ hkey => nomatch hkey
      cases c with
      | now | isCancelled | login _ | readSecret _ | unlock =>
          obtain rfl := ha
          exact h.untouched rfl rfl hnone fun _ _ hcall => nomatch hcall
      | cached _ | credentialsFor _ =>
          obtain ⟨-, rfl⟩ := ha
          exact h.untouched rfl rfl hnone fun _ _ hcall => nomatch hcall
      | lock =>
          rcases reply with _ | late
          · obtain ⟨-, rfl⟩ := ha
            exact h.untouched rfl rfl hnone fun _ _ hcall => nomatch hcall
          · obtain rfl := ha
            exact h.untouched rfl rfl hnone fun _ _ hcall => nomatch hcall
      | remember key token =>
          obtain rfl := ha
          refine h.cons hnone (fun _ _ => .inl) (fun key' token' hfind => ?_) (fun _ => id)
            fun _ _ hcall => nomatch hcall
          rw [Table.find?_insert] at hfind
          split at hfind
          · next heq =>
              cases heq
              cases hfind
              exact .inr hc
          · exact .inl hfind
      | assign key credentials =>
          obtain rfl := ha
          refine h.cons hnone (fun key' credentials' hfind => ?_) (fun _ _ => .inl)
            (fun key' hsome => ?_) fun key' credentials' hcall => ?_
          · rw [Table.find?_insert] at hfind
            split at hfind
            · next heq =>
                cases heq
                cases hfind
                exact .inr hc
            · exact .inl hfind
          · rw [Table.find?_insert]
            split
            · rfl
            · exact hsome
          · cases hcall
            rw [Table.find?_insert, if_pos rfl]
            rfl

/-- Every invocation calls what is permitted, and every answer keeps the provenance. -/
def tenantDiscipline (ι : Type) (fallback : Option ClientCredentials) :
    Discipline ι OperatorCalls ManagerState where
  surroundings := operatorSurroundings fallback
  Allows := Permitted
  Inv := Provenance
  drifts hd h := hd ▸ ⟨h.one, h.assigned, h.cached, h.kept⟩
  step h hc ha := h.step hc ha

end

/-! ## Every invocation calls what is permitted -/

section

variable {ι : Type} {fallback : Option ClientCredentials} {i : ι} {log : OperatorLog ι}
  {key : String} {α : Type} {Post : α → OperatorLog ι → Prop}

/-- The token, if there is one, was granted for the key. -/
def TokenFor (key : String) (result : Outcome String) (log : OperatorLog ι) : Prop :=
  ∀ token, result = .ok token → GrantedFor log key token

/-- From this point of the history on, a task that runs a procedure of the token manager calls what
    is permitted, and what it comes to has the postcondition. -/
abbrev Manages (fallback : Option ClientCredentials) (i : ι) (Post : α → OperatorLog ι → Prop)
    (p : Procedure CredentialCalls α) (log : OperatorLog ι) : Prop :=
  (tenantDiscipline ι fallback).Keeps i Post (TokenManager.inOperator p) log

/-- A call of the token manager and what follows each reply. -/
theorem manages_call {c : CredentialCall}
    {resume : CredentialCalls.Reply c → Procedure CredentialCalls α}
    (hpermitted : ∀ past, log <:+ past → Permitted past i (.credentials c))
    (hnext : ∀ past s reply t, log <:+ past →
      log <:+ ⟨⟨.credentials c, reply, s, t⟩, i⟩ :: past → Provenance past s →
      s.Answers fallback c reply t →
      Manages fallback i Post (resume reply) (⟨⟨.credentials c, reply, s, t⟩, i⟩ :: past)) :
    Manages fallback i Post (.call c resume) log :=
  fun past h => ⟨hpermitted past h.suffix, fun s reply t =>
    hnext past s reply t h.suffix (h.suffix.trans (List.suffix_cons _ _))⟩

/-- A call whose answer says nothing about the state, and what follows each reply. -/
theorem manages_step {c : CredentialCall}
    {resume : CredentialCalls.Reply c → Procedure CredentialCalls α}
    (hpermitted : ∀ past, log <:+ past → Permitted past i (.credentials c))
    (hnext : ∀ log' reply, log <:+ log' → Manages fallback i Post (resume reply) log') :
    Manages fallback i Post (.call c resume) log :=
  manages_call hpermitted fun _ _ reply _ _ hlog _ _ => hnext _ reply hlog

theorem manages_done {a : α} (h : ∀ log', log <:+ log' → Post a log') :
    Manages fallback i Post (.done a) log :=
  fun log' h' => h log' h'.suffix

/-- A failure is no token. -/
theorem manages_failed {f : Fault} : Manages fallback i (TokenFor key) (.done (.error f)) log :=
  manages_done fun _ _ _ hok => nomatch hok

theorem manages_bind {β : Type} {Post : β → OperatorLog ι → Prop} {Mid : α → OperatorLog ι → Prop}
    {p : Procedure CredentialCalls α} {next : α → Procedure CredentialCalls β}
    (h : Manages fallback i Mid p log)
    (hnext : ∀ a log', log <:+ log' → Mid a log' → Manages fallback i Post (next a) log') :
    Manages fallback i Post (p.bind next) log := by
  rw [Manages, TokenManager.inOperator_bind]
  exact h.bind hnext

/-- The cache has tokens of the key for the key. -/
theorem manages_validToken :
    Manages fallback i (fun found log => ∀ token, found = some token → GrantedFor log key token)
      (TokenManager.validToken key) log := by
  refine manages_step (fun _ _ => trivial) ?_
  intro _ now _
  refine manages_call (fun _ _ => trivial) ?_
  intro past s found t _ _ hinv ha
  obtain ⟨rfl, -⟩ := ha
  refine manages_done ?_
  intro log' hlog token hfound
  obtain ⟨cached, hcached, rfl⟩ := Option.map_eq_some_iff.1 hfound
  have hfind := (Option.filter_eq_some_iff.1 hcached).1
  exact (hinv.cached key cached hfind).mono ((List.suffix_cons _ _).trans hlog)

/-- A grant for the key is cached for the key and given out. -/
theorem manages_accept {grant : TokenGrant}
    (hgranted : grant.accessToken ≠ "" → GrantedFor log key grant.accessToken) :
    Manages fallback i (TokenFor key) (TokenManager.accept key grant) log := by
  rw [TokenManager.accept]
  split
  · exact manages_failed
  · next hne =>
      have hgrant := hgranted hne
      refine manages_step (fun _ _ => trivial) ?_
      intro log₁ now h₁
      refine manages_step (fun _ h => hgrant.mono (h₁.trans h)) ?_
      intro log₂ _ h₂
      refine manages_done ?_
      intro log₃ h₃ token hok
      cases hok
      exact hgrant.mono (h₁.trans (h₂.trans h₃))

/-- Once credentials are assigned to the key that the task acts for, a login uses credentials that
    were read for the key, and the token that it brings is for the key. -/
theorem manages_login (hacts : ActsFor log i key) (hassigned : IsAssigned log key) :
    Manages fallback i (TokenFor key) (TokenManager.login key) log := by
  refine manages_call (fun _ h => hassigned.mono h) ?_
  intro past s found t h h₁ hinv ha
  -- the key has credentials of its own, so the default ones are not looked at
  obtain ⟨credentials, hfind⟩ := Option.isSome_iff_exists.1 (hinv.kept key (hassigned.mono h))
  have hread := hinv.assigned key credentials hfind
  have hfound : found = some credentials := by
    rw [ha.1, hfind]
    rfl
  subst hfound
  refine manages_step (fun _ _ => trivial) ?_
  intro log₂ stopped h₂
  cases stopped with
  | true => exact manages_failed
  | false =>
      have hacts₂ := hacts.mono (h₁.trans h₂)
      have hread₂ := hread.mono ((List.suffix_cons _ _).trans h₂)
      refine manages_call (fun _ h => ⟨key, hacts₂.mono h, hread₂.mono h⟩) ?_
      intro past₃ s₃ wake t₃ h₃ _ _ _
      rcases wake with (f | grant) | late
      · exact manages_failed
      · refine manages_accept fun hne => ?_
        exact ⟨hne, [], _, past₃, credentials, rfl, rfl, hacts₂.mono h₃, hread₂.mono h₃⟩
      · exact manages_failed

/-- A login that the cache does not spare. -/
theorem manages_accessToken {tenant : String} (hacts : ActsFor log i (tenantKey tenant))
    (hassigned : IsAssigned log (tenantKey tenant)) :
    Manages fallback i (TokenFor (tenantKey tenant)) (TokenManager.accessToken false tenant)
      log := by
  refine manages_step (fun _ _ => trivial) ?_
  intro log₁ wake h₁
  rcases wake with _ | late
  · refine manages_bind (manages_login (hacts.mono h₁) (hassigned.mono h₁)) ?_
    intro result log₂ _ htoken
    refine manages_step (fun _ _ => trivial) ?_
    intro log₃ _ h₃
    refine manages_done ?_
    intro log₄ h₄ token hok
    exact (htoken token hok).mono (h₃.trans h₄)
  · exact manages_failed

/-- A tenant is authenticated with a token that was granted for its key. -/
theorem manages_authenticate {tenant : String} (hacts : ActsFor log i (tenantKey tenant)) :
    Manages fallback i (TokenFor (tenantKey tenant)) (TokenManager.authenticate true tenant)
      log := by
  refine manages_bind manages_validToken ?_
  intro found log₁ h₁ hfound
  cases found with
  | some token =>
      refine manages_done ?_
      intro log₂ h₂ token' hok
      cases hok
      exact (hfound token rfl).mono h₂
  | none =>
      have hacts₁ := hacts.mono h₁
      refine manages_call (fun _ h => hacts₁.mono h) ?_
      intro past s secret t _ h₃ _ _
      cases hsecret : Except.bind secret ClientCredentials.ofSecret with
      | error f =>
          rw [show secret >>= ClientCredentials.ofSecret = .error f from hsecret]
          exact manages_failed
      | ok credentials =>
          have hread : ReadFor
              (⟨⟨.credentials (.readSecret (tenantKey tenant)), secret, s, t⟩, i⟩ :: past)
              (tenantKey tenant) credentials := by
            refine ⟨_, List.mem_cons_self, ?_, hacts₁.mono h₃⟩
            simp only [Answer.secretRead?, hsecret]
          rw [show secret >>= ClientCredentials.ofSecret = .ok credentials from hsecret]
          refine manages_call (fun _ h => hread.mono h) ?_
          intro _ _ _ _ _ h₄ _ _
          exact manages_accessToken (hacts₁.mono (h₃.trans h₄))
            ⟨_, List.mem_cons_self, credentials, rfl⟩

/-- A call that an authenticated invocation may make of the operator. -/
def OperatorCall.IsAuthorized (g : Gateway) : OperatorCall → Prop
  | .engine _ c => c.IsAuthorized g
  | .credentials _ => False

/-- Behind a gateway with a token for its tenant, an invocation sends authorized requests only. -/
theorem keeps_advance {k : Kind} {s : Setting k.Object} {o : k.Object} {token : String}
    (hl : s.lifecycle = k.lifecycle) (hacts : ActsFor log i key)
    (hgranted : GrantedFor log key token) :
    (tenantDiscipline ι fallback).Keeps i (fun _ _ => True)
      (k.inOperator (s.advance (s.gateway.authorized token) o)) log := by
  have hcalls : (s.advance (s.gateway.authorized token) o).Every
      (EngineCall.IsAuthorized (s.gateway.authorized token)) :=
    isAuthorized_advance (hl.trans k.lifecycle_eq)
  have hown : (k.inOperator (s.advance (s.gateway.authorized token) o)).Every
      (OperatorCall.IsAuthorized (s.gateway.authorized token)) := by
    refine hcalls.expand fun c hc => ?_
    cases c with
    | authenticate tenant => exact hc.elim
    | now | fetch _ _ | fetchProject _ _ | update _ | updateStatus _ | remote _ =>
        exact ⟨hc, fun _ => trivial⟩
  refine Discipline.keeps_of_every hown fun log' hlog c hc => ?_
  cases c with
  | credentials c => exact hc.elim
  | engine k' c =>
      cases c with
      | authenticate tenant | fetch _ _ => exact hc.elim
      | now | fetchProject _ _ | update _ | updateStatus _ => trivial
      | remote c =>
          cases c with
          | isCancelled => trivial
          | send r =>
              obtain ⟨method, endpoint, body, rfl⟩ := hc
              exact ⟨key, token, hacts.mono hlog, hgranted.mono hlog,
                Gateway.authorizations_request _ token method endpoint body⟩

/-- Once its object is read, an invocation keeps to the key of the object's tenant. -/
theorem keeps_attend {k : Kind} {s : Setting k.Object} {o : k.Object}
    (hl : s.lifecycle = k.lifecycle) (hacts : ActsFor log i (tenantKey (o.tenant?.getD ""))) :
    (tenantDiscipline ι fallback).Keeps i (fun _ _ => True) (k.inOperator (s.attend o)) log := by
  rw [Setting.attend]
  split
  · exact fun _ _ => trivial
  · refine (manages_authenticate hacts).bind fun result log' hlog htoken => ?_
    cases result with
    | error f => exact fun _ _ => trivial
    | ok token =>
        rw [← Kind.inOperator, Kind.inOperator_bind]
        refine (keeps_advance hl (hacts.mono hlog) (htoken token rfl)).bind ?_
        exact fun _ _ _ _ _ _ => trivial

/-- Every job keeps to the tenant of the object that it reads. -/
theorem keeps_job (j : Job) :
    (tenantDiscipline ι fallback).Keeps i (fun _ _ => True) j.procedure [] := by
  rw [Job.procedure, Setting.reconcile_eq]
  rintro _ ⟨others, rfl, hothers⟩
  refine ⟨fun ev hev => hothers ev (List.append_nil others ▸ hev), fun s reply t _ _ => ?_⟩
  rcases reply with f | _ | o
  · exact fun _ _ => trivial
  · exact fun _ _ => trivial
  · have hacts : ActsFor (⟨⟨.engine j.kind (.fetch j.namespace_ j.name), .ok (some o), s, t⟩, i⟩ ::
        (others ++ [])) i (tenantKey (o.tenant?.getD "")) :=
      ⟨_, List.mem_cons_self, rfl, rfl⟩
    exact keeps_attend j.ordinary hacts

/-! ## Isolation -/

/-- A new manager knows nothing, so there is nothing whose provenance could be wrong. -/
theorem provenance_start : Provenance ([] : OperatorLog ι) {} where
  one := fun _ _ _ ⟨_, hev, _⟩ => nomatch hev
  assigned _ _ hfind := nomatch hfind
  cached _ _ hfind := nomatch hfind
  kept := fun _ ⟨_, hev, _⟩ => nomatch hev

variable [DecidableEq ι] {jobs : ι → Job} {now : ι → Procedure OperatorCalls (Outcome Action)}
  {t : ManagerState}

/-- Everything in the maps has its provenance, however the jobs take turns. -/
theorem provenance_of_interleaved
    (h : Interleaved (operatorSurroundings fallback) (fun i => (jobs i).procedure) {} now t log) :
    Provenance log t :=
  (Interleaved.disciplined (d := tenantDiscipline ι fallback) h provenance_start
    fun i => keeps_job (jobs i)).1

/-- Every call was permitted, however the jobs take turns. -/
theorem permitted_of_made {past : OperatorLog ι} {c : OperatorCall}
    (h : Interleaved (operatorSurroundings fallback) (fun i => (jobs i).procedure) {} now t log)
    (hmade : Made now log past i c) : Permitted past i c :=
  Interleaved.allowed (d := tenantDiscipline ι fallback) h provenance_start
    (fun i => keeps_job (jobs i)) hmade

/-- The default credentials make no difference: whoever looks up credentials has assigned some. -/
theorem interleaved_of_fallback {other : Option ClientCredentials}
    (h : Interleaved (operatorSurroundings fallback) (fun i => (jobs i).procedure) {} now t log) :
    Interleaved (operatorSurroundings other) (fun i => (jobs i).procedure) {} now t log := by
  induction h with
  | start => exact .start
  | drifted _ hd ih => exact ih.drifted hd
  | @answered before _ _ _ i c resume reply h hcall ha ih =>
      refine ih.answered hcall ?_
      cases c with
      | engine k c => exact ha
      | credentials c =>
          cases c with
          | now | isCancelled | cached _ | remember _ _ | assign _ _ | unlock | login _
          | readSecret _ => exact ha
          | lock =>
              cases reply with
              | reply _ => exact ha
              | cancelled _ => exact ha
          | credentialsFor key =>
              have hassigned : IsAssigned _ key :=
                permitted_of_made h (.inr ⟨rfl, resume, hcall⟩)
              obtain ⟨credentials, hfind⟩ := Option.isSome_iff_exists.1
                ((provenance_of_interleaved h).kept key hassigned)
              obtain ⟨rfl, rfl⟩ := ha
              refine ⟨?_, rfl⟩
              rw [hfind]
              rfl

/-- What isolates the tenants of jobs from each other, and from the default credentials, in a run
    that has come to the tasks `now` with the history `log`. -/
structure Isolated (jobs : ι → Job) (now : ι → Procedure OperatorCalls (Outcome Action))
    (t : ManagerState) (log : OperatorLog ι) : Prop where
  /-- An invocation acts for one tenant key. -/
  one : ∀ i key key', ActsFor log i key → ActsFor log i key' → key = key'
  /-- A request that is handed to the transport is authorized once, with a token that was granted
      for the invocation's own key. -/
  requests : ∀ past i k r, Made now log past i (.engine k (.remote (.send r))) →
    AuthorizedFor past i r
  /-- A token that was granted for one key only is not sent for another. -/
  apart : ∀ past i k r key token, Made now log past i (.engine k (.remote (.send r))) →
    ("Authorization", "Bearer " ++ token) ∈ r.headers →
    (∀ key', GrantedFor past key' token → key' = key) → ActsFor past i key
  /-- A login is made with credentials from the secret at the invocation's own key. -/
  logins : ∀ past i credentials, Made now log past i (.credentials (.login credentials)) →
    ∃ key, ActsFor past i key ∧ ReadFor past key credentials
  /-- The run is one of a manager with any other default credentials, and with none. -/
  independent : ∀ fallback,
    Interleaved (operatorSurroundings fallback) (fun i => (jobs i).procedure) {} now t log

/-- However many invocations take turns on one token manager, and whatever its default credentials
    are, tenants are isolated from each other. -/
theorem tenant_isolation {ι : Type} [DecidableEq ι] (jobs : ι → Job)
    (fallback : Option ClientCredentials) {now : ι → Procedure OperatorCalls (Outcome Action)}
    {t : ManagerState} {log : OperatorLog ι}
    (h : Interleaved (operatorSurroundings fallback) (fun i => (jobs i).procedure) {} now t log) :
    Isolated jobs now t log where
  one := (provenance_of_interleaved h).one
  requests _ _ _ _ hmade := permitted_of_made h hmade
  apart past i k r key token hmade hmem honly := by
    obtain ⟨key', token', hacts, hgranted, hauthorized⟩ : AuthorizedFor past i r :=
      permitted_of_made h hmade
    have hheader := Request.mem_authorizations hmem
    rw [hauthorized, List.mem_singleton, Prod.mk.injEq, String.append_right_inj] at hheader
    obtain ⟨-, rfl⟩ := hheader
    obtain rfl := honly key' hgranted
    exact hacts
  logins _ _ _ hmade := permitted_of_made h hmade
  independent _ := interleaved_of_fallback h

end

namespace Scripted

/-- A secret with client credentials. -/
def secretOf (clientId clientSecret : String) : Secret :=
  (Table.empty.insert "client-id" clientId).insert "client-secret" clientSecret

/-- A project of one tenant that is being updated. -/
def acmeProject : Project :=
  { newProject with status := some { phase := .updating, resourceId := some "p1" } }

/-- A volume of another tenant that is being created. -/
def globexVolume : Volume :=
  { newVolume with
    spec := { newVolume.spec with tenant := "globex" }
    status := some { record := { phase := .creating } } }

/-- A manager with default credentials, before two tenants with secrets of their own. -/
def tenantWorld : World :=
  { worldOf [acmeProject] [globexVolume]
      [.reply (volumeReported 201 "InCreation"), .reply projectCreated] with
    desk :=
      { now := ⟨0, 0⟩
        fallback := some ⟨"default", "default-secret"⟩
        secrets := some <|
          (Table.empty.insert "acme" (.reply (secretOf "acme-id" "acme-secret"))).insert
            "globex" (.reply (secretOf "globex-id" "globex-secret"))
        grants :=
          [.reply ⟨"globex-token", "Bearer", 3600⟩, .reply ⟨"acme-token", "Bearer", 3600⟩] } }

/-- One job of each kind. -/
def tenantJob : Kind → Job
  | .project => ⟨.project, { projectSetting with multiTenant := true }, "", "shop", rfl⟩
  | .volume => ⟨.volume, { volumeSetting with multiTenant := true }, "", "disk", rfl⟩

/-- The two jobs take turns call by call. -/
def tenantRun : Standing Kind OperatorCalls ManagerState World (Outcome Action) :=
  World.operator.play World.shared (List.replicate 20 [Kind.volume, Kind.project]).flatten
    ⟨fun k => (tenantJob k).procedure, tenantWorld, []⟩

/-- The authorizations of every request in a history, with the task that has sent it. -/
def sentAuthorizations {ι : Type} (log : OperatorLog ι) : List (ι × List (String × String)) :=
  log.filterMap fun ev =>
    match ev.call with
    | .engine _ (.remote (.send r)) => some (ev.task, r.authorizations)
    | _ => none

end Scripted

open Scripted in
/-- Two tenants whose credentials are both assigned before either of them logs in. -/
theorem tenant_isolation_story :
    Isolated tenantJob tenantRun.tasks tenantRun.state.shared tenantRun.log ∧
      sentAuthorizations tenantRun.log =
        [(.project, [("Authorization", "Bearer acme-token")]),
          (.volume, [("Authorization", "Bearer globex-token")])] := by
  refine ⟨?_, by decide +kernel⟩
  refine tenant_isolation tenantJob tenantWorld.desk.fallback ?_
  refine Service.interleaved_play
    (P := fun w => w.desk.fallback = tenantWorld.desk.fallback) ?_ _ rfl .start
  intro c w hw hwaits
  rw [← hw]
  exact w.operator_answers c hwaits

end CloudReconciler
