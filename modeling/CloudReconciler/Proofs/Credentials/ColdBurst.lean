import CloudReconciler.Proofs.Credentials.SerializedLogins
import Mathlib.Algebra.BigOperators.Group.Finset.Piecewise
import Mathlib.Data.Fintype.Basic

/-! # Cold bursts — a call that has found no valid token logs in for itself

    Where tenants have credentials of their own, a call looks into the cache
    before it reads the secret of its tenant, and not again once it holds
    the login lock.  So the calls of a burst that look before the first of
    them has a token all log in, one after another, and each gives out the
    token of its own login (`cold_burst`).  One login serves them all exactly
    if one call alone has looked in vain, which `coldRun` shows not to be
    so in general (`cold_burst_repeated`). -/

namespace CloudReconciler

open Procedure (Trace trace_done trace_call trace_bind)

namespace Answer

variable {σ : Type}

/-- The identity provider has been asked for a token. -/
def isLogin : Answer CredentialCalls σ → Bool
  | ⟨.login _, _, _, _⟩ => true
  | _ => false

/-- The token that has been cached. -/
def remembered? : Answer CredentialCalls σ → Option CachedToken
  | ⟨.remember _ token, _, _, _⟩ => some token
  | _ => none

/-- The caller has been cancelled, has got no complete client credentials from a secret, or no token
    from the identity provider. -/
def isTrouble : Answer CredentialCalls σ → Bool
  | ⟨.readSecret _, reply, _, _⟩ => (reply >>= ClientCredentials.ofSecret).toOption.isNone
  | a => a.isCancellation || a.isLogin && a.exchanged?.isNone

end Answer

/-- What a call has found in the cache that it could use, if it has looked. -/
def look? {σ : Type} : List (Answer CredentialCalls σ) → Option (Option CachedToken)
  | ⟨.now, time, _, _⟩ :: ⟨.cached _, found, _, _⟩ :: _ => some (found.filter (·.isValidAt time))
  | _ => none

/-- What calls for one tenant that all see no trouble have done when they are all finished. -/
structure IsColdBurst {ι : Type} (tenant : String) (start : ManagerState)
    (now : ι → Procedure CredentialCalls (Outcome String)) (log : ManagerLog ι) : Prop where
  /-- No token of the tenant is valid at the start. -/
  cold : ∀ time ∈ shownTimes log, start.cache.valid? (tenantKey tenant) time = none
  finished : ∀ i, ∃ result, now i = .done result
  smooth : ∀ ev ∈ log, ev.isTrouble = false
  /-- Every token stays valid until all calls have finished. -/
  lasting : ∀ token ∈ log.filterMap (·.remembered?), ∀ time ∈ shownTimes log, token.isValidAt time

/-! ## One call -/

/-- What one call of a burst comes to. -/
inductive BurstCall (key : String) :
    List (Answer CredentialCalls ManagerState) → Outcome String → Prop
  /-- It finds a valid token. -/
  | served {time : Instant} {found : Option CachedToken} {token : CachedToken}
      {s t u v : ManagerState} : found.filter (·.isValidAt time) = some token →
      BurstCall key [⟨.now, time, s, t⟩, ⟨.cached key, found, u, v⟩] (.ok token.grant.accessToken)
  /-- It finds none and logs in. -/
  | renewed {answers : List (Answer CredentialCalls ManagerState)} {grant : TokenGrant}
      {received : Instant} : look? answers = some none → answers.countP (·.isLogin) = 1 →
      answers.filterMap (·.exchanged?) = [grant] →
      answers.filterMap (·.remembered?) = [⟨grant, received⟩] →
      BurstCall key answers (.ok grant.accessToken)

section

variable {fallback : Option ClientCredentials} {key tenant : String} {s t v : ManagerState}
  {answers : List (Answer CredentialCalls ManagerState)} {result : Outcome String}

theorem ManagerState.KeepsAssigned.refl (s : ManagerState) : s.KeepsAssigned s := fun _ => id

theorem ManagerState.KeepsAssigned.trans {u : ManagerState} (h : s.KeepsAssigned t)
    (h' : t.KeepsAssigned u) : s.KeepsAssigned u := fun key hs => h' key (h key hs)

/-- No call takes credentials away. -/
theorem ManagerState.Answers.keepsAssigned {c : CredentialCall} {reply : CredentialCalls.Reply c}
    (ha : s.Answers fallback c reply t) : s.KeepsAssigned t := by
  cases c with
  | now | isCancelled | login _ | readSecret _ =>
      obtain rfl := ha
      exact .refl _
  | cached _ | credentialsFor _ =>
      obtain ⟨-, rfl⟩ := ha
      exact .refl _
  | remember _ _ | unlock =>
      obtain rfl := ha
      exact fun _ => id
  | lock =>
      rcases reply with _ | late
      · obtain ⟨-, rfl⟩ := ha
        exact fun _ => id
      · obtain rfl := ha
        exact .refl _
  | assign key credentials =>
      obtain rfl := ha
      intro key' hsome
      rw [Table.find?_insert]
      split
      · rfl
      · exact hsome

theorem credentials_of_smooth {path : String} {secret : Outcome Secret}
    (h : (⟨.readSecret path, secret, s, t⟩ : Answer CredentialCalls ManagerState).isTrouble =
      false) :
    ∃ credentials, (secret >>= ClientCredentials.ofSecret) = .ok credentials := by
  have h : (secret >>= ClientCredentials.ofSecret).toOption.isNone = false := h
  cases hread : secret >>= ClientCredentials.ofSecret with
  | error f =>
      rw [hread] at h
      cases h
  | ok credentials => exact ⟨credentials, rfl⟩

theorem grant_of_smooth {credentials : ClientCredentials} {wake : Wake (Outcome TokenGrant)}
    (h : (⟨.login credentials, wake, s, t⟩ : Answer CredentialCalls ManagerState).isTrouble =
      false) :
    ∃ grant, wake = .reply (.ok grant) ∧ grant.accessToken ≠ "" := by
  rcases wake with (f | grant) | late
  · cases h
  · refine ⟨grant, rfl, fun hempty => ?_⟩
    have h : (if grant.accessToken = "" then none else some grant).isNone = false := h
    rw [if_pos hempty] at h
    cases h
  · cases h

/-- A login that sees no trouble, where the key has credentials. -/
theorem login_of_trace {R : ManagerState → ManagerState → Prop}
    (h : Trace ((managerSurroundings fallback).relying R) (release (TokenManager.login key))
      s answers result v)
    (hassigned : (s.assigned.find? key).isSome) (hsmooth : ∀ a ∈ answers, a.isTrouble = false) :
    ∃ grant received, result = .ok grant.accessToken ∧ answers.countP (·.isLogin) = 1 ∧
      answers.filterMap (·.exchanged?) = [grant] ∧
      answers.filterMap (·.remembered?) = [⟨grant, received⟩] := by
  obtain ⟨found, s₁, s₂, rest₁, ⟨hfound, -⟩, -, h₁, rfl⟩ := trace_call.1 h
  obtain ⟨credentials, hcredentials⟩ := Option.isSome_iff_exists.1 hassigned
  rw [hcredentials] at hfound
  obtain rfl : found = some credentials := hfound
  obtain ⟨cancelled, s₃, s₄, rest₂, -, -, h₂, rfl⟩ := trace_call.1 h₁
  simp only [List.forall_mem_cons] at hsmooth
  obtain ⟨-, hcancelled, hsmooth⟩ := hsmooth
  cases cancelled with
  | true => cases hcancelled
  | false =>
      obtain ⟨wake, s₅, s₆, rest₃, -, -, h₃, rfl⟩ := trace_call.1 h₂
      obtain ⟨grant, rfl, hne⟩ := grant_of_smooth (List.forall_mem_cons.1 hsmooth).1
      obtain ⟨rfl, received, u₁, u₂, u₃, u₄, u₅, hrest⟩ := granted_of_trace hne h₃
      subst hrest
      have hlogin : (⟨.login credentials, .reply (.ok grant), s₄, s₅⟩ :
          Answer CredentialCalls ManagerState).exchanged? = some grant := if_neg hne
      refine ⟨grant, received, rfl, rfl, ?_, rfl⟩
      rw [List.filterMap_cons_none rfl, List.filterMap_cons_none rfl,
        List.filterMap_cons_some hlogin]
      rfl

/-- A call that sees no trouble, while nobody takes its credentials away. -/
theorem burstCall_of_trace
    (h : Trace ((managerSurroundings fallback).relying ManagerState.KeepsAssigned)
      (TokenManager.authenticate true tenant) s answers result v)
    (hsmooth : ∀ a ∈ answers, a.isTrouble = false) :
    BurstCall (tenantKey tenant) answers result := by
  obtain ⟨time, s₁, s₂, rest₁, -, -, h₁, rfl⟩ := trace_call.1 h
  obtain ⟨found, s₃, s₄, rest₂, -, -, h₂, rfl⟩ := trace_call.1 h₁
  dsimp only [Procedure.bind_done] at h₂
  cases hfound : found.filter (·.isValidAt time) with
  | some token =>
      rw [hfound] at h₂
      obtain ⟨rfl, rfl, -⟩ := trace_done.1 h₂
      exact .served hfound
  | none =>
      rw [hfound] at h₂
      obtain ⟨secret, s₅, s₆, rest₃, -, -, h₃, rfl⟩ := trace_call.1 h₂
      simp only [List.forall_mem_cons] at hsmooth
      obtain ⟨-, -, hsecret, hsmooth⟩ := hsmooth
      obtain ⟨credentials, hread⟩ := credentials_of_smooth hsecret
      rw [hread] at h₃
      obtain ⟨⟨⟩, s₇, s₈, rest₄, hassigned, hkept, h₄, rfl⟩ := trace_call.1 h₃
      obtain ⟨lock, s₉, s₁₀, rest₅, hlock, hkept', h₅, rfl⟩ := trace_call.1 h₄
      simp only [List.forall_mem_cons] at hsmooth
      obtain ⟨-, hgot, hsmooth⟩ := hsmooth
      rcases lock with _ | late
      · have hsome : (s₁₀.assigned.find? (tenantKey tenant)).isSome := by
          have hlock : s₈.Answers fallback .lock (.reply ()) s₉ := hlock
          refine hkept' _ (hlock.keepsAssigned _ (hkept _ ?_))
          rw [show s₇ = _ from hassigned, Table.find?_insert, if_pos rfl]
          rfl
        obtain ⟨grant, received, rfl, hlogins, hgrants, htokens⟩ :=
          login_of_trace h₅ hsome hsmooth
        exact .renewed (congrArg some hfound) hlogins hgrants htokens
      · cases hgot

end

/-! ## Bursts -/

section

variable {ι : Type} [DecidableEq ι] {tasks now : ι → Procedure CredentialCalls (Outcome String)}
  {fallback : Option ClientCredentials} {start t : ManagerState} {log : ManagerLog ι} {i : ι}
  {tenant : String}

/-- Only caching a token changes the cache. -/
theorem ManagerState.Answers.cache_cases {c : CredentialCall} {s u : ManagerState}
    {reply : CredentialCalls.Reply c} (ha : s.Answers fallback c reply u) :
    u.cache = s.cache ∨
      ∃ key token, c = .remember key token ∧ u.cache = s.cache.insert key token := by
  cases c with
  | now | isCancelled | login _ | readSecret _ | unlock | assign _ _ =>
      obtain rfl : u = _ := ha
      exact .inl rfl
  | cached _ | credentialsFor _ =>
      obtain ⟨-, rfl⟩ := ha
      exact .inl rfl
  | lock =>
      rcases reply with _ | late
      · obtain ⟨-, rfl⟩ := ha
        exact .inl rfl
      · obtain rfl : u = s := ha
        exact .inl rfl
  | remember key token =>
      obtain rfl : u = _ := ha
      exact .inr ⟨key, token, rfl, rfl⟩

/-- What is cached has been cached by one of the callers, or was so at the start. -/
theorem cached_of_interleaved
    (h : Interleaved (managerSurroundings fallback) tasks start now t log) (key : String) :
    t.cache.find? key = start.cache.find? key ∨
      ∃ ev ∈ log, ∃ token, ev.call = .remember key token ∧ t.cache.find? key = some token := by
  induction h with
  | start => exact .inl rfl
  | drifted _ hd ih =>
      rw [hd.1]
      exact ih
  | @answered _ s u log i c _ reply _ _ ha ih =>
      have hkept : u.cache.find? key = s.cache.find? key →
          u.cache.find? key = start.cache.find? key ∨
            ∃ ev ∈ (⟨⟨c, reply, s, u⟩, i⟩ :: log : ManagerLog _), ∃ token,
              ev.call = .remember key token ∧ u.cache.find? key = some token := by
        intro heq
        rw [heq]
        rcases ih with hsame | ⟨ev, hev, hcached⟩
        · exact .inl hsame
        · exact .inr ⟨ev, List.mem_cons_of_mem _ hev, hcached⟩
      rcases ha.cache_cases with hcache | ⟨key', token, rfl, hcache⟩
      · exact hkept (by rw [hcache])
      · rw [hcache, Table.find?_insert] at hkept ⊢
        by_cases hkey : key = key'
        · subst hkey
          rw [if_pos rfl]
          exact .inr ⟨_, List.mem_cons_self, token, rfl, rfl⟩
        · exact hkept (if_neg hkey)

/-- The call has looked into the cache and has found no valid token. -/
def LooksInVain (log : ManagerLog ι) (i : ι) : Prop := look? (ownAnswers i log) = some none

instance (log : ManagerLog ι) (i : ι) : Decidable (LooksInVain log i) :=
  inferInstanceAs (Decidable (_ = _))

/-- Every call of a burst is a burst call. -/
theorem IsColdBurst.call (hb : IsColdBurst tenant start now log)
    (h : Interleaved (managerSurroundings fallback)
      (fun _ => TokenManager.authenticate true tenant) start now t log) (i : ι) :
    ∃ result, now i = .done result ∧
      BurstCall (tenantKey tenant) (ownAnswers i log) result := by
  obtain ⟨result, hdone⟩ := hb.finished i
  obtain ⟨u, v, htrace⟩ := h.trace_of_done ManagerState.KeepsAssigned.refl
    (fun _ _ _ => .trans) (fun _ _ _ _ => ManagerState.Answers.keepsAssigned)
    (fun s t (hd : (managerSurroundings fallback).Drifts s t) => hd.2.2) hdone
  refine ⟨result, hdone, burstCall_of_trace htrace fun a ha => ?_⟩
  obtain ⟨ev, hev, -, rfl⟩ := mem_ownAnswers.1 ha
  exact hb.smooth ev hev

/-- Whoever caches a token in a burst has looked in vain. -/
theorem IsColdBurst.of_remember (hb : IsColdBurst tenant start now log)
    (h : Interleaved (managerSurroundings fallback)
      (fun _ => TokenManager.authenticate true tenant) start now t log)
    {ev : Event ι CredentialCalls ManagerState} {key : String} {token : CachedToken}
    (hev : ev ∈ log) (hcall : ev.call = .remember key token) :
    LooksInVain log ev.task ∧
      (ownAnswers ev.task log).filterMap (·.exchanged?) = [token.grant] := by
  obtain ⟨result, -, hburst⟩ := hb.call h ev.task
  have hmem : token ∈ (ownAnswers ev.task log).filterMap (·.remembered?) := by
    refine List.mem_filterMap.2 ⟨ev.toAnswer, mem_ownAnswers.2 ⟨ev, hev, rfl, rfl⟩, ?_⟩
    obtain ⟨⟨c, reply, s, u⟩, i⟩ := ev
    cases hcall
    rfl
  show look? _ = _ ∧ _
  generalize ownAnswers ev.task log = answers at hburst hmem ⊢
  cases hburst with
  | served _ => exact absurd hmem List.not_mem_nil
  | renewed hlook _ hgrants htokens =>
      rw [htokens, List.mem_singleton] at hmem
      obtain rfl := hmem
      exact ⟨hlook, hgrants⟩

/-- A token that a call of a burst has found to be valid is from another call. -/
theorem IsColdBurst.of_found (hb : IsColdBurst tenant start now log)
    (h : Interleaved (managerSurroundings fallback)
      (fun _ => TokenManager.authenticate true tenant) start now t log)
    {s u : ManagerState} {found : Option CachedToken} {time : Instant} {token : CachedToken}
    (hev : (⟨⟨.cached (tenantKey tenant), found, s, u⟩, i⟩ :
      Event ι CredentialCalls ManagerState) ∈ log)
    (hshown : time ∈ shownTimes log) (hvalid : found.filter (·.isValidAt time) = some token) :
    ∃ j, LooksInVain log j ∧ (ownAnswers j log).filterMap (·.exchanged?) = [token.grant] := by
  obtain ⟨later, earlier, rfl⟩ := List.append_of_mem hev
  obtain ⟨rfl, -⟩ : s.Answers fallback (.cached (tenantKey tenant)) found u :=
    h.answers_of_mem hev
  obtain ⟨before, resume, hpast, -⟩ := h.waiting_of_event rfl
  rcases cached_of_interleaved hpast (tenantKey tenant) with hstart | ⟨x, hx, token', hcall, hfind⟩
  · have hstart : s.cache.find? (tenantKey tenant) = start.cache.find? (tenantKey tenant) := hstart
    rw [hstart] at hvalid
    exact nomatch (hb.cold time hshown).symm.trans hvalid
  · have hfind : s.cache.find? (tenantKey tenant) = some token' := hfind
    obtain rfl : token' = token := by
      rw [hfind] at hvalid
      exact Option.some.inj (Option.filter_eq_some_iff.1 hvalid).1
    exact ⟨x.task, hb.of_remember h (List.mem_append_right _ (List.mem_cons_of_mem _ hx)) hcall⟩

/-- A call that has looked in vain logs in once and gives out the token of its own login. -/
theorem IsColdBurst.renewed (hb : IsColdBurst tenant start now log)
    (h : Interleaved (managerSurroundings fallback)
      (fun _ => TokenManager.authenticate true tenant) start now t log) (hi : LooksInVain log i) :
    ∃ grant, (ownAnswers i log).countP (·.isLogin) = 1 ∧
      (ownAnswers i log).filterMap (·.exchanged?) = [grant] ∧
      now i = .done (.ok grant.accessToken) := by
  obtain ⟨result, hdone, hburst⟩ := hb.call h i
  have hi : look? (ownAnswers i log) = some none := hi
  generalize ownAnswers i log = answers at hburst hi ⊢
  cases hburst with
  | served hvalid => exact nomatch hvalid.symm.trans (Option.some.inj hi)
  | renewed _ hlogins hgrants _ => exact ⟨_, hlogins, hgrants, hdone⟩

/-- Every other call makes no login and gives out the token of one that does. -/
theorem IsColdBurst.served (hb : IsColdBurst tenant start now log)
    (h : Interleaved (managerSurroundings fallback)
      (fun _ => TokenManager.authenticate true tenant) start now t log) (hi : ¬LooksInVain log i) :
    (ownAnswers i log).countP (·.isLogin) = 0 ∧
      ∃ j grant, LooksInVain log j ∧ (ownAnswers j log).filterMap (·.exchanged?) = [grant] ∧
        now i = .done (.ok grant.accessToken) := by
  obtain ⟨result, hdone, hburst⟩ := hb.call h i
  have hi : look? (ownAnswers i log) ≠ some none := hi
  have hmem : ∀ a ∈ ownAnswers i log, (⟨a, i⟩ : Event ι CredentialCalls ManagerState) ∈ log := by
    intro a ha
    obtain ⟨ev, hev, rfl, rfl⟩ := mem_ownAnswers.1 ha
    exact hev
  generalize ownAnswers i log = answers at hburst hi hmem ⊢
  cases hburst with
  | renewed hlook _ _ _ => exact absurd hlook hi
  | @served time found token s s' u u' hvalid =>
      have hshown : time ∈ shownTimes log :=
        List.mem_filterMap.2 ⟨⟨⟨.now, time, s, s'⟩, i⟩, hmem _ (.head _), rfl⟩
      obtain ⟨j, hvain, hgrant⟩ := hb.of_found h (hmem _ (.tail _ (.head _))) hshown hvalid
      exact ⟨rfl, j, token.grant, hvain, hgrant, hdone⟩

/-- The answers of a history are those of the callers. -/
theorem countP_eq_sum [Fintype ι] (p : Answer CredentialCalls ManagerState → Bool)
    (log : ManagerLog ι) : log.countP (fun ev => p ev.toAnswer) =
      ∑ i, (ownAnswers i log).countP p := by
  induction log with
  | nil => exact (Finset.sum_const_zero).symm
  | cons ev log ih =>
      have hown : ∀ i, (ownAnswers i (ev :: log)).countP p =
          (ownAnswers i log).countP p +
            if i = ev.task then (if p ev.toAnswer then 1 else 0) else 0 := by
        intro i
        by_cases hi : i = ev.task
        · rw [ownAnswers_cons_self hi.symm, List.countP_append, List.countP_singleton, if_pos hi]
        · rw [ownAnswers_cons_other (Ne.symm hi), if_neg hi, Nat.add_zero]
      rw [List.countP_cons, ih, Finset.sum_congr rfl fun i _ => hown i, Finset.sum_add_distrib,
        Finset.sum_ite_eq', if_pos (Finset.mem_univ _)]

variable [Fintype ι]

/-- What a burst comes to. -/
structure BurstOutcome (now : ι → Procedure CredentialCalls (Outcome String))
    (log : ManagerLog ι) : Prop where
  /-- A call that has looked in vain logs in once and gives out the token of its own login. -/
  renewed : ∀ i, LooksInVain log i → ∃ grant, (ownAnswers i log).countP (·.isLogin) = 1 ∧
    (ownAnswers i log).filterMap (·.exchanged?) = [grant] ∧ now i = .done (.ok grant.accessToken)
  /-- Every other call makes no login and gives out the token of one that does. -/
  served : ∀ i, ¬LooksInVain log i → (ownAnswers i log).countP (·.isLogin) = 0 ∧
    ∃ j grant, LooksInVain log j ∧ (ownAnswers j log).filterMap (·.exchanged?) = [grant] ∧
      now i = .done (.ok grant.accessToken)
  /-- There are as many logins as calls that have looked in vain, and some if there are calls. -/
  logins : log.countP (·.isLogin) = (Finset.univ.filter (LooksInVain log)).card
  some_login : Nonempty ι → 0 < log.countP (·.isLogin)
  /-- One login serves all calls exactly if one call alone has looked in vain. -/
  one_login : (log.countP (·.isLogin) = 1 ∧ ∃ token, ∀ i, now i = .done (.ok token)) ↔
    ∃ i, ∀ j, LooksInVain log j ↔ j = i

/-- Whatever the order in which the calls of a burst take turns, there is a login for every call
    that has looked into the cache before a token was there. -/
theorem cold_burst (tenant : String) (fallback : Option ClientCredentials)
    (h : Interleaved (managerSurroundings fallback)
      (fun _ => TokenManager.authenticate true tenant) start now t log)
    (hb : IsColdBurst tenant start now log) : BurstOutcome now log := by
  have hlogins : log.countP (·.isLogin) = (Finset.univ.filter (LooksInVain log)).card := by
    rw [countP_eq_sum, Finset.card_filter]
    refine Finset.sum_congr rfl fun i _ => ?_
    by_cases hi : LooksInVain log i
    · obtain ⟨grant, hcount, -⟩ := hb.renewed h hi
      rw [hcount, if_pos hi]
    · rw [(hb.served h hi).1, if_neg hi]
  have hsome : ∀ i : ι, ∃ j, LooksInVain log j := by
    intro i
    by_cases hi : LooksInVain log i
    · exact ⟨i, hi⟩
    · obtain ⟨-, j, grant, hj, -⟩ := hb.served h hi
      exact ⟨j, hj⟩
  refine ⟨fun i => hb.renewed h, fun i => hb.served h, hlogins, ?_, ?_⟩
  · rintro ⟨i⟩
    obtain ⟨j, hj⟩ := hsome i
    rw [hlogins]
    exact Finset.card_pos.2 ⟨j, Finset.mem_filter.2 ⟨Finset.mem_univ j, hj⟩⟩
  · rw [hlogins, Finset.card_eq_one]
    constructor
    · rintro ⟨⟨i, hi⟩, -⟩
      refine ⟨i, fun j => ?_⟩
      have hj : j ∈ Finset.univ.filter (LooksInVain log) ↔ j ∈ ({i} : Finset ι) := by rw [hi]
      rwa [Finset.mem_filter, Finset.mem_singleton, and_iff_right (Finset.mem_univ j)] at hj
    · rintro ⟨i, hi⟩
      obtain ⟨grant, -, hgrant, hdone⟩ := hb.renewed h ((hi i).2 rfl)
      refine ⟨⟨i, ?_⟩, grant.accessToken, fun j => ?_⟩
      · ext j
        rw [Finset.mem_filter, Finset.mem_singleton, and_iff_right (Finset.mem_univ j), hi j]
      · by_cases hj : LooksInVain log j
        · obtain rfl := (hi j).1 hj
          exact hdone
        · obtain ⟨-, k, grant', hk, hgrant', hdone'⟩ := hb.served h hj
          obtain rfl := (hi k).1 hk
          obtain rfl : grant = grant' := List.head_eq_of_cons_eq (hgrant.symm.trans hgrant')
          exact hdone'

end

namespace Scripted

/-- A desk of a manager whose tenants have their own secrets. -/
def coldDesk : Desk :=
  { now := ⟨0, 0⟩
    secrets := some (Table.empty.insert "acme" (.reply
      ((Table.empty.insert "client-id" "acme-id").insert "client-secret" "acme-secret")))
    grants := [.reply ⟨"first", "Bearer", 300⟩, .reply ⟨"second", "Bearer", 300⟩] }

/-- Calls for one tenant, given turns as scheduled. -/
def coldRun (schedule : List (Fin 2)) :
    Standing (Fin 2) CredentialCalls ManagerState Desk (Outcome String) :=
  Desk.service.play Desk.shared schedule
    ⟨fun _ => TokenManager.authenticate true "acme", coldDesk, []⟩

/-- The second call begins when the first has finished. -/
def inTurn : List (Fin 2) := List.replicate 12 0 ++ List.replicate 12 1

/-- The two calls take turns call by call. -/
def alternating : List (Fin 2) := (List.replicate 24 [0, 1]).flatten

theorem interleaved_coldRun (schedule : List (Fin 2)) :
    Interleaved (managerSurroundings none) (fun _ => TokenManager.authenticate true "acme")
      coldDesk.shared (coldRun schedule).tasks (coldRun schedule).state.shared
      (coldRun schedule).log :=
  Desk.interleaved_play (fun _ => TokenManager.authenticate true "acme") coldDesk schedule

theorem done_of_given? {p : Procedure CredentialCalls (Outcome String)} (h : (given? p).isSome) :
    ∃ result, p = .done result := by
  cases p with
  | done result => exact ⟨result, rfl⟩
  | call c resume => cases h

theorem isColdBurst_inTurn : IsColdBurst "acme" coldDesk.shared (coldRun inTurn).tasks
    (coldRun inTurn).log where
  cold := by decide +kernel
  finished i := done_of_given? (by revert i; decide +kernel)
  smooth := by decide +kernel
  lasting := by decide +kernel

theorem isColdBurst_alternating : IsColdBurst "acme" coldDesk.shared (coldRun alternating).tasks
    (coldRun alternating).log where
  cold := by decide +kernel
  finished i := done_of_given? (by revert i; decide +kernel)
  smooth := by decide +kernel
  lasting := by decide +kernel

end Scripted

open Scripted in
/-- Calls that do not overlap need one login. -/
theorem cold_burst_in_turn :
    IsColdBurst "acme" coldDesk.shared (coldRun inTurn).tasks (coldRun inTurn).log ∧
      BurstOutcome (coldRun inTurn).tasks (coldRun inTurn).log ∧
      (coldRun inTurn).state.logins.length = 1 :=
  ⟨isColdBurst_inTurn,
    cold_burst "acme" none (interleaved_coldRun inTurn) isColdBurst_inTurn, by decide +kernel⟩

open Scripted in
/-- Two calls that take turns log in twice, and one of them gives out a token that the other's login
    has not returned. -/
theorem cold_burst_repeated :
    IsColdBurst "acme" coldDesk.shared (coldRun alternating).tasks (coldRun alternating).log ∧
      Interleaved (managerSurroundings none) (fun _ => TokenManager.authenticate true "acme")
        coldDesk.shared (coldRun alternating).tasks (coldRun alternating).state.shared
        (coldRun alternating).log ∧
      (coldRun alternating).log.countP (·.isLogin) = 2 ∧
      given? ((coldRun alternating).tasks 0) = some (some "first") ∧
      given? ((coldRun alternating).tasks 1) = some (some "second") :=
  ⟨isColdBurst_alternating, interleaved_coldRun alternating, by decide +kernel, by decide +kernel,
    by decide +kernel⟩

end CloudReconciler
