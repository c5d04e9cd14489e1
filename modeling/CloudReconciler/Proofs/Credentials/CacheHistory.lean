import CloudReconciler.Proofs.Credentials.ColdBurst

/-! # The cache against its history — what is served is what the newest login brought

    The calls of a token manager follow one another.  A call may be broken
    off where it waits, and it is broken off where it looks up a token whose
    end no clock holds; the login lock is given back then as well.

    The history of a manager holds its calls with their answers, and
    `lastLogin?` reads the newest successful login of a key off these
    answers alone.  `CallEffect` says what one call makes of the cache, in
    all the ways in which it can end, and from it every history is reflected
    by the cache (`ReflectsHistory`): each key has the token of its last
    login, and no other.

    A token whose end no clock holds is cached like any other, but nobody
    can look it up (`lookup_overrun`). -/

namespace CloudReconciler

open Procedure (Trace trace_done trace_call trace_bind)

/-! ## Courses -/

namespace Procedure

section

variable {I : Interface} {α β σ : Type} {e : Surroundings I σ}
  {Breaks : (c : I.Call) → σ → Prop} {s t : σ} {τ : List (Answer I σ)}

/-- A run that is finished, or has been broken off at a call where it could be; then it has no
    result. -/
inductive Course (e : Surroundings I σ) (Breaks : (c : I.Call) → σ → Prop) :
    Procedure I α → σ → List (Answer I σ) → Option α → σ → Prop
  | done (a : α) (s : σ) : Course e Breaks (.done a) s [] (some a) s
  | broken {c : I.Call} {resume : I.Reply c → Procedure I α} {s : σ} :
      Breaks c s → Course e Breaks (.call c resume) s [] none s
  | call {c : I.Call} {resume : I.Reply c → Procedure I α} {reply : I.Reply c}
      {τ : List (Answer I σ)} {r : Option α} {s t t' u : σ} :
      e.Answers c s reply t → e.Drifts t t' → Course e Breaks (resume reply) t' τ r u →
      Course e Breaks (.call c resume) s (⟨c, reply, s, t⟩ :: τ) r u

theorem course_done {a : α} {r : Option α} :
    Course e Breaks (.done a) s τ r t ↔ τ = [] ∧ r = some a ∧ t = s := by
  constructor
  · intro h
    cases h
    exact ⟨rfl, rfl, rfl⟩
  · rintro ⟨rfl, rfl, rfl⟩
    exact .done _ _

/-- A course of a call is broken off at once, or begins with an answer. -/
theorem course_call {c : I.Call} {resume : I.Reply c → Procedure I α} {r : Option α} :
    Course e Breaks (.call c resume) s τ r t ↔
      (Breaks c s ∧ τ = [] ∧ r = none ∧ t = s) ∨
      ∃ reply s₁ s₂ rest, e.Answers c s reply s₁ ∧ e.Drifts s₁ s₂ ∧
        Course e Breaks (resume reply) s₂ rest r t ∧ τ = ⟨c, reply, s, s₁⟩ :: rest := by
  constructor
  · intro h
    cases h with
    | broken hb => exact .inl ⟨hb, rfl, rfl, rfl⟩
    | call ha hd hr => exact .inr ⟨_, _, _, _, ha, hd, hr, rfl⟩
  · rintro (⟨hb, rfl, rfl, rfl⟩ | ⟨reply, s₁, s₂, rest, ha, hd, hr, rfl⟩)
    · exact .broken hb
    · exact .call ha hd hr

/-- The finished courses are the traces. -/
theorem course_some {p : Procedure I α} {a : α} :
    Course e Breaks p s τ (some a) t ↔ Trace e p s τ a t := by
  induction p generalizing s τ with
  | done b =>
      rw [course_done, trace_done, Option.some_inj]
  | call c resume ih =>
      rw [course_call, trace_call]
      constructor
      · rintro (⟨-, -, hnone, -⟩ | ⟨reply, s₁, s₂, rest, ha, hd, hr, hτ⟩)
        · cases hnone
        · exact ⟨reply, s₁, s₂, rest, ha, hd, (ih reply).1 hr, hτ⟩
      · rintro ⟨reply, s₁, s₂, rest, ha, hd, hr, hτ⟩
        exact .inr ⟨reply, s₁, s₂, rest, ha, hd, (ih reply).2 hr, hτ⟩

/-- What is made of the result changes nothing in the course. -/
theorem course_map {p : Procedure I α} {f : α → β} {r : Option β} :
    Course e Breaks (p.bind fun a => .done (f a)) s τ r t ↔
      ∃ r', Course e Breaks p s τ r' t ∧ r = r'.map f := by
  induction p generalizing s τ with
  | done a =>
      rw [bind_done, course_done]
      constructor
      · rintro ⟨rfl, rfl, rfl⟩
        exact ⟨some a, .done _ _, rfl⟩
      · rintro ⟨r', h, rfl⟩
        obtain ⟨rfl, rfl, rfl⟩ := course_done.1 h
        exact ⟨rfl, rfl, rfl⟩
  | call c resume ih =>
      rw [bind_call, course_call]
      constructor
      · rintro (⟨hb, rfl, rfl, rfl⟩ | ⟨reply, s₁, s₂, rest, ha, hd, hr, rfl⟩)
        · exact ⟨none, .broken hb, rfl⟩
        · obtain ⟨r', hr', rfl⟩ := (ih reply).1 hr
          exact ⟨r', .call ha hd hr', rfl⟩
      · rintro ⟨r', h, rfl⟩
        rcases course_call.1 h with ⟨hb, rfl, rfl, rfl⟩ | ⟨reply, s₁, s₂, rest, ha, hd, hr, rfl⟩
        · exact .inl ⟨hb, rfl, rfl, rfl⟩
        · exact .inr ⟨reply, s₁, s₂, rest, ha, hd, (ih reply).2 ⟨r', hr, rfl⟩, rfl⟩

/-- All calls of a run by a function pass a check. -/
def passes {ω : Type} (answer : (c : I.Call) → ω → I.Reply c × ω) (check : I.Call → ω → Bool) :
    Procedure I α → ω → Bool
  | .done _, _ => true
  | .call c resume, x =>
      check c x && passes answer check (resume (answer c x).1) (answer c x).2

/-- A function whose checked answers are allowed runs every procedure that passes along a trace. -/
theorem trace_of_passes {ω : Type} {answer : (c : I.Call) → ω → I.Reply c × ω}
    {check : I.Call → ω → Bool} {view : ω → σ} {Sound : ω → Prop} (hdrift : ∀ s, e.Drifts s s)
    (hanswer : ∀ c x, Sound x → check c x = true →
      e.Answers c (view x) (answer c x).1 (view (answer c x).2) ∧ Sound (answer c x).2)
    {p : Procedure I α} {x : ω} (hx : Sound x) (hp : p.passes answer check x = true) :
    Trace e p (view x) (p.answered answer view x) (p.run answer x).1 (view (p.run answer x).2) ∧
      Sound (p.run answer x).2 := by
  induction p generalizing x with
  | done a => exact ⟨.done a _, hx⟩
  | call c resume ih =>
      obtain ⟨hcheck, hrest⟩ := Bool.and_eq_true_iff.1 hp
      obtain ⟨ha, hnext⟩ := hanswer c x hx hcheck
      obtain ⟨ht, hlast⟩ := ih _ hnext hrest
      exact ⟨.call ha (hdrift _) ht, hlast⟩

end

end Procedure

open Procedure (Course course_done course_call course_some course_map)

/-! ## Calls and their history -/

/-- A call of a token manager. -/
inductive ManagerCall where
  /-- Sets the credentials of the tenant's next login. -/
  | assign (tenant : String) (credentials : ClientCredentials)
  /-- The usable token of the tenant. -/
  | active (tenant : String)
  /-- A token for the tenant. -/
  | access (checkCache : Bool) (tenant : String)
  /-- A token for the tenant, whose secret may have to be read. -/
  | authenticate (ownSecrets : Bool) (tenant : String)
  deriving DecidableEq, Repr

namespace ManagerCall

/-- The key of the call's tenant. -/
def key : ManagerCall → String
  | .assign tenant _ | .active tenant | .access _ tenant | .authenticate _ tenant =>
      tenantKey tenant

/-- What the call does, and the token that it gives out, if any. -/
def procedure : ManagerCall → Procedure CredentialCalls (Outcome (Option String))
  | .assign tenant credentials =>
      (TokenManager.assign tenant credentials).bind fun _ => .done (.ok none)
  | .active tenant => (TokenManager.activeToken tenant).bind fun token => .done (.ok token)
  | .access checkCache tenant =>
      (TokenManager.accessToken checkCache tenant).bind fun result => .done (result.map some)
  | .authenticate ownSecrets tenant =>
      (TokenManager.authenticate ownSecrets tenant).bind fun result => .done (result.map some)

end ManagerCall

/-- A token manager whose calls follow one another; a lookup is not answered if no clock holds the
    end of the token that it meets. -/
def soloManager (fallback : Option ClientCredentials) :
    Surroundings CredentialCalls ManagerState where
  Answers c s reply t := s.Answers fallback c reply t ∧
    ∀ key token, c = .cached key → s.cache.find? key = some token → token.endIsHeld = true
  Drifts s t := t = s

/-- A call may be broken off where it waits, and it is where it looks up a token whose end no clock
    holds. -/
def BreaksOff : CredentialCall → ManagerState → Prop
  | .lock, _ | .login _, _ | .readSecret _, _ => True
  | .cached key, s => ∃ token, s.cache.find? key = some token ∧ token.endIsHeld = false
  | .now, _ | .isCancelled, _ | .remember _ _, _ | .credentialsFor _, _ | .assign _ _, _
  | .unlock, _ => False

/-- A course of what is asked of a manager whose calls follow one another. -/
abbrev SoloCourse {α : Type} (fallback : Option ClientCredentials)
    (p : Procedure CredentialCalls α) (s : ManagerState)
    (τ : List (Answer CredentialCalls ManagerState)) (r : Option α) (t : ManagerState) : Prop :=
  Course (soloManager fallback) BreaksOff p s τ r t

/-- A call that is over, with its answers and its result; a call that was broken off has none. -/
structure ManagerEntry where
  call : ManagerCall
  answers : List (Answer CredentialCalls ManagerState)
  result : Option (Outcome (Option String))

/-- The states that a manager comes to by one call after another, with the history of its calls,
    newest first. -/
inductive ManagerHistory (fallback : Option ClientCredentials) :
    List ManagerEntry → ManagerState → Prop
  | start : ManagerHistory fallback [] {}
  | returned {h s c τ result t} : ManagerHistory fallback h s →
      SoloCourse fallback c.procedure s τ (some result) t →
      ManagerHistory fallback (⟨c, τ, some result⟩ :: h) t
  /-- Whoever is broken off gives the login lock back. -/
  | brokenOff {h s c τ t} : ManagerHistory fallback h s →
      SoloCourse fallback c.procedure s τ none t →
      ManagerHistory fallback (⟨c, τ, none⟩ :: h) { t with isLocked := false }

/-- The grant of a login that has succeeded, with the time at which it came. -/
def receipt? {σ : Type} : List (Answer CredentialCalls σ) → Option CachedToken
  | a :: b :: rest =>
      (a.exchanged?.bind fun grant => b.reading?.map (CachedToken.mk grant)).or
        (receipt? (b :: rest))
  | _ => none

/-- What the newest successful login for a key has brought. -/
def lastLogin? (key : String) : List ManagerEntry → Option CachedToken
  | [] => none
  | entry :: h =>
      (if entry.call.key = key then receipt? entry.answers else none).or (lastLogin? key h)

/-- The token of the newest successful login for a key, until ten seconds before its end. -/
def lastToken? (key : String) (h : List ManagerEntry) (now : Instant) : Option String :=
  ((lastLogin? key h).filter fun token =>
    now < (token.receivedAt.addSeconds
      (min (token.grant.expiresIn.toNat : Int) (2 ^ 32 - 1))).addSeconds (-10)).map
    (·.grant.accessToken)

/-! ## What one call does -/

/-- The token that a call has given out. -/
def tokenOf (result : Option (Outcome (Option String))) : Option String :=
  (result.bind Except.toOption).join

theorem tokenOf_map (r : Option (Outcome String)) :
    tokenOf (r.map fun result => result.map some) = r.bind Except.toOption := by
  rcases r with _ | (f | token)
  · rfl
  · rfl
  · rfl

/-- A call that has given out a token has returned it. -/
theorem eq_of_tokenOf {r : Option (Outcome (Option String))} {token : String}
    (h : tokenOf r = some token) : r = some (.ok (some token)) := by
  rcases r with _ | (f | given)
  · cases h
  · cases h
  · rw [show given = some token from h]

/-- What a call for a key makes of the cache, with its answers and the token that it gives out. -/
inductive CallEffect (key : String) (s : ManagerState) :
    List (Answer CredentialCalls ManagerState) → Option String → ManagerState → Prop
  /-- No login has succeeded; a token that is given out was cached. -/
  | kept {τ given u} : receipt? τ = none → u.cache = s.cache →
      (∀ token, given = some token →
        ∃ found, s.cache.find? key = some found ∧ token = found.grant.accessToken) →
      CallEffect key s τ given u
  /-- The token of a successful login is cached and given out. -/
  | renewed {τ token given u} : receipt? τ = some token → u.cache = s.cache.insert key token →
      token.grant.accessToken ≠ "" → given = some token.grant.accessToken →
      CallEffect key s τ given u

section

variable {fallback : Option ClientCredentials} {key tenant : String} {s s₁ t u : ManagerState}
  {τ : List (Answer CredentialCalls ManagerState)} {r : Option (Outcome String)}
  {given : Option String}

theorem receipt?_cons {σ : Type} {a : Answer CredentialCalls σ}
    {τ : List (Answer CredentialCalls σ)} (h : a.exchanged? = none) :
    receipt? (a :: τ) = receipt? τ := by
  cases τ with
  | nil => rfl
  | cons b rest => rw [receipt?, h, Option.bind_none, Option.none_or]

/-- A grant that has a token came when the clock was read next. -/
theorem receipt?_granted {σ : Type} {c : ClientCredentials} {grant : TokenGrant} {time : Instant}
    {s t u v : σ} {τ : List (Answer CredentialCalls σ)} (h : grant.accessToken ≠ "") :
    receipt? (⟨.login c, .reply (.ok grant), s, t⟩ :: ⟨.now, time, u, v⟩ :: τ) =
      some ⟨grant, time⟩ := by
  have hexchanged : (⟨.login c, .reply (.ok grant), s, t⟩ :
      Answer CredentialCalls σ).exchanged? = some grant := if_neg h
  rw [receipt?, hexchanged]
  rfl

theorem CallEffect.cons {a : Answer CredentialCalls ManagerState} (h : CallEffect key s τ given u)
    (ha : a.exchanged? = none) : CallEffect key s (a :: τ) given u := by
  cases h with
  | kept hnone hcache hgiven => exact .kept ((receipt?_cons ha).trans hnone) hcache hgiven
  | renewed hsome hcache hne hgiven =>
      exact .renewed ((receipt?_cons ha).trans hsome) hcache hne hgiven

/-- Only the cache that a call finds matters. -/
theorem CallEffect.congr (h : CallEffect key s τ given u) (hs : s.cache = t.cache) :
    CallEffect key t τ given u := by
  cases h with
  | kept hnone hcache hgiven => exact .kept hnone (hcache.trans hs) (hs ▸ hgiven)
  | renewed hsome hcache hne hgiven => exact .renewed hsome (hs ▸ hcache) hne hgiven

/-- The lock does not matter for the effect. -/
theorem CallEffect.released (h : CallEffect key s τ given u) :
    CallEffect key s τ given { u with isLocked := false } := by
  cases h with
  | kept hnone hcache hgiven => exact .kept hnone hcache hgiven
  | renewed hsome hcache hne hgiven => exact .renewed hsome hcache hne hgiven

/-- A call that is broken off at once. -/
theorem CallEffect.stopped : CallEffect key s [] none s := .kept rfl rfl nofun

/-- A question is broken off or answered, and leaves the state alone. -/
theorem course_question {α : Type} {c : CredentialCall}
    {resume : CredentialCalls.Reply c → Procedure CredentialCalls α} {r : Option α}
    (h : SoloCourse fallback (.call c resume) s τ r u) (hc : c.IsQuestion) :
    (τ = [] ∧ r = none ∧ u = s) ∨
      ∃ reply rest, s.Answers fallback c reply s ∧
        SoloCourse fallback (resume reply) s rest r u ∧ τ = ⟨c, reply, s, s⟩ :: rest := by
  rcases course_call.1 h with ⟨-, hbroken⟩ | ⟨reply, s₁, s₂, rest, ⟨ha, -⟩, hd, hr, rfl⟩
  · exact .inl hbroken
  · obtain rfl := ha.of_isQuestion hc
    obtain rfl : s₂ = _ := hd
    exact .inr ⟨reply, rest, ha, hr, rfl⟩

/-- A call that cannot be broken off is answered. -/
theorem course_answered {α : Type} {c : CredentialCall}
    {resume : CredentialCalls.Reply c → Procedure CredentialCalls α} {r : Option α}
    (h : SoloCourse fallback (.call c resume) s τ r u) (hc : ¬ BreaksOff c s) :
    ∃ reply t rest, s.Answers fallback c reply t ∧
      SoloCourse fallback (resume reply) t rest r u ∧ τ = ⟨c, reply, s, t⟩ :: rest := by
  rcases course_call.1 h with ⟨hbreaks, -⟩ | ⟨reply, s₁, s₂, rest, ⟨ha, -⟩, hd, hr, rfl⟩
  · exact absurd hbreaks hc
  · obtain rfl : s₂ = _ := hd
    exact ⟨reply, s₂, rest, ha, hr, rfl⟩

/-- The lock is given back, and the result is what it was. -/
theorem course_leaving {result : Outcome String}
    (h : SoloCourse fallback (release (.done result)) s τ r u) :
    receipt? τ = none ∧ u.cache = s.cache ∧ r = some result := by
  obtain ⟨⟨⟩, t, rest, ha, hr, rfl⟩ := course_answered h not_false
  obtain ⟨rfl, rfl, rfl⟩ := course_done.1 hr
  obtain rfl : u = _ := ha
  exact ⟨rfl, rfl, rfl⟩

/-- A failure gives nothing out and leaves the cache alone. -/
theorem effect_failing {f : Fault}
    (h : SoloCourse fallback (release (.done (.error f))) s τ r u) :
    CallEffect key s τ (r.bind Except.toOption) u := by
  obtain ⟨hnone, hcache, rfl⟩ := course_leaving h
  exact .kept hnone hcache nofun

/-- What becomes of a grant. -/
theorem effect_accept {credentials : ClientCredentials} {grant : TokenGrant}
    (h : SoloCourse fallback (release (TokenManager.accept key grant)) s τ r u) :
    CallEffect key s (⟨.login credentials, .reply (.ok grant), s, s⟩ :: τ)
      (r.bind Except.toOption) u := by
  by_cases hempty : grant.accessToken = ""
  · rw [TokenManager.accept, if_pos hempty] at h
    exact (effect_failing h).cons (if_pos hempty)
  · rw [TokenManager.accept, if_neg hempty] at h
    obtain ⟨time, t, rest, ha, hremember, rfl⟩ := course_answered h not_false
    obtain rfl : t = s := ha
    obtain ⟨⟨⟩, t₁, rest', hcached, hleaving, rfl⟩ := course_answered hremember not_false
    obtain rfl : t₁ = _ := hcached
    obtain ⟨hnone, hcache, rfl⟩ := course_leaving hleaving
    exact .renewed (receipt?_granted hempty) hcache hempty rfl

/-- The exchange and what becomes of it. -/
theorem effect_exchange {credentials : ClientCredentials}
    (h : SoloCourse fallback (release (Position.exchange key credentials)) s τ r u) :
    CallEffect key s τ (r.bind Except.toOption) u := by
  rcases course_question h trivial with ⟨rfl, rfl, rfl⟩ | ⟨reply, rest, -, hr, rfl⟩
  · exact .stopped
  · rcases reply with (f | grant) | late
    · exact (effect_failing hr).cons rfl
    · exact effect_accept hr
    · exact (effect_failing hr).cons rfl

theorem effect_login (h : SoloCourse fallback (release (TokenManager.login key)) s τ r u) :
    CallEffect key s τ (r.bind Except.toOption) u := by
  rcases course_question h trivial with ⟨rfl, rfl, rfl⟩ | ⟨credentials, rest, -, h₁, rfl⟩
  · exact .stopped
  refine CallEffect.cons ?_ rfl
  cases credentials with
  | none => exact effect_failing h₁
  | some credentials =>
      rcases course_question h₁ trivial with ⟨rfl, rfl, rfl⟩ | ⟨cancelled, rest', -, h₂, rfl⟩
      · exact .stopped
      refine CallEffect.cons ?_ rfl
      cases cancelled with
      | true => exact effect_failing h₂
      | false => exact effect_exchange h₂

/-- A token that is found to be valid is a cached one. -/
theorem found_of_filter {found : Option CachedToken} {time : Instant} {token : String}
    (h : (found.filter (·.isValidAt time)).map (·.grant.accessToken) = some token) :
    ∃ cached, found = some cached ∧ token = cached.grant.accessToken := by
  obtain ⟨cached, hcached, rfl⟩ := Option.map_eq_some_iff.1 h
  exact ⟨cached, (Option.filter_eq_some_iff.1 hcached).1, rfl⟩

/-- A token that is found to be valid is given out. -/
theorem CallEffect.found {cached : Option CachedToken} {time : Instant} {token : String}
    (hcached : cached = s.cache.find? key)
    (hfound : (cached.filter (·.isValidAt time)).map (·.grant.accessToken) = some token)
    (hnone : receipt? τ = none) (hcache : u.cache = s.cache) :
    CallEffect key s τ (some token) u := by
  refine .kept hnone hcache fun given hgiven => ?_
  cases hgiven
  obtain ⟨found, rfl, htoken⟩ := found_of_filter hfound
  exact ⟨found, hcached.symm, htoken⟩

theorem effect_locked {checkCache : Bool}
    (h : SoloCourse fallback (release (TokenManager.locked checkCache key)) s τ r u) :
    CallEffect key s τ (r.bind Except.toOption) u := by
  cases checkCache with
  | false => exact effect_login h
  | true =>
      rcases course_question h trivial with ⟨rfl, rfl, rfl⟩ | ⟨time, rest, -, h₁, rfl⟩
      · exact .stopped
      rcases course_question h₁ trivial with ⟨rfl, rfl, rfl⟩ | ⟨cached, rest', ha, h₂, rfl⟩
      · exact CallEffect.stopped.cons rfl
      refine CallEffect.cons (CallEffect.cons ?_ rfl) rfl
      dsimp only [Procedure.bind_done] at h₂
      cases hfound : (cached.filter (·.isValidAt time)).map (·.grant.accessToken) with
      | none =>
          rw [hfound] at h₂
          exact effect_login h₂
      | some token =>
          rw [hfound] at h₂
          obtain ⟨hnone, hcache, rfl⟩ := course_leaving h₂
          exact .found ha.1 hfound hnone hcache

theorem effect_accessToken {checkCache : Bool}
    (h : SoloCourse fallback (TokenManager.accessToken checkCache tenant) s τ r u) :
    CallEffect (tenantKey tenant) s τ (r.bind Except.toOption) u := by
  rcases course_call.1 h with
    ⟨-, rfl, rfl, rfl⟩ | ⟨reply, s₁, s₂, rest, ⟨ha, -⟩, hd, hr, rfl⟩
  · exact .stopped
  obtain rfl : s₂ = s₁ := hd
  rcases reply with _ | late
  · obtain ⟨-, rfl⟩ := ha
    refine CallEffect.cons ?_ rfl
    exact (effect_locked hr).congr rfl
  · obtain rfl : s₂ = s := ha
    obtain ⟨rfl, rfl, rfl⟩ := course_done.1 hr
    exact .kept rfl rfl nofun

/-- A look into the cache is broken off, or answered at a time that the clock shows. -/
theorem course_activeToken {r : Option (Option String)}
    (h : SoloCourse fallback (TokenManager.activeToken tenant) s τ r u) :
    u = s ∧ receipt? τ = none ∧ ∀ result, r = some result → ∃ time,
      result = (s.cache.valid? (tenantKey tenant) time).map (·.grant.accessToken) := by
  rcases course_question h trivial with ⟨rfl, rfl, rfl⟩ | ⟨time, rest, -, h₁, rfl⟩
  · exact ⟨rfl, rfl, nofun⟩
  rcases course_question h₁ trivial with ⟨rfl, rfl, rfl⟩ | ⟨cached, rest', ha, h₂, rfl⟩
  · exact ⟨rfl, rfl, nofun⟩
  obtain ⟨rfl, rfl, rfl⟩ := course_done.1 h₂
  refine ⟨rfl, rfl, fun result hresult => ⟨time, ?_⟩⟩
  cases hresult
  rw [show cached = u.cache.find? (tenantKey tenant) from ha.1]
  rfl

theorem effect_authenticate {ownSecrets : Bool}
    (h : SoloCourse fallback (TokenManager.authenticate ownSecrets tenant) s τ r u) :
    CallEffect (tenantKey tenant) s τ (r.bind Except.toOption) u := by
  rcases course_question h trivial with ⟨rfl, rfl, rfl⟩ | ⟨time, rest, -, h₁, rfl⟩
  · exact .stopped
  rcases course_question h₁ trivial with ⟨rfl, rfl, rfl⟩ | ⟨cached, rest', ha, h₂, rfl⟩
  · exact CallEffect.stopped.cons rfl
  refine CallEffect.cons (CallEffect.cons ?_ rfl) rfl
  dsimp only [Procedure.bind_done] at h₂
  cases hfound : (cached.filter (·.isValidAt time)).map (·.grant.accessToken) with
  | some token =>
      rw [hfound] at h₂
      obtain ⟨rfl, rfl, rfl⟩ := course_done.1 h₂
      exact .found ha.1 hfound rfl rfl
  | none =>
      rw [hfound] at h₂
      cases ownSecrets with
      | false => exact effect_accessToken h₂
      | true =>
          rcases course_question h₂ trivial with ⟨rfl, rfl, rfl⟩ | ⟨secret, rest'', -, h₃, rfl⟩
          · exact .stopped
          refine CallEffect.cons ?_ rfl
          cases hread : secret >>= ClientCredentials.ofSecret with
          | error f =>
              rw [hread] at h₃
              obtain ⟨rfl, rfl, rfl⟩ := course_done.1 h₃
              exact .kept rfl rfl nofun
          | ok credentials =>
              rw [hread] at h₃
              obtain ⟨⟨⟩, t, rest₃, hassign, h₄, rfl⟩ := course_answered h₃ not_false
              obtain rfl : t = _ := hassign
              refine CallEffect.cons ?_ rfl
              exact (effect_accessToken h₄).congr rfl

/-- What a call makes of the cache. -/
theorem effect_of_course {c : ManagerCall} {r : Option (Outcome (Option String))}
    (h : SoloCourse fallback c.procedure s τ r u) : CallEffect c.key s τ (tokenOf r) u := by
  cases c with
  | assign tenant credentials =>
      obtain ⟨⟨⟩, t, rest, hassign, h₁, rfl⟩ := course_answered h not_false
      obtain ⟨rfl, rfl, rfl⟩ := course_done.1 h₁
      obtain rfl : u = _ := hassign
      exact .kept rfl rfl nofun
  | active tenant =>
      obtain ⟨r', h', rfl⟩ := course_map.1 h
      obtain ⟨rfl, hnone, hresult⟩ := course_activeToken h'
      refine .kept hnone rfl fun token htoken => ?_
      cases r' with
      | none => cases htoken
      | some result =>
          obtain ⟨time, rfl⟩ := hresult result rfl
          exact found_of_filter htoken
  | access checkCache tenant =>
      obtain ⟨r', h', rfl⟩ := course_map.1 h
      have heffect := effect_accessToken h'
      rw [tokenOf_map]
      exact heffect
  | authenticate ownSecrets tenant =>
      obtain ⟨r', h', rfl⟩ := course_map.1 h
      have heffect := effect_authenticate h'
      rw [tokenOf_map]
      exact heffect

/-! ## The lock -/

theorem isLocked_accessToken {checkCache : Bool} {result : Outcome String}
    (h : Trace (soloManager fallback) (TokenManager.accessToken checkCache tenant) s τ result u) :
    u.isLocked = s.isLocked := by
  obtain ⟨reply, s₁, s₂, rest, ⟨ha, -⟩, hd, hr, rfl⟩ := trace_call.1 h
  obtain rfl : s₂ = s₁ := hd
  rcases reply with _ | late
  · obtain ⟨hfree, -⟩ := ha
    obtain ⟨first, result', m, rest', -, hunlock, rfl⟩ := trace_bind.1 hr
    obtain ⟨⟨⟩, s₃, s₄, rest'', ⟨hfreed, -⟩, hd, hdone, rfl⟩ := trace_call.1 hunlock
    obtain ⟨-, -, rfl⟩ := trace_done.1 hdone
    obtain rfl : u = s₃ := hd
    obtain rfl : u = _ := hfreed
    exact hfree.symm
  · obtain rfl : s₂ = s := ha
    obtain ⟨-, -, rfl⟩ := trace_done.1 hr
    rfl

theorem isLocked_authenticate {ownSecrets : Bool} {result : Outcome String}
    (h : Trace (soloManager fallback) (TokenManager.authenticate ownSecrets tenant) s τ result u) :
    u.isLocked = s.isLocked := by
  obtain ⟨first, token, m, rest, hactive, hr, rfl⟩ := trace_bind.1 h
  obtain rfl : m = s := (course_activeToken (course_some.2 hactive)).1
  cases token with
  | some token =>
      obtain ⟨-, -, rfl⟩ := trace_done.1 hr
      rfl
  | none =>
      cases ownSecrets with
      | false => exact isLocked_accessToken hr
      | true =>
          obtain ⟨secret, s₁, s₂, rest', ⟨ha, -⟩, hd, h₁, rfl⟩ := trace_call.1 hr
          obtain rfl : s₂ = s₁ := hd
          obtain rfl : s₂ = m := ha
          cases hread : secret >>= ClientCredentials.ofSecret with
          | error f =>
              rw [hread] at h₁
              obtain ⟨-, -, rfl⟩ := trace_done.1 h₁
              rfl
          | ok credentials =>
              rw [hread] at h₁
              obtain ⟨⟨⟩, s₃, s₄, rest'', ⟨hassign, -⟩, hd, h₂, rfl⟩ := trace_call.1 h₁
              obtain rfl : s₄ = s₃ := hd
              obtain rfl : s₄ = _ := hassign
              have hkept := isLocked_accessToken h₂
              exact hkept

/-- A call that has not been broken off leaves the lock as it was. -/
theorem isLocked_of_course {c : ManagerCall} {result : Outcome (Option String)}
    (h : SoloCourse fallback c.procedure s τ (some result) u) : u.isLocked = s.isLocked := by
  cases c with
  | assign tenant credentials =>
      obtain ⟨⟨⟩, t, rest, hassign, h₁, rfl⟩ := course_answered h not_false
      obtain ⟨-, -, rfl⟩ := course_done.1 h₁
      obtain rfl : u = _ := hassign
      rfl
  | active tenant =>
      obtain ⟨r', h', -⟩ := course_map.1 h
      rw [(course_activeToken h').1]
  | access checkCache tenant =>
      obtain ⟨r', h', hresult⟩ := course_map.1 h
      obtain ⟨result', rfl, -⟩ := Option.map_eq_some_iff.1 hresult.symm
      exact isLocked_accessToken (course_some.1 h')
  | authenticate ownSecrets tenant =>
      obtain ⟨r', h', hresult⟩ := course_map.1 h
      obtain ⟨result', rfl, -⟩ := Option.map_eq_some_iff.1 hresult.symm
      exact isLocked_authenticate (course_some.1 h')

end

/-! ## Histories -/

section

variable {fallback : Option ClientCredentials} {c : ManagerCall} {s t : ManagerState}
  {τ : List (Answer CredentialCalls ManagerState)} {r : Option (Outcome (Option String))}
  {h : List ManagerEntry} {key tenant : String}

/-- The cache holds what the history says, and nobody holds the lock. -/
structure ReflectsHistory (h : List ManagerEntry) (s : ManagerState) : Prop where
  cached : ∀ key, s.cache.find? key = lastLogin? key h
  named : ∀ key token, lastLogin? key h = some token → token.grant.accessToken ≠ ""
  unlocked : s.isLocked = false

/-- A call without a successful login leaves the last logins what they were. -/
theorem lastLogin?_of_none (hnone : receipt? τ = none) (key : String) :
    lastLogin? key (⟨c, τ, r⟩ :: h) = lastLogin? key h := by
  rw [lastLogin?, hnone, ite_self, Option.none_or]

/-- A successful login is the last one of its key. -/
theorem lastLogin?_of_some {token : CachedToken} (hsome : receipt? τ = some token) (key : String) :
    lastLogin? key (⟨c, τ, r⟩ :: h) = if key = c.key then some token else lastLogin? key h := by
  rw [lastLogin?, hsome]
  by_cases hkey : key = c.key
  · rw [if_pos hkey.symm, if_pos hkey, Option.some_or]
  · rw [if_neg (Ne.symm hkey), if_neg hkey, Option.none_or]

/-- A call whose effect is known goes on with a reflected history. -/
theorem ReflectsHistory.cons (hs : ReflectsHistory h s) (he : CallEffect c.key s τ (tokenOf r) t)
    (ht : t.isLocked = false) : ReflectsHistory (⟨c, τ, r⟩ :: h) t := by
  cases he with
  | kept hnone hcache _ =>
      refine ⟨fun key => ?_, fun key token htoken => ?_, ht⟩
      · rw [lastLogin?_of_none hnone, hcache, hs.cached]
      · exact hs.named key token ((lastLogin?_of_none hnone key).symm.trans htoken)
  | renewed hsome hcache hne _ =>
      refine ⟨fun key => ?_, fun key token' htoken => ?_, ht⟩
      · rw [lastLogin?_of_some hsome, hcache, Table.find?_insert, hs.cached]
      · rw [lastLogin?_of_some hsome] at htoken
        by_cases hkey : key = c.key
        · rw [if_pos hkey] at htoken
          cases htoken
          exact hne
        · rw [if_neg hkey] at htoken
          exact hs.named key token' htoken

/-- The cache reflects every history. -/
theorem ManagerHistory.reflects (hr : ManagerHistory fallback h s) : ReflectsHistory h s := by
  induction hr with
  | start => exact ⟨fun _ => rfl, nofun, rfl⟩
  | returned _ hcourse ih =>
      exact ih.cons (effect_of_course hcourse) ((isLocked_of_course hcourse).trans ih.unlocked)
  | brokenOff _ hcourse ih => exact ih.cons (effect_of_course hcourse).released rfl

/-- The token of the last login that can still be used is the one that is found to be valid. -/
theorem ReflectsHistory.served (hs : ReflectsHistory h s) (key : String) (now : Instant) :
    lastToken? key h now = (s.cache.valid? key now).map (·.grant.accessToken) := by
  rw [lastToken?, TokenCache.valid?, hs.cached]
  rfl

/-- Without a successful login, the tokens of the last logins stay what they were. -/
theorem lastToken?_cons (hnone : receipt? τ = none) (key : String) (now : Instant) :
    lastToken? key (⟨c, τ, r⟩ :: h) now = lastToken? key h now := by
  rw [lastToken?, lastToken?, lastLogin?_of_none hnone]

/-- A lookup gives the token of the last login while it can be used, unless it is broken off. -/
theorem ReflectsHistory.active_iff (hs : ReflectsHistory h s) {now : Instant}
    {result : Outcome (Option String)} :
    (∃ τ t, SoloCourse fallback (ManagerCall.active tenant).procedure s
        (⟨.now, now, s, s⟩ :: τ) (some result) t) ↔
      (∀ token, lastLogin? (tenantKey tenant) h = some token → token.endIsHeld = true) ∧
        result = .ok (lastToken? (tenantKey tenant) h now) := by
  rw [hs.served, ← hs.cached]
  constructor
  · rintro ⟨τ, t, hcourse⟩
    obtain ⟨time, s₁, s₂, rest, ⟨ha, -⟩, hd, h₁, hτ⟩ := trace_call.1 (course_some.1 hcourse)
    cases hτ
    obtain rfl : s₂ = s := hd
    obtain ⟨cached, s₁, s₃, rest, ⟨⟨hcached, -⟩, hheld⟩, -, h₂, rfl⟩ := trace_call.1 h₁
    obtain ⟨-, rfl, -⟩ := trace_done.1 h₂
    refine ⟨fun token htoken => hheld _ token rfl htoken, ?_⟩
    rw [show cached = _ from hcached]
    rfl
  · rintro ⟨hheld, rfl⟩
    refine ⟨[⟨.cached (tenantKey tenant), s.cache.find? (tenantKey tenant), s, s⟩], s,
      course_some.2 (.call ⟨rfl, nofun⟩ rfl (.call ⟨⟨rfl, rfl⟩, ?_⟩ rfl (.done _ _)))⟩
    intro key token hcall
    cases hcall
    exact hheld token

/-- The answer is to a question that a tenant's token is to spare. -/
def Answer.isRenewal {σ : Type} : Answer CredentialCalls σ → Bool
  | ⟨.login _, _, _, _⟩ | ⟨.readSecret _, _, _, _⟩ => true
  | _ => false

/-- Where a valid token is cached, it is given out without a renewal, unless its lookup is broken
    off. -/
theorem spared_of_valid {ownSecrets : Bool} {now : Instant} {token : CachedToken}
    (hvalid : s.cache.valid? (tenantKey tenant) now = some token)
    (h : SoloCourse fallback (ManagerCall.authenticate ownSecrets tenant).procedure s
      (⟨.now, now, s, s⟩ :: τ) r t) :
    (∀ a ∈ τ, a.isRenewal = false) ∧
      (r = some (.ok (some token.grant.accessToken)) ∨ r = none ∧ token.endIsHeld = false) := by
  have hfind : s.cache.find? (tenantKey tenant) = some token :=
    (Option.filter_eq_some_iff.1 hvalid).1
  obtain ⟨r', h', rfl⟩ := course_map.1 h
  rcases course_question h' trivial with ⟨hτ, -⟩ | ⟨time, rest, -, h₁, hτ⟩
  · cases hτ
  cases hτ
  rcases course_call.1 h₁ with ⟨⟨token', htoken, hend⟩, rfl, rfl, rfl⟩ |
    ⟨cached, s₁, s₂, rest, ⟨⟨hcached, hs₁⟩, -⟩, hd, h₂, rfl⟩
  · obtain rfl : token' = token := Option.some.inj (htoken.symm.trans hfind)
    exact ⟨nofun, .inr ⟨rfl, hend⟩⟩
  · have hfound : (cached.filter (·.isValidAt now)).map (·.grant.accessToken) =
        some token.grant.accessToken := by
      rw [show cached = _ from hcached]
      exact congrArg _ hvalid
    dsimp only [Procedure.bind_done] at h₂
    rw [hfound] at h₂
    obtain ⟨rfl, rfl, -⟩ := course_done.1 h₂
    exact ⟨List.forall_mem_singleton.2 rfl, .inl rfl⟩

/-- What holds after a history of calls, and of the call that comes next. -/
structure ServesLastLogins (fallback : Option ClientCredentials) (h : List ManagerEntry)
    (s : ManagerState) : Prop where
  /-- A lookup returns the token of the last login while it can be used, if clocks hold its end. -/
  active : ∀ tenant (now : Instant) result,
    (∃ τ t, SoloCourse fallback (ManagerCall.active tenant).procedure s
        (⟨.now, now, s, s⟩ :: τ) (some result) t) ↔
      (∀ token, lastLogin? (tenantKey tenant) h = some token → token.endIsHeld = true) ∧
        result = .ok (lastToken? (tenantKey tenant) h now)
  /-- A call that returns no result or a failure leaves the cache as it was, and what it serves. -/
  failed : ∀ (c : ManagerCall) τ r t, SoloCourse fallback c.procedure s τ r t →
    (∀ given, r ≠ some (.ok given)) →
    t.cache = s.cache ∧ ∀ key now, lastToken? key (⟨c, τ, r⟩ :: h) now = lastToken? key h now
  /-- A call whose login succeeds returns the token, which is that of the last login then. -/
  logged : ∀ (c : ManagerCall) τ r t token, SoloCourse fallback c.procedure s τ r t →
    receipt? τ = some token →
    r = some (.ok (some token.grant.accessToken)) ∧ lastLogin? c.key (⟨c, τ, r⟩ :: h) = some token
  /-- A call changes the entry of its own key only. -/
  own : ∀ (c : ManagerCall) τ r t, SoloCourse fallback c.procedure s τ r t →
    ∀ key, key ≠ c.key → t.cache.find? key = s.cache.find? key
  /-- No token that is cached or given out is empty. -/
  named : (∀ key token, s.cache.find? key = some token → token.grant.accessToken ≠ "") ∧
    ∀ (c : ManagerCall) τ token t,
      SoloCourse fallback c.procedure s τ (some (.ok (some token))) t → token ≠ ""
  /-- While the token of the last login can be used, it is given out without a login and without
      reading a secret, if clocks hold its end. -/
  spared : ∀ ownSecrets tenant (now : Instant) τ r t token,
    SoloCourse fallback (ManagerCall.authenticate ownSecrets tenant).procedure s
      (⟨.now, now, s, s⟩ :: τ) r t →
    lastToken? (tenantKey tenant) h now = some token →
    (∀ a ∈ τ, a.isRenewal = false) ∧
      (r = some (.ok (some token)) ∨
        r = none ∧ ∃ last, lastLogin? (tenantKey tenant) h = some last ∧ last.endIsHeld = false)

end

/-! ## Histories at a desk -/

namespace Scripted

/-- The desk can answer the call. -/
def Desk.serves (c : CredentialCall) (d : Desk) : Bool :=
  !Desk.waits c true d && match c with
    | .cached key => (d.cache.find? key).all (·.endIsHeld)
    | _ => true

/-- The desk after a call, and the call with its answers. -/
def Desk.entry (c : ManagerCall) (d : Desk) : ManagerEntry × Desk :=
  (⟨c, c.procedure.answered Desk.answer Desk.shared d,
      some (c.procedure.run Desk.answer d).1⟩, (c.procedure.run Desk.answer d).2)

/-- A desk that can answer all calls of a procedure runs it as a token manager does. -/
theorem Desk.course {α : Type} {p : Procedure CredentialCalls α} {d : Desk}
    (hp : p.passes Desk.answer Desk.serves d = true) :
    SoloCourse d.fallback p d.shared (p.answered Desk.answer Desk.shared d)
        (some (p.run Desk.answer d).1) (p.run Desk.answer d).2.shared ∧
      (p.run Desk.answer d).2.fallback = d.fallback := by
  have hanswer : ∀ (c : CredentialCall) (x : Desk), x.fallback = d.fallback →
      x.serves c = true → (soloManager d.fallback).Answers c x.shared (x.answer c).1
        (x.answer c).2.shared ∧ (x.answer c).2.fallback = d.fallback := by
    intro c x hx hserves
    obtain ⟨hwaits, hheld⟩ := Bool.and_eq_true_iff.1 hserves
    rw [Bool.not_eq_true'] at hwaits
    obtain ⟨ha, hkept⟩ := x.answers c hwaits
    rw [hx] at ha
    refine ⟨⟨ha, fun key token hcall hfind => ?_⟩, hkept.trans hx⟩
    subst hcall
    have hheld : (x.cache.find? key).all (·.endIsHeld) = true := hheld
    rw [show x.cache.find? key = some token from hfind] at hheld
    exact hheld
  have htrace := @Procedure.trace_of_passes CredentialCalls α ManagerState
    (soloManager d.fallback) Desk Desk.answer Desk.serves Desk.shared
    (fun x => x.fallback = d.fallback) (fun _ => rfl) hanswer p d rfl hp
  exact ⟨course_some.2 htrace.1, htrace.2⟩

/-- A history goes on with a call that the desk can answer. -/
theorem Desk.history {c : ManagerCall} {d : Desk} {h : List ManagerEntry}
    (hr : ManagerHistory d.fallback h d.shared)
    (hp : c.procedure.passes Desk.answer Desk.serves d = true) :
    ManagerHistory d.fallback ((d.entry c).1 :: h) (d.entry c).2.shared :=
  .returned hr (Desk.course hp).1

/-- A desk whose identity provider grants one token and refuses the next. -/
def refreshDesk : Desk :=
  { now := ⟨0, 0⟩
    fallback := some ⟨"client", "secret"⟩
    grants := [.reply ⟨"first", "Bearer", 300⟩, .fail (.authentication "busy")] }

/-- The public tenant logs in. -/
def granted : ManagerEntry × Desk := refreshDesk.entry (.access false "")

/-- It fails to refresh its token 100 seconds later. -/
def refused : ManagerEntry × Desk := (granted.2.advance 100000000000).entry (.access false "public")

theorem history_refused :
    ManagerHistory refreshDesk.fallback [refused.1, granted.1] refused.2.shared := by
  have hgranted : ManagerHistory refreshDesk.fallback [granted.1] granted.2.shared :=
    Desk.history .start (by decide +kernel)
  have hfallback : (granted.2.advance 100000000000).fallback = refreshDesk.fallback := by
    decide +kernel
  have hrefused := Desk.history (d := granted.2.advance 100000000000) (h := [granted.1])
    (c := .access false "public") (hfallback ▸ hgranted) (by decide +kernel)
  rw [hfallback] at hrefused
  exact hrefused

end Scripted

namespace Scripted

/-- A desk at the end of the time that clocks hold. -/
def lastDesk : Desk :=
  { now := ⟨CivilDate.toDays ⟨262143, 1, 1⟩ * 86400 - 5, 0⟩
    fallback := some ⟨"client", "secret"⟩
    grants := [.reply ⟨"last", "Bearer", 300⟩] }

/-- A login there. -/
def grantedLast : ManagerEntry × Desk := lastDesk.entry (.access false "acme")

end Scripted

end CloudReconciler
