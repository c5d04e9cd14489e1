import CloudReconciler.Proofs.Credentials.ManagerState

/-! # Serialized logins — one exchange at a time, and none while a token is valid

    Callers that look into the cache do so while they hold the login lock,
    and whoever finds no valid token keeps the lock until the exchange is
    over.  A point of the text between the two calls of the lock is a
    `Position`, and `Position.Knows` says what its caller knows there: after
    a look into the cache in vain, that no token of the key is valid.
    Others only wait meanwhile, so the knowledge lasts (`Position.Knows.mono`),
    each call of the caller leads to the knowledge of the next position
    (`Position.step`), and every interleaving keeps `OneInside`.

    Nothing is assumed of clock, cancellations and identity provider.  The
    clock never goes back, so the time of a point of the history is one that
    is not before any time that the clock has shown. -/

namespace CloudReconciler

open Procedure (Trace trace_done trace_call trace_bind)

/-- A history of the callers of a token manager, newest first. -/
abbrev ManagerLog (ι : Type) : Type := List (Event ι CredentialCalls ManagerState)

/-- Who has been assigned credentials has some ever after. -/
def ManagerState.KeepsAssigned (s t : ManagerState) : Prop :=
  ∀ key, (s.assigned.find? key).isSome → (t.assigned.find? key).isSome

/-- A token manager for its callers: nobody else touches the cache or the lock, while credentials
    may be assigned at any time. -/
def managerSurroundings (fallback : Option ClientCredentials) :
    Surroundings CredentialCalls ManagerState where
  Answers c s reply t := s.Answers fallback c reply t
  Drifts s t := t.cache = s.cache ∧ t.isLocked = s.isLocked ∧ s.KeepsAssigned t

/-- What is valid was valid before. -/
theorem CachedToken.isValidAt_of_le {a b : Instant} (token : CachedToken) (hle : a ≤ b)
    (hb : token.isValidAt b) : token.isValidAt a := by
  have hle : a.seconds < b.seconds ∨ a.seconds = b.seconds ∧ a.nanos ≤ b.nanos := hle
  have hb : b.seconds < token.usableUntil.seconds ∨
      b.seconds = token.usableUntil.seconds ∧ b.nanos < token.usableUntil.nanos :=
    of_decide_eq_true hb
  refine decide_eq_true (show a.seconds < _ ∨ a.seconds = _ ∧ a.nanos < _ from ?_)
  omega

/-- The call only asks for something. -/
def CredentialCall.IsQuestion : CredentialCall → Prop
  | .now | .isCancelled | .cached _ | .credentialsFor _ | .login _ | .readSecret _ => True
  | .remember _ _ | .assign _ _ | .lock | .unlock => False

/-- A question leaves the state of the manager alone. -/
theorem ManagerState.Answers.of_isQuestion {fallback : Option ClientCredentials}
    {c : CredentialCall} {s t : ManagerState} {reply : CredentialCalls.Reply c}
    (ha : s.Answers fallback c reply t) (hc : c.IsQuestion) : t = s := by
  cases c with
  | now | isCancelled | login _ | readSecret _ => exact ha
  | cached _ | credentialsFor _ => exact ha.2
  | remember _ _ | assign _ _ | lock | unlock => exact hc.elim

/-! ## Histories -/

namespace Answer

variable {σ : Type}

/-- The time, if the clock has been read. -/
def reading? : Answer CredentialCalls σ → Option Instant
  | ⟨.now, time, _, _⟩ => some time
  | _ => none

/-- The grant of an exchange that has succeeded; a grant without a token is a failure. -/
def exchanged? : Answer CredentialCalls σ → Option TokenGrant
  | ⟨.login _, .reply (.ok grant), _, _⟩ => if grant.accessToken = "" then none else some grant
  | _ => none

/-- The caller has come to know that it is cancelled. -/
def isCancellation : Answer CredentialCalls σ → Bool
  | ⟨.lock, .cancelled _, _, _⟩ => true
  | ⟨.isCancelled, cancelled, _, _⟩ => cancelled
  | ⟨.login _, .cancelled _, _, _⟩ => true
  | _ => false

end Answer

section

variable {ι : Type}

/-- The times that the clock has shown. -/
def shownTimes (log : ManagerLog ι) : List Instant := log.filterMap (·.reading?)

/-- The time can be that of the end of the history. -/
def CanBeNow (log : ManagerLog ι) (time : Instant) : Prop := ∀ shown ∈ shownTimes log, shown ≤ time

/-- The caller that has got the lock and has not given it back. -/
def holder? : ManagerLog ι → Option ι
  | [] => none
  | ⟨⟨.lock, .reply (), _, _⟩, i⟩ :: _ => some i
  | ⟨⟨.unlock, _, _, _⟩, _⟩ :: _ => none
  | _ :: log => holder? log

/-- The token has been cached for the key, and ever since the clock has only shown times at which
    it is valid. -/
def Fresh (log : ManagerLog ι) (key : String) (token : CachedToken) : Prop :=
  ∃ later ev earlier, log = later ++ ev :: earlier ∧ ev.call = .remember key token ∧
    ∀ time ∈ shownTimes later, token.isValidAt time

/-- The caller has been cancelled. -/
def WasCancelled (log : ManagerLog ι) (i : ι) : Prop := ∃ ev ∈ log, ev.task = i ∧ ev.isCancellation

/-- The call waits for the identity provider. -/
def Exchanges (p : Procedure CredentialCalls (Outcome String)) : Prop :=
  ∃ credentials resume, p = .call (.login credentials) resume

variable {log log' : ManagerLog ι} {ev : Event ι CredentialCalls ManagerState} {key : String}
  {token : CachedToken} {time : Instant} {i : ι} {s t : ManagerState}

theorem mem_shownTimes_cons : time ∈ shownTimes (ev :: log) ↔ ev.reading? = some time ∨
    time ∈ shownTimes log := by
  simp only [shownTimes, List.mem_filterMap, List.mem_cons, exists_eq_or_imp]

/-- A token is fresh when it has just been cached, or was fresh and is valid at the time that has
    just been shown. -/
theorem fresh_cons : Fresh (ev :: log) key token ↔ ev.call = .remember key token ∨
    Fresh log key token ∧ ∀ time, ev.reading? = some time → token.isValidAt time := by
  constructor
  · rintro ⟨later, x, earlier, hlog, hcall, hvalid⟩
    cases later with
    | nil =>
        obtain ⟨rfl, rfl⟩ := List.cons.inj hlog
        exact .inl hcall
    | cons newest later =>
        obtain ⟨rfl, rfl⟩ := List.cons.inj hlog
        refine .inr ⟨⟨later, x, earlier, rfl, hcall, fun time h => ?_⟩, fun time h => ?_⟩
        · exact hvalid time (mem_shownTimes_cons.2 (.inr h))
        · exact hvalid time (mem_shownTimes_cons.2 (.inl h))
  · rintro (hcall | ⟨⟨later, x, earlier, rfl, hcall, hvalid⟩, hnew⟩)
    · exact ⟨[], ev, log, rfl, hcall, nofun⟩
    · refine ⟨ev :: later, x, earlier, rfl, hcall, fun time h => ?_⟩
      rcases mem_shownTimes_cons.1 h with h | h
      · exact hnew time h
      · exact hvalid time h

theorem Fresh.of_cons (h : Fresh (ev :: log) key token) (hev : ev.call ≠ .remember key token) :
    Fresh log key token :=
  ((fresh_cons.1 h).resolve_left hev).1

/-- The end of a call stands where its caller has come to last. -/
theorem meanwhile_cons {fin : Event ι CredentialCalls ManagerState} {past : ManagerLog ι}
    (hfin : fin.task = i) (h : Meanwhile i (fin :: past) (ev :: log)) :
    ev.task = i ∧ fin = ev ∧ past = log ∨ ev.task ≠ i ∧ Meanwhile i (fin :: past) log := by
  obtain ⟨new, hlog, hnew⟩ := h
  cases new with
  | nil =>
      obtain ⟨rfl, rfl⟩ := List.cons.inj hlog
      exact .inl ⟨hfin, rfl, rfl⟩
  | cons newest new =>
      obtain ⟨rfl, rfl⟩ := List.cons.inj hlog
      obtain ⟨hev, hnew⟩ := List.forall_mem_cons.1 hnew
      exact .inr ⟨hev, new, rfl, hnew⟩

end

/-! ## Positions -/

/-- Where a caller stands that holds the lock. -/
inductive Position where
  /-- It has just got the lock. -/
  | arrived
  /-- It looks into the cache, at a time of the clock. -/
  | looking (time : Instant)
  /-- It has found nothing and fetches credentials. -/
  | choosing
  /-- It checks for a cancellation. -/
  | checking (credentials : ClientCredentials)
  /-- It waits for the identity provider. -/
  | exchanging (credentials : ClientCredentials)
  /-- It has a grant and reads the clock. -/
  | accepting (grant : TokenGrant)
  /-- It caches a token. -/
  | caching (token : CachedToken)
  /-- It gives the lock back. -/
  | leaving (result : Outcome String)

namespace Position

/-- An exchange and what becomes of its reply. -/
def exchange (key : String) (credentials : ClientCredentials) :
    Procedure CredentialCalls (Outcome String) :=
  .call (.login credentials) fun
    | .cancelled _ => .done (.error .cancelled)
    | .reply (.error f) => .done (.error f)
    | .reply (.ok grant) => TokenManager.accept key grant

/-- What is left to do before the lock is given back. -/
def procedure (key : String) : Position → Procedure CredentialCalls (Outcome String)
  | .arrived => TokenManager.locked true key
  | .looking time =>
      .call (.cached key) fun cached =>
        match (cached.filter (·.isValidAt time)).map (·.grant.accessToken) with
        | some token => .done (.ok token)
        | none => TokenManager.login key
  | .choosing => TokenManager.login key
  | .checking credentials =>
      .call .isCancelled fun
        | true => .done (.error .cancelled)
        | false => exchange key credentials
  | .exchanging credentials => exchange key credentials
  | .accepting grant =>
      .call .now fun now =>
        .call (.remember key ⟨grant, now⟩) fun _ => .done (.ok grant.accessToken)
  | .caching token => .call (.remember key token) fun _ => .done (.ok token.grant.accessToken)
  | .leaving result => .done result

section

variable {ι : Type}

/-- No token of the key is valid any more: none that is cached, and none that has been cached
    before and was valid all the time since. -/
structure Cold (key : String) (log : ManagerLog ι) (cache : TokenCache) : Prop where
  invalid : ∀ time, CanBeNow log time → cache.valid? key time = none
  stale : ∀ token, ¬Fresh log key token

/-- What the caller knows at a position. -/
def Knows (i : ι) (key : String) (log : ManagerLog ι) (cache : TokenCache) : Position → Prop
  | .arrived => True
  | .looking time => time ∈ shownTimes log ∧ ∀ token, Fresh log key token → token.isValidAt time
  | .choosing | .checking _ | .exchanging _ => Cold key log cache
  | .accepting grant =>
      Cold key log cache ∧ ∃ ev ∈ log, ev.task = i ∧ ev.exchanged? = some grant
  | .caching token =>
      Cold key log cache ∧ ∃ ev ∈ log, ev.task = i ∧ ev.exchanged? = some token.grant
  | .leaving result => ∀ token, Fresh log key token → result = .ok token.grant.accessToken

variable {i : ι} {key : String} {log log' : ManagerLog ι} {s t : ManagerState}
  {cache : TokenCache} {pos : Position} {ev : Event ι CredentialCalls ManagerState}

theorem Cold.cons (h : Cold key log cache) (hev : ∀ token, ev.call ≠ .remember key token) :
    Cold key (ev :: log) cache where
  invalid time htime := h.invalid time fun shown hs =>
    htime shown (mem_shownTimes_cons.2 (.inr hs))
  stale token hf := h.stale token (hf.of_cons (hev token))

/-- What a caller knows lasts while no token of its key is cached. -/
theorem Knows.mono (h : Knows i key log cache pos) (hev : ∀ token, ev.call ≠ .remember key token) :
    Knows i key (ev :: log) cache pos := by
  cases pos with
  | arrived => trivial
  | looking time =>
      refine ⟨mem_shownTimes_cons.2 (.inr h.1), fun token hf => ?_⟩
      exact h.2 token (hf.of_cons (hev token))
  | choosing | checking _ | exchanging _ => exact Cold.cons h hev
  | accepting _ | caching _ =>
      obtain ⟨hcold, x, hx, hgrant⟩ := h
      exact ⟨hcold.cons hev, x, List.mem_cons_of_mem _ hx, hgrant⟩
  | leaving _ => exact fun token hf => h token (hf.of_cons (hev token))

/-- Every call of a position is a question, but for the one that caches a token. -/
theorem asks {c : CredentialCall} {resume : CredentialCalls.Reply c → _}
    (h : pos.procedure key = .call c resume) :
    c.IsQuestion ∨ ∃ token, pos = .caching token ∧ c = .remember key token := by
  cases pos with
  | arrived | looking _ | choosing | checking _ | exchanging _ | accepting _ =>
      cases h
      exact .inl trivial
  | caching token => cases h; exact .inr ⟨token, rfl, rfl⟩
  | leaving _ => cases h

/-- A caller that has looked in vain knows that it will find no valid token later either. -/
theorem cold_of_looking {time : Instant} (hshown : time ∈ shownTimes log)
    (hvalid : ∀ token, Fresh log key token → token.isValidAt time)
    (hcached : ∀ token, Fresh log key token → cache.find? key = some token)
    (hnone : cache.valid? key time = none) : Cold key log cache where
  invalid later hlater := by
    rw [TokenCache.valid?, Option.filter_eq_none_iff] at hnone ⊢
    exact fun token hfind hnow =>
      hnone token hfind (token.isValidAt_of_le (hlater time hshown) hnow)
  stale token hf := by
    rw [TokenCache.valid?, hcached token hf, Option.filter_some, if_pos (hvalid token hf)] at hnone
    cases hnone

/-- A caller that has looked with success gives out the token that is fresh, if any is. -/
theorem knows_of_found {time : Instant} {token : CachedToken}
    (hcached : ∀ token, Fresh log key token → cache.find? key = some token)
    (hfound : cache.valid? key time = some token) :
    (Position.leaving (.ok token.grant.accessToken)).Knows i key log cache := by
  intro token' hf
  obtain ⟨hfind, -⟩ := Option.filter_eq_some_iff.1 hfound
  obtain rfl := Option.some.inj ((hcached token' hf).symm.trans hfind)
  rfl

/-- A caller that knows of no valid token may leave with any result. -/
theorem Cold.leaving (h : Cold key log cache) (result : Outcome String) :
    (Position.leaving result).Knows i key log cache :=
  fun token hf => absurd hf (h.stale token)

/-- After its call is answered, a caller stands at a position again and knows what it has to know
    there. -/
theorem step {fallback : Option ClientCredentials} {c : CredentialCall}
    {resume : CredentialCalls.Reply c → Procedure CredentialCalls (Outcome String)}
    {reply : CredentialCalls.Reply c} (hcall : pos.procedure key = .call c resume)
    (hknows : pos.Knows i key log s.cache)
    (hcached : ∀ token, Fresh log key token → s.cache.find? key = some token)
    (ha : s.Answers fallback c reply t) :
    ∃ next : Position, resume reply = next.procedure key ∧
      next.Knows i key (⟨⟨c, reply, s, t⟩, i⟩ :: log) t.cache := by
  cases pos with
  | arrived =>
      cases hcall
      refine ⟨.looking reply, rfl, ?_, fun token hf => ?_⟩
      · exact mem_shownTimes_cons.2 (.inl rfl)
      · rcases fresh_cons.1 hf with hcall | ⟨-, hvalid⟩
        · cases hcall
        · exact hvalid reply rfl
  | looking time =>
      cases hcall
      obtain ⟨rfl, rfl⟩ := ha
      have hlook : ((t.cache.find? key).filter (·.isValidAt time)).map (·.grant.accessToken) =
          (t.cache.valid? key time).map (·.grant.accessToken) := rfl
      cases hfound : t.cache.valid? key time with
      | none =>
          refine ⟨.choosing, ?_, ?_⟩
          · dsimp only
            rw [hlook, hfound]
            rfl
          · exact (cold_of_looking hknows.1 hknows.2 hcached hfound).cons nofun
      | some token =>
          refine ⟨.leaving (.ok token.grant.accessToken), ?_, ?_⟩
          · dsimp only
            rw [hlook, hfound]
            rfl
          · exact (knows_of_found hcached hfound).mono nofun
  | choosing =>
      cases hcall
      obtain ⟨-, rfl⟩ := ha
      cases reply with
      | none =>
          refine ⟨.leaving (.error _), rfl, ?_⟩
          exact (Cold.leaving hknows _).mono nofun
      | some credentials =>
          exact ⟨.checking credentials, rfl, Cold.cons hknows nofun⟩
  | checking credentials =>
      cases hcall
      obtain rfl := ha
      cases reply with
      | true => exact ⟨.leaving (.error .cancelled), rfl, (Cold.leaving hknows _).mono nofun⟩
      | false =>
          exact ⟨.exchanging credentials, rfl, Cold.cons hknows nofun⟩
  | exchanging credentials =>
      cases hcall
      obtain rfl := ha
      rcases reply with (f | grant) | late
      · exact ⟨.leaving (.error f), rfl, (Cold.leaving hknows _).mono nofun⟩
      · by_cases hempty : grant.accessToken = ""
        · refine ⟨.leaving (.error (.authentication
            "identity provider returned an empty access token")), if_pos hempty, ?_⟩
          exact (Cold.leaving hknows _).mono nofun
        · exact ⟨.accepting grant, if_neg hempty, Cold.cons hknows nofun, _, List.mem_cons_self,
            rfl, if_neg hempty⟩
      · exact ⟨.leaving (.error .cancelled), rfl, (Cold.leaving hknows _).mono nofun⟩
  | accepting grant =>
      cases hcall
      obtain rfl := ha
      obtain ⟨hcold, x, hx, hgrant⟩ := hknows
      exact ⟨.caching ⟨grant, reply⟩, rfl, hcold.cons nofun, x, List.mem_cons_of_mem _ hx, hgrant⟩
  | caching token =>
      cases hcall
      refine ⟨.leaving (.ok token.grant.accessToken), rfl, fun token' hf => ?_⟩
      rcases fresh_cons.1 hf with hcall | ⟨hold, -⟩
      · cases hcall
        rfl
      · exact absurd hold (hknows.1.stale token')
  | leaving result => cases hcall

end

end Position

/-! ## One caller inside -/

section

variable {ι : Type} {tenants : ι → String} {now : ι → Procedure CredentialCalls (Outcome String)}
  {log : ManagerLog ι} {s t : ManagerState} {i j : ι} {key : String} {token : CachedToken}
  {result : Outcome String}
  {ev : Event ι CredentialCalls ManagerState} {fallback : Option ClientCredentials}

/-- The lock is given back after what is done while it is held. -/
def release (p : Procedure CredentialCalls (Outcome String)) :
    Procedure CredentialCalls (Outcome String) :=
  p.bind fun result => .call .unlock fun _ => .done result

/-- A finished call has returned the token that was fresh then, if any was, unless it ended by
    being cancelled. -/
def Settled (log : ManagerLog ι) (i : ι) (key : String) (result : Outcome String) : Prop :=
  ∀ fin past token, fin.task = i → Meanwhile i (fin :: past) log →
    Fresh (fin :: past) key token → result = .ok token.grant.accessToken ∨ fin.isCancellation

/-- Only the holder of the lock stands between the calls of the lock, and knows what it has to know
    there. -/
structure OneInside (tenants : ι → String) (now : ι → Procedure CredentialCalls (Outcome String))
    (log : ManagerLog ι) (t : ManagerState) : Prop where
  isLocked : t.isLocked = (holder? log).isSome
  inside : ∀ i, holder? log = some i → ∃ pos : Position,
    now i = release (pos.procedure (tenantKey (tenants i))) ∧
      pos.Knows i (tenantKey (tenants i)) log t.cache
  outside : ∀ i, holder? log ≠ some i → now i = TokenManager.accessToken true (tenants i) ∨
    ∃ result, now i = .done result ∧ Settled log i (tenantKey (tenants i)) result
  cached : ∀ key token, Fresh log key token → t.cache.find? key = some token

theorem holder?_of_isQuestion (h : ev.call.IsQuestion) : holder? (ev :: log) = holder? log := by
  obtain ⟨⟨c, reply, s, t⟩, i⟩ := ev
  cases c with
  | now | isCancelled | cached _ | credentialsFor _ | login _ | readSecret _ => rfl
  | remember _ _ | assign _ _ | lock | unlock => exact h.elim

theorem Settled.other (h : Settled log i key result) (hev : ev.task ≠ i) :
    Settled (ev :: log) i key result := by
  intro fin past token hfin hmeanwhile
  rcases meanwhile_cons hfin hmeanwhile with ⟨htask, -, -⟩ | ⟨-, hold⟩
  · exact absurd htask hev
  · exact h fin past token hfin hold

theorem settled_now (hev : ev.task = i)
    (h : ∀ token, Fresh (ev :: log) key token →
      result = .ok token.grant.accessToken ∨ ev.isCancellation) :
    Settled (ev :: log) i key result := by
  intro fin past token hfin hmeanwhile hf
  rcases meanwhile_cons hfin hmeanwhile with ⟨-, rfl, rfl⟩ | ⟨hother, -⟩
  · exact h token hf
  · exact absurd hev hother

/-- A token that the holder caches is the only fresh one of its key. -/
theorem OneInside.cached_remember (h : OneInside tenants now log s)
    (hcold : Position.Cold key log s.cache) (hcall : ev.call = .remember key token) {key' token'}
    (hf : Fresh (ev :: log) key' token') : (s.cache.insert key token).find? key' = some token' := by
  rw [Table.find?_insert]
  rcases fresh_cons.1 hf with hnew | ⟨hold, -⟩
  · obtain ⟨rfl, rfl⟩ := CredentialCall.remember.inj (hcall.symm.trans hnew)
    exact if_pos rfl
  · have hne : key' ≠ key := fun hkey => hcold.stale token' (hkey ▸ hold)
    rw [if_neg hne]
    exact h.cached key' token' hold

variable [DecidableEq ι]

/-- What everybody outside sees of another caller's answer: the history grows. -/
theorem OneInside.others (h : OneInside tenants now log t) {p : Procedure CredentialCalls _}
    (hev : ev.task = i) (hj : j ≠ i) (houtside : holder? log ≠ some j) :
    Function.update now i p j = TokenManager.accessToken true (tenants j) ∨
      ∃ result, Function.update now i p j = .done result ∧
        Settled (ev :: log) j (tenantKey (tenants j)) result := by
  rw [Function.update_of_ne hj]
  rcases h.outside j houtside with hstart | ⟨result, hdone, hsettled⟩
  · exact .inl hstart
  · exact .inr ⟨result, hdone, hsettled.other (hev ▸ hj.symm)⟩

/-- A caller gets the lock. -/
theorem OneInside.enter (h : OneInside tenants now log s) (hfree : s.isLocked = false)
    (ht : t = { s with isLocked := true }) :
    OneInside tenants
      (Function.update now i (release (TokenManager.locked true (tenantKey (tenants i)))))
      (⟨⟨.lock, .reply (), s, t⟩, i⟩ :: log) t := by
  subst ht
  have hnobody : holder? log = none := by
    rw [← Option.isSome_eq_false_iff.trans Option.isNone_iff_eq_none, ← h.isLocked]
    exact hfree
  refine ⟨rfl, fun j hj => ?_, fun j hj => ?_, fun key token hf => ?_⟩
  · obtain rfl : i = j := Option.some.inj hj
    exact ⟨.arrived, Function.update_self .., trivial⟩
  · have hne : j ≠ i := fun hji => hj (congrArg some hji.symm)
    exact h.others rfl hne (hnobody ▸ nofun)
  · exact h.cached key token (hf.of_cons nofun)

/-- A caller is cancelled while it waits for the lock. -/
theorem OneInside.giveUp (h : OneInside tenants now log t) (hi : holder? log ≠ some i)
    (late : Option Unit) :
    OneInside tenants (Function.update now i (.done (.error .cancelled)))
      (⟨⟨.lock, .cancelled late, t, t⟩, i⟩ :: log) t := by
  refine ⟨h.isLocked, fun j hj => ?_, fun j hj => ?_, fun key token hf => ?_⟩
  · have hne : j ≠ i := fun hji => hi (hji ▸ hj)
    obtain ⟨pos, hnow, hknows⟩ := h.inside j hj
    exact ⟨pos, (Function.update_of_ne hne ..).trans hnow, hknows.mono nofun⟩
  · by_cases hji : j = i
    · subst hji
      exact .inr ⟨_, Function.update_self .., settled_now rfl fun _ _ => .inr rfl⟩
    · exact h.others rfl hji hj
  · exact h.cached key token (hf.of_cons nofun)

/-- The holder gives the lock back. -/
theorem OneInside.leave (h : OneInside tenants now log s) (hi : holder? log = some i)
    (hknows : (Position.leaving result).Knows i (tenantKey (tenants i)) log s.cache)
    (ht : t = { s with isLocked := false }) :
    OneInside tenants (Function.update now i (.done result)) (⟨⟨.unlock, (), s, t⟩, i⟩ :: log)
      t := by
  subst ht
  refine ⟨rfl, fun j hj => (nomatch hj), fun j _ => ?_, fun key token hf => ?_⟩
  · by_cases hji : j = i
    · subst hji
      refine .inr ⟨_, Function.update_self .., settled_now rfl fun token hf => .inl ?_⟩
      exact hknows token (hf.of_cons nofun)
    · exact h.others rfl hji fun hj => hji (Option.some.inj (hj.symm.trans hi))
  · exact h.cached key token (hf.of_cons nofun)

/-- The holder of the lock gets an answer. -/
theorem OneInside.advance (h : OneInside tenants now log s) (hi : holder? log = some i)
    {pos : Position} {c : CredentialCall}
    {resume : CredentialCalls.Reply c → Procedure CredentialCalls (Outcome String)}
    {reply : CredentialCalls.Reply c}
    (hknows : pos.Knows i (tenantKey (tenants i)) log s.cache)
    (hcall : pos.procedure (tenantKey (tenants i)) = .call c resume)
    (ha : s.Answers fallback c reply t) :
    OneInside tenants (Function.update now i (release (resume reply)))
      (⟨⟨c, reply, s, t⟩, i⟩ :: log) t := by
  obtain ⟨next, hnext, hnextKnows⟩ := Position.step hcall hknows (h.cached _) ha
  obtain ⟨hholder, hlock, hcached⟩ : holder? (⟨⟨c, reply, s, t⟩, i⟩ :: log) = holder? log ∧
      t.isLocked = s.isLocked ∧ ∀ key token, Fresh (⟨⟨c, reply, s, t⟩, i⟩ :: log) key token →
        t.cache.find? key = some token := by
    rcases Position.asks hcall with hquestion | ⟨token, rfl, rfl⟩
    · obtain rfl := ha.of_isQuestion hquestion
      refine ⟨holder?_of_isQuestion hquestion, rfl, fun key token hf => ?_⟩
      refine h.cached key token (hf.of_cons ?_)
      rintro rfl
      exact hquestion.elim
    · obtain rfl := ha
      exact ⟨rfl, rfl, fun key' token' hf => h.cached_remember hknows.1 rfl hf⟩
  refine ⟨by rw [hholder, hlock, h.isLocked], fun j hj => ?_, fun j hj => ?_, hcached⟩
  · obtain rfl := Option.some.inj (hi.symm.trans (hholder.symm.trans hj))
    exact ⟨next, (Function.update_self ..).trans (congrArg release hnext), hnextKnows⟩
  · rw [hholder] at hj
    exact h.others rfl (fun hji => hj (hji ▸ hi)) hj

/-- Every answer keeps the callers apart. -/
theorem OneInside.answered (h : OneInside tenants now log s) {c : CredentialCall}
    {resume : CredentialCalls.Reply c → Procedure CredentialCalls (Outcome String)}
    {reply : CredentialCalls.Reply c} (hcall : now i = .call c resume)
    (ha : s.Answers fallback c reply t) :
    OneInside tenants (Function.update now i (resume reply)) (⟨⟨c, reply, s, t⟩, i⟩ :: log) t := by
  by_cases hi : holder? log = some i
  · obtain ⟨pos, hnow, hknows⟩ := h.inside i hi
    rw [hcall] at hnow
    cases hp : pos.procedure (tenantKey (tenants i)) with
    | done result =>
        rw [hp] at hnow
        cases hnow
        cases pos with
        | leaving result' =>
            cases hp
            exact h.leave hi hknows ha
        | arrived | looking _ | choosing | checking _ | exchanging _ | accepting _ | caching _ =>
            cases hp
    | call c' resume' =>
        rw [hp] at hnow
        cases hnow
        exact h.advance hi hknows hp ha
  · rcases h.outside i hi with hstart | ⟨result, hdone, -⟩
    · rw [hcall] at hstart
      cases hstart
      rcases reply with _ | late
      · exact h.enter ha.1 ha.2
      · obtain rfl := ha
        exact h.giveUp hi late
    · rw [hcall] at hdone
      cases hdone

/-- Every interleaving of callers that look into the cache keeps them apart. -/
theorem oneInside_of_interleaved {start : ManagerState} (hstart : start.isLocked = false)
    (h : Interleaved (managerSurroundings fallback)
      (fun i => TokenManager.accessToken true (tenants i)) start now t log) :
    OneInside tenants now log t := by
  induction h with
  | start =>
      refine ⟨hstart, fun i hi => (nomatch hi), fun i _ => .inl rfl, ?_⟩
      rintro key token ⟨later, ev, earlier, hlog, -⟩
      exact absurd hlog.symm (List.append_ne_nil_of_right_ne_nil _ (List.cons_ne_nil _ _))
  | answered _ hcall ha ih => exact ih.answered hcall ha
  | drifted _ hd ih =>
      obtain ⟨hcache, hlock, -⟩ := hd
      exact ⟨hlock.trans ih.isLocked, hcache ▸ ih.inside, ih.outside, hcache ▸ ih.cached⟩

end

/-! ## One call by itself -/

section

variable {key : String} {a : Answer CredentialCalls ManagerState}
  {rest answers : List (Answer CredentialCalls ManagerState)} {result r : Outcome String}
  {e : Surroundings CredentialCalls ManagerState} {s v : ManagerState}

/-- What the answers to a finished call say about its result and about the cache. -/
structure CallRecord (key : String) (answers : List (Answer CredentialCalls ManagerState))
    (result : Outcome String) : Prop where
  cancelled : (∃ a ∈ answers, a.isCancellation) → result = .error .cancelled
  /-- A call that fails has not touched the cache. -/
  failed : ∀ f, result = .error f → ∀ a ∈ answers, a.after.cache = a.before.cache
  /-- A call whose exchange has succeeded has cached the token and returns it. -/
  exchanged : ∀ a ∈ answers, ∀ grant, a.exchanged? = some grant →
    result = .ok grant.accessToken ∧
      ∃ received, ∃ b ∈ answers, b.call = .remember key ⟨grant, received⟩

/-- Nothing has happened yet. -/
theorem CallRecord.nil : CallRecord key [] result where
  cancelled := fun ⟨_, ha, _⟩ => absurd ha List.not_mem_nil
  failed _ _ _ ha := absurd ha List.not_mem_nil
  exchanged _ ha := absurd ha List.not_mem_nil

/-- An answer that is no success of an exchange comes before the rest of a call. -/
theorem CallRecord.cons (h : CallRecord key rest result)
    (hcancelled : a.isCancellation → result = .error .cancelled)
    (hcache : a.after.cache = a.before.cache) (hexchanged : a.exchanged? = none) :
    CallRecord key (a :: rest) result where
  cancelled := by
    rintro ⟨b, hb, hcancels⟩
    rcases List.mem_cons.1 hb with rfl | hb
    · exact hcancelled hcancels
    · exact h.cancelled ⟨b, hb, hcancels⟩
  failed f hf := List.forall_mem_cons.2 ⟨hcache, h.failed f hf⟩
  exchanged b hb grant hgrant := by
    rcases List.mem_cons.1 hb with rfl | hb
    · exact nomatch hexchanged.symm.trans hgrant
    · obtain ⟨hresult, received, x, hx, hcall⟩ := h.exchanged b hb grant hgrant
      exact ⟨hresult, received, x, List.mem_cons_of_mem _ hx, hcall⟩

variable {fallback : Option ClientCredentials} {R : ManagerState → ManagerState → Prop}

/-- A question that neither tells of a cancellation nor ends an exchange with success comes before
    the rest of a call. -/
theorem CallRecord.asked (h : CallRecord key rest result)
    (ha : ((managerSurroundings fallback).relying R).Answers a.call a.before a.reply a.after)
    (hcall : a.call.IsQuestion) (hcancelled : a.isCancellation → result = .error .cancelled)
    (hexchanged : a.exchanged? = none) : CallRecord key (a :: rest) result :=
  h.cons hcancelled (congrArg _ (ManagerState.Answers.of_isQuestion ha hcall)) hexchanged

theorem record_leaving
    (h : Trace ((managerSurroundings fallback).relying R) (release (.done r)) s answers result v) :
    CallRecord key answers result ∧ result = r := by
  obtain ⟨_, s₁, s₂, rest, ha, -, hr, rfl⟩ := trace_call.1 h
  obtain ⟨rfl, rfl, -⟩ := trace_done.1 hr
  obtain rfl : s₁ = _ := ha
  exact ⟨CallRecord.nil.cons nofun rfl rfl, rfl⟩

/-- A grant that has a token is cached, and its token is given out. -/
theorem granted_of_trace {grant : TokenGrant} (hne : grant.accessToken ≠ "")
    (h : Trace ((managerSurroundings fallback).relying R)
      (release (TokenManager.accept key grant)) s answers result v) :
    result = .ok grant.accessToken ∧ ∃ received s₁ s₂ s₃ s₄ s₅, answers =
      [⟨.now, received, s, s₁⟩, ⟨.remember key ⟨grant, received⟩, (), s₂, s₃⟩,
        ⟨.unlock, (), s₄, s₅⟩] := by
  rw [TokenManager.accept, if_neg hne] at h
  obtain ⟨received, s₁, s₂, rest, -, -, hremember, rfl⟩ := trace_call.1 h
  obtain ⟨⟨⟩, s₃, s₄, rest', -, -, hunlock, rfl⟩ := trace_call.1 hremember
  obtain ⟨⟨⟩, s₅, s₆, rest'', -, -, hdone, rfl⟩ := trace_call.1 hunlock
  obtain ⟨rfl, rfl, -⟩ := trace_done.1 hdone
  exact ⟨rfl, received, s₁, s₂, s₃, s₄, s₅, rfl⟩

/-- The exchange and what becomes of it. -/
theorem record_exchange {credentials : ClientCredentials}
    (h : Trace ((managerSurroundings fallback).relying R)
      (release (Position.exchange key credentials)) s answers result v) :
    CallRecord key answers result := by
  obtain ⟨reply, s₁, s₂, rest, ha, -, hr, rfl⟩ := trace_call.1 h
  rcases reply with (f | grant) | late
  · exact (record_leaving hr).1.asked ha trivial nofun rfl
  · by_cases hempty : grant.accessToken = ""
    · have haccept : TokenManager.accept key grant = .done (.error (.authentication
        "identity provider returned an empty access token")) := if_pos hempty
      have hr : Trace _ (release (TokenManager.accept key grant)) _ _ _ _ := hr
      rw [haccept] at hr
      exact (record_leaving hr).1.asked ha trivial nofun (if_pos hempty)
    · obtain ⟨rfl, received, u₁, u₂, u₃, u₄, u₅, hrest⟩ := granted_of_trace hempty hr
      have hcancels : ∀ a ∈ rest, ¬a.isCancellation := List.any_eq_false.1 (hrest ▸ rfl)
      have hnone : ∀ a ∈ rest, a.exchanged? = none :=
        List.filterMap_eq_nil_iff.1 (hrest ▸ rfl)
      refine ⟨?_, nofun, fun a ha grant' hgrant => ?_⟩
      · rintro ⟨a, ha, hcancel⟩
        rcases List.mem_cons.1 ha with rfl | ha
        · cases hcancel
        · exact absurd hcancel (hcancels a ha)
      · rcases List.mem_cons.1 ha with rfl | ha
        · obtain rfl : grant = grant' := Option.some.inj ((if_neg hempty).symm.trans hgrant)
          subst hrest
          exact ⟨rfl, received, _, .tail _ (.tail _ (.head _)), rfl⟩
        · exact nomatch (hnone a ha).symm.trans hgrant
  · obtain ⟨hrecord, rfl⟩ : CallRecord key _ _ ∧ _ := record_leaving hr
    exact hrecord.asked ha trivial (fun _ => rfl) rfl

theorem record_login
    (h : Trace ((managerSurroundings fallback).relying R) (release (TokenManager.login key))
      s answers result v) : CallRecord key answers result := by
  obtain ⟨credentials, s₁, s₂, rest, ha, -, hr, rfl⟩ := trace_call.1 h
  cases credentials with
  | none => exact (record_leaving hr).1.asked ha trivial nofun rfl
  | some credentials =>
      obtain ⟨cancelled, s₃, s₄, rest', ha', -, hr', rfl⟩ := trace_call.1 hr
      refine CallRecord.asked ?_ ha trivial nofun rfl
      cases cancelled with
      | true =>
          obtain ⟨hrecord, rfl⟩ : CallRecord key _ _ ∧ _ := record_leaving hr'
          exact hrecord.asked ha' trivial (fun _ => rfl) rfl
      | false => exact (record_exchange hr').asked ha' trivial nofun rfl

theorem record_locked
    (h : Trace ((managerSurroundings fallback).relying R) (release (TokenManager.locked true key))
      s answers result v) : CallRecord key answers result := by
  obtain ⟨time, s₁, s₂, rest, ha, -, hr, rfl⟩ := trace_call.1 h
  obtain ⟨cached, s₃, s₄, rest', ha', -, hr', rfl⟩ := trace_call.1 hr
  refine CallRecord.asked (CallRecord.asked ?_ ha' trivial nofun rfl) ha trivial nofun rfl
  cases hfound : (cached.filter (·.isValidAt time)).map (·.grant.accessToken) with
  | none =>
      dsimp only [Procedure.bind_done] at hr'
      rw [hfound] at hr'
      exact record_login hr'
  | some token =>
      dsimp only [Procedure.bind_done] at hr'
      rw [hfound] at hr'
      exact (record_leaving hr').1

/-- What a call that looks into the cache has done when it is finished. -/
theorem record_accessToken {tenant : String}
    (h : Trace ((managerSurroundings fallback).relying R) (TokenManager.accessToken true tenant)
      s answers result v) : CallRecord (tenantKey tenant) answers result := by
  obtain ⟨reply, s₁, s₂, rest, ha, -, hr, rfl⟩ := trace_call.1 h
  rcases reply with _ | late
  · obtain ⟨-, rfl⟩ := ha
    exact (record_locked hr).cons nofun rfl rfl
  · obtain rfl := ha
    obtain ⟨rfl, rfl, -⟩ := trace_done.1 hr
    exact CallRecord.nil.cons (fun _ => rfl) rfl rfl

end

/-! ## Serialized logins -/

section

variable {ι : Type} {tenants : ι → String} {now : ι → Procedure CredentialCalls (Outcome String)}
  {log : ManagerLog ι} {t : ManagerState} {i : ι} {result : Outcome String}

/-- Whoever waits for the identity provider holds the lock and knows of no valid token. -/
theorem OneInside.of_exchanges (h : OneInside tenants now log t) (hi : Exchanges (now i)) :
    holder? log = some i ∧ Position.Cold (tenantKey (tenants i)) log t.cache := by
  obtain ⟨credentials, resume, hcall⟩ := hi
  by_cases hholder : holder? log = some i
  · obtain ⟨pos, hnow, hknows⟩ := h.inside i hholder
    rw [hcall] at hnow
    cases pos with
    | exchanging _ => exact ⟨hholder, hknows⟩
    | arrived | looking _ | choosing | checking _ | accepting _ | caching _ | leaving _ =>
        cases hnow
  · rcases h.outside i hholder with hstart | ⟨result, hdone, -⟩
    · exact nomatch hcall.symm.trans hstart
    · exact nomatch hcall.symm.trans hdone

/-- Whoever caches a token has got it by an exchange of its own. -/
theorem OneInside.of_remember (h : OneInside tenants now log t) {key : String}
    {token : CachedToken} {resume : Unit → _} (hcall : now i = .call (.remember key token) resume) :
    key = tenantKey (tenants i) ∧ ∃ ev ∈ log, ev.task = i ∧ ev.exchanged? = some token.grant := by
  by_cases hholder : holder? log = some i
  · obtain ⟨pos, hnow, hknows⟩ := h.inside i hholder
    rw [hcall] at hnow
    cases pos with
    | caching _ =>
        cases hnow
        exact ⟨rfl, hknows.2⟩
    | arrived | looking _ | choosing | checking _ | exchanging _ | accepting _ | leaving _ =>
        cases hnow
  · rcases h.outside i hholder with hstart | ⟨result, hdone, -⟩
    · exact nomatch hcall.symm.trans hstart
    · exact nomatch hcall.symm.trans hdone

variable [DecidableEq ι]

/-- What holds of calls that look into the cache, at every point of what they do together. -/
structure SerializedLogins (tenants : ι → String)
    (now : ι → Procedure CredentialCalls (Outcome String)) (t : ManagerState)
    (log : ManagerLog ι) : Prop where
  /-- At most one exchange is in flight. -/
  one : ∀ i j, Exchanges (now i) → Exchanges (now j) → i = j
  /-- While an exchange for a key is in flight, no cached token of the key is valid. -/
  needed : ∀ i time, Exchanges (now i) → CanBeNow log time →
    t.cache.valid? (tenantKey (tenants i)) time = none
  /-- A token is cached by the call whose exchange has brought it, for the key of the call. -/
  origin : ∀ later ev earlier key token, log = later ++ ev :: earlier →
    ev.call = .remember key token → key = tenantKey (tenants ev.task) ∧
      ∃ login ∈ earlier, login.task = ev.task ∧ login.exchanged? = some token.grant
  /-- A call whose exchange has succeeded caches the token and returns it. -/
  granted : ∀ i result ev grant, now i = .done result → ev ∈ log → ev.task = i →
    ev.exchanged? = some grant → result = .ok grant.accessToken ∧
      ∃ received, ∃ x ∈ log, x.task = i ∧
        x.call = .remember (tenantKey (tenants i)) ⟨grant, received⟩
  /-- While a token that has been cached is valid, it stays the cached one. -/
  kept : ∀ key token, Fresh log key token → t.cache.find? key = some token
  /-- In that time no exchange for its key is made. -/
  spared : ∀ past i credentials token, Made now log past i (.login credentials) →
    ¬Fresh past (tenantKey (tenants i)) token
  /-- A call for its key that finishes in that time without being cancelled returns it. -/
  reused : ∀ i result fin past token, now i = .done result → ¬WasCancelled log i →
    fin.task = i → Meanwhile i (fin :: past) log →
    Fresh (fin :: past) (tenantKey (tenants i)) token → result = .ok token.grant.accessToken
  /-- The lock is held by the one call that has got it and not given it back. -/
  isLocked : t.isLocked = (holder? log).isSome
  /-- A finished call does not hold the lock. -/
  freed : ∀ i result, now i = .done result → holder? log ≠ some i
  /-- A call that has been cancelled fails. -/
  cancelled : ∀ i result, now i = .done result → WasCancelled log i → result = .error .cancelled
  /-- A call that fails has left the cache as it was. -/
  untouched : ∀ i f, now i = .done (.error f) →
    ∀ ev ∈ log, ev.task = i → ev.after.cache = ev.before.cache

/-- However many callers of one token manager look into the cache, for whatever tenants, their
    logins are serialized and never redundant. -/
theorem serialized_logins {ι : Type} [DecidableEq ι] (tenants : ι → String)
    (fallback : Option ClientCredentials) {start : ManagerState} (hstart : start.isLocked = false)
    {now : ι → Procedure CredentialCalls (Outcome String)} {t : ManagerState} {log : ManagerLog ι}
    (h : Interleaved (managerSurroundings fallback)
      (fun i => TokenManager.accessToken true (tenants i)) start now t log) :
    SerializedLogins tenants now t log := by
  have hinside : OneInside tenants now log t := oneInside_of_interleaved hstart h
  have houtside : ∀ i result, now i = .done result → holder? log ≠ some i := by
    intro i result hdone hholder
    obtain ⟨pos, hnow, -⟩ := hinside.inside i hholder
    rw [hdone] at hnow
    cases pos <;> cases hnow
  have hrecord : ∀ i result, now i = .done result →
      CallRecord (tenantKey (tenants i)) (ownAnswers i log) result := by
    intro i result hdone
    obtain ⟨u, v, htrace⟩ := h.trace_of_done (fun _ => trivial) (fun _ _ _ _ _ => trivial)
      (fun _ _ _ _ _ => trivial) (fun _ _ _ => trivial) hdone
    exact record_accessToken (R := fun _ _ => True) htrace
  refine ⟨?_, ?_, ?_, ?_, hinside.cached, ?_, ?_, hinside.isLocked, houtside, ?_, ?_⟩
  · intro i j hi hj
    have hholder := (hinside.of_exchanges hi).1
    exact Option.some.inj (hholder.symm.trans (hinside.of_exchanges hj).1)
  · intro i time hi
    exact (hinside.of_exchanges hi).2.invalid time
  · intro later ev earlier key token hlog hcall
    obtain ⟨before, resume, hpast, hwaiting⟩ := h.waiting_of_event hlog
    obtain ⟨⟨c, reply, s, u⟩, i⟩ := ev
    cases hcall
    exact (oneInside_of_interleaved hstart hpast).of_remember hwaiting
  · intro i result ev grant hdone hev htask hgrant
    obtain ⟨hresult, received, a, ha, hcall⟩ := (hrecord i result hdone).exchanged ev.toAnswer
      (mem_ownAnswers.2 ⟨ev, hev, htask, rfl⟩) grant hgrant
    obtain ⟨x, hx, hxtask, rfl⟩ := mem_ownAnswers.1 ha
    exact ⟨hresult, received, x, hx, hxtask, hcall⟩
  · intro past i credentials token hmade
    obtain ⟨before, u, resume, hpast, hwaiting⟩ := h.waiting_of_made hmade
    have hthere := oneInside_of_interleaved hstart hpast
    exact (hthere.of_exchanges ⟨credentials, resume, hwaiting⟩).2.stale token
  · intro i result fin past token hdone hcancelled hfin hmeanwhile hfresh
    rcases hinside.outside i (houtside i result hdone) with hwaiting | ⟨result', hdone', hsettled⟩
    · exact nomatch hdone.symm.trans hwaiting
    · obtain rfl : result = result' := Procedure.done.inj (hdone.symm.trans hdone')
      refine (hsettled fin past token hfin hmeanwhile hfresh).resolve_right fun hcancels => ?_
      exact hcancelled ⟨fin, hmeanwhile.suffix.mem List.mem_cons_self, hfin, hcancels⟩
  · rintro i result hdone ⟨ev, hev, htask, hcancels⟩
    exact (hrecord i result hdone).cancelled
      ⟨ev.toAnswer, mem_ownAnswers.2 ⟨ev, hev, htask, rfl⟩, hcancels⟩
  · intro i f hdone ev hev htask
    exact (hrecord i _ hdone).failed f rfl ev.toAnswer (mem_ownAnswers.2 ⟨ev, hev, htask, rfl⟩)

end

namespace Scripted

/-- A desk whose identity provider refuses the first login. -/
def burstDesk : Desk :=
  { now := ⟨0, 0⟩
    fallback := some ⟨"client", "secret"⟩
    grants :=
      [.fail (.authentication "busy"), .reply ⟨"first", "Bearer", 300⟩,
        .reply ⟨"second", "Bearer", 300⟩] }

/-- Three callers for one tenant and one for another. -/
def burstTenants (i : Fin 4) : String := if i = 3 then "globex" else "acme"

/-- The callers take turns call by call. -/
def burstRun : Standing (Fin 4) CredentialCalls ManagerState Desk (Outcome String) :=
  Desk.service.play Desk.shared (List.replicate 32 [0, 1, 2, 3]).flatten
    ⟨fun i => TokenManager.accessToken true (burstTenants i), burstDesk, []⟩

/-- What a call has come to, if it is finished: a token or none. -/
def given? {α : Type} : Procedure CredentialCalls (Outcome α) → Option (Option α)
  | .done result => some result.toOption
  | .call _ _ => none

/-- Callers of a desk that take turns as scheduled are interleaved. -/
theorem Desk.interleaved_play {ι α : Type} [DecidableEq ι]
    (tasks : ι → Procedure CredentialCalls α) (d : Desk) (schedule : List ι) :
    Interleaved (managerSurroundings d.fallback) tasks d.shared
      (Desk.service.play Desk.shared schedule ⟨tasks, d, []⟩).tasks
      (Desk.service.play Desk.shared schedule ⟨tasks, d, []⟩).state.shared
      (Desk.service.play Desk.shared schedule ⟨tasks, d, []⟩).log := by
  refine Service.interleaved_play (P := fun x => x.fallback = d.fallback) ?_ schedule rfl .start
  intro c x hx hwaits
  rw [← hx]
  exact x.answers c hwaits

end Scripted

open Scripted in
/-- The first caller fails, the second logs in for the third as well, and the fourth for its own
    tenant. -/
theorem serialized_logins_story :
    SerializedLogins burstTenants burstRun.tasks burstRun.state.shared burstRun.log ∧
      (List.finRange 4).map (fun i => given? (burstRun.tasks i)) =
        [some none, some (some "first"), some (some "first"), some (some "second")] ∧
      burstRun.state.logins.length = 3 ∧ burstRun.state.isLocked = false := by
  refine ⟨?_, by decide +kernel, by decide +kernel, by decide +kernel⟩
  exact serialized_logins burstTenants burstDesk.fallback rfl
    (Desk.interleaved_play _ burstDesk (List.replicate 32 [0, 1, 2, 3]).flatten)

end CloudReconciler
