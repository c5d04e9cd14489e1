import CloudReconciler.Proofs.Trace
import CloudReconciler.Scripted.Backend
import Mathlib.Algebra.Group.Nat.Defs

/-! # Session renewal — what a session goes through, cycle after cycle

    Renewal carries two things from cycle to cycle: the session, and a
    count of failed logins that is cut off at its greatest value.  The
    delays after failed logins are computed on doubles.  Neither is seen
    over a run of any length: a cycle waits exactly as the lease of its
    session and the failed logins right before it say, asks for what the
    session allows, and leaves the session that was granted in it, or the
    one that it found.

    * `renewalSchedule`: the wait before a cycle, in whole seconds;
    * `Cycled`: everything that one cycle can do;
    * `RenewalRuns`: cycles in sequence, whatever the backend answers;
    * `KeepsSession`: what all cycles of a run keep to. -/

namespace CloudReconciler

open Procedure (Trace trace_done trace_call)

/-! ## The schedule -/

/-- The wait before a cycle: what the lease asks for, and after failed logins in a row no more than
    five seconds, doubled with every further failure up to a minute. -/
def renewalSchedule (lease : Duration) : Nat → Duration
  | 0 => renewalDelay lease
  | failed + 1 => min (renewalDelay lease) (min (.ofSeconds (5 * 2 ^ failed)) (.ofSeconds 60))

namespace Duration

theorem min_eq_left {a b : Duration} (h : a ≤ b) : min a b = a := if_pos h

theorem min_le_left (a b : Duration) : min a b ≤ a := by
  show (if a ≤ b then a else b) ≤ a
  by_cases h : a ≤ b
  · rw [if_pos h]
    exact Nat.le_refl _
  · rw [if_neg h]
    exact Nat.le_of_not_le h

theorem min_ofSeconds_of_le {a b : Nat} (h : b ≤ a) :
    min (ofSeconds a) (ofSeconds b) = ofSeconds b := by
  by_cases hab : ofSeconds a ≤ ofSeconds b
  · have hle : a * nanosPerSecond ≤ b * nanosPerSecond := hab
    have heq : a = b := Nat.le_antisymm (Nat.le_of_mul_le_mul_right hle (by decide)) h
    rw [min_eq_left hab, heq]
  · exact if_neg hab

end Duration

/-- From the fifth failed login in a row on, the minute is the shorter wait. -/
theorem min_doubled_of_le {k : Nat} (h : 4 ≤ k) :
    min (Duration.ofSeconds (5 * 2 ^ k)) (.ofSeconds 60) = .ofSeconds 60 := by
  have hpow : 2 ^ 4 ≤ 2 ^ k := Nat.pow_le_pow_right (by decide) h
  exact Duration.min_ofSeconds_of_le (by omega)

/-- The delays after failed logins, which are computed on doubles, are exact. -/
theorem failedLoginBackoff_delay? (k : Nat) :
    failedLoginBackoff.delay? (k + 1) = some (min (.ofSeconds (5 * 2 ^ k)) (.ofSeconds 60)) := by
  have hfew : ∀ j ≤ Backoff.mostSteps, failedLoginBackoff.delay? (j + 1) =
      some (min (.ofSeconds (5 * 2 ^ j)) (.ofSeconds 60)) := by
    decide +kernel
  by_cases hk : k ≤ Backoff.mostSteps
  · exact hfew k hk
  · have hmost : Backoff.mostSteps ≤ k := Nat.le_of_not_le hk
    have hsteps : min (k + 1 - 1) Backoff.mostSteps = Backoff.mostSteps := Nat.min_eq_right hmost
    have hlast := hfew Backoff.mostSteps (Nat.le_refl _)
    -- delays have stopped growing, and the bound was reached long before
    rw [Backoff.delay?, hsteps, min_doubled_of_le (Nat.le_trans (by decide) hmost)]
    rw [min_doubled_of_le (by decide)] at hlast
    exact hlast

/-- Failures beyond the greatest count make no difference to the schedule. -/
theorem renewalSchedule_min (lease : Duration) (k : Nat) :
    renewalSchedule lease (min k mostFailures) = renewalSchedule lease k := by
  by_cases hk : k ≤ mostFailures
  · rw [Nat.min_eq_left hk]
  · have hmost : mostFailures ≤ k := Nat.le_of_not_le hk
    have hbig : 5 ≤ mostFailures := by decide
    have hsame : ∀ j, 5 ≤ j →
        renewalSchedule lease j = min (renewalDelay lease) (.ofSeconds 60) := by
      intro j hj
      obtain ⟨i, rfl⟩ := Nat.exists_eq_add_of_le' hj
      show min (renewalDelay lease) (min (.ofSeconds (5 * 2 ^ (i + 4))) (.ofSeconds 60)) = _
      rw [min_doubled_of_le (Nat.le_add_left 4 i)]
    rw [Nat.min_eq_right hmost, hsame _ hbig, hsame _ (Nat.le_trans hbig hmost)]

/-- The wait of a renewal follows the schedule. -/
theorem Renewal.wait_eq (r : Renewal) :
    r.wait = renewalSchedule r.session.lease r.failures := by
  rw [wait]
  cases r.failures with
  | zero => exact if_pos rfl
  | succ k =>
      rw [failedLoginBackoff_delay?]
      exact if_neg (Nat.succ_ne_zero k)

/-- No failure makes the next cycle come later than the lease asks for. -/
theorem renewalSchedule_le (lease : Duration) (k : Nat) :
    renewalSchedule lease k ≤ renewalDelay lease := by
  cases k with
  | zero => exact Nat.le_refl _
  | succ k => exact Duration.min_le_left _ _

/-! ## Answers of the backend -/

/-- A call of the secret backend with its answer. -/
abbrev BackendAnswer (σ : Type) := Answer BackendCalls σ

namespace BackendAnswer

variable {σ : Type}

/-- The call, unless it only looks for a cancellation. -/
def request? (a : BackendAnswer σ) : Option BackendCall :=
  match a.call with
  | .isCancelled => none
  | call => some call

/-- The session that a renewal has granted. -/
def renewed? : BackendAnswer σ → Option Session
  | ⟨.renew _ _, .reply (.ok s), _, _⟩ => some s
  | _ => none

/-- The session that a renewal or a login has granted. -/
def granted? : BackendAnswer σ → Option Session
  | ⟨.renew _ _, .reply (.ok s), _, _⟩ => some s
  | ⟨.login _, .reply (.ok s), _, _⟩ => some s
  | _ => none

/-- A login has failed. -/
def refusesLogin : BackendAnswer σ → Bool
  | ⟨.login _, .reply (.error _), _, _⟩ => true
  | _ => false

/-- The wait ended by itself, there is no cancellation, or the backend has replied. -/
def completes : BackendAnswer σ → Bool
  | ⟨.sleep _, ended, _, _⟩ => ended
  | ⟨.isCancelled, cancelled, _, _⟩ => !cancelled
  | ⟨.login _, .reply _, _, _⟩ => true
  | ⟨.renew _ _, .reply _, _, _⟩ => true
  | ⟨.read _ _ _, .reply _, _, _⟩ => true
  | _ => false

end BackendAnswer

/-- A cycle of renewal: the session before and after it, and the calls that were answered in
    between.  A renewal that has ended leaves no session. -/
structure RenewalCycle (σ : Type) where
  before : Session
  answers : List (BackendAnswer σ)
  after : Option Session

namespace RenewalCycle

variable {σ : Type}

/-- The waits and requests of the cycle, oldest first. -/
def requests (i : RenewalCycle σ) : List BackendCall := i.answers.filterMap BackendAnswer.request?

/-- The session that the renewal has granted. -/
def renewed (i : RenewalCycle σ) : Option Session := i.answers.findSome? BackendAnswer.renewed?

/-- The session that was granted in the cycle. -/
def granted (i : RenewalCycle σ) : Option Session := i.answers.findSome? BackendAnswer.granted?

/-- The cycle ended in a failed login. -/
def loginFailed (i : RenewalCycle σ) : Bool := i.answers.any BackendAnswer.refusesLogin

/-- No wait was cut short, and every request was replied to. -/
def IsComplete (i : RenewalCycle σ) : Prop := ∀ a ∈ i.answers, a.completes = true

end RenewalCycle

/-- Cycles that ended in a failed login, counted from the newest back. -/
def failedLogins {σ : Type} (h : List (RenewalCycle σ)) : Nat :=
  (h.takeWhile RenewalCycle.loginFailed).length

/-! ## One cycle -/

/-- The renewal that the session allows, and the login unless that has granted a session. -/
def Session.upkeep (s : Session) (credentials : RoleCredentials) (renewed : Option Session) :
    List BackendCall :=
  (if s.renewable then [.renew s.clientToken s.lease] else []) ++
    if renewed.isSome then [] else [.login credentials]

/-- What a login after the renewal comes to. -/
inductive LoggedIn {σ : Type} (credentials : RoleCredentials) (r : Renewal) :
    List (BackendAnswer σ) → Option Renewal → Prop
  | stopped {τ} : (∃ a ∈ τ, a.completes = false) → LoggedIn credentials r τ none
  | granted {s x x₁ y y₁} : LoggedIn credentials r
      [⟨.isCancelled, false, x, x₁⟩, ⟨.login credentials, .reply (.ok s), y, y₁⟩]
      (some (r.accept s))
  | refused {f x x₁ y y₁} : LoggedIn credentials r
      [⟨.isCancelled, false, x, x₁⟩, ⟨.login credentials, .reply (.error f), y, y₁⟩]
      (some r.failed)

/-- What a cycle comes to, by the answers in it. -/
inductive Cycled {σ : Type} (credentials : RoleCredentials) (r : Renewal) (i : RenewalCycle σ) :
    Option Renewal → Prop
  | stopped : ¬ i.IsComplete → Cycled credentials r i none
  | granted {s} : i.requests = .sleep r.wait :: r.session.upkeep credentials i.renewed →
      i.granted = some s → i.loginFailed = false → Cycled credentials r i (some (r.accept s))
  | refused : i.requests = .sleep r.wait :: r.session.upkeep credentials i.renewed →
      i.granted = none → i.loginFailed = true → Cycled credentials r i (some r.failed)

section

variable {σ : Type} {e : Surroundings BackendCalls σ} {credentials : RoleCredentials}
  {r : Renewal} {x y : σ} {τ : List (BackendAnswer σ)} {next : Option Renewal}

theorem loggedIn_of_trace (h : Trace e (r.relogin credentials) x τ next y) :
    LoggedIn credentials r τ next := by
  obtain ⟨cancelled, x₁, x₂, rest, -, -, hr, rfl⟩ := trace_call.1 h
  cases cancelled with
  | true =>
      obtain ⟨rfl, rfl, rfl⟩ := trace_done.1 hr
      exact .stopped ⟨_, List.mem_cons_self .., rfl⟩
  | false =>
      obtain ⟨wake, x₃, x₄, rest, -, -, hr', rfl⟩ := trace_call.1 hr
      rcases wake with (f | s) | late
      · obtain ⟨rfl, rfl, rfl⟩ := trace_done.1 hr'
        exact .refused
      · obtain ⟨rfl, rfl, rfl⟩ := trace_done.1 hr'
        exact .granted
      · obtain ⟨rfl, rfl, rfl⟩ := trace_done.1 hr'
        exact .stopped ⟨_, List.mem_cons_of_mem _ (List.mem_cons_self ..), rfl⟩

/-- A cycle that comes to a login, after answers in which no session was granted. -/
theorem LoggedIn.cycled (h : LoggedIn credentials r τ next) {l : List (BackendAnswer σ)}
    {i : RenewalCycle σ} (hi : i.answers = l ++ τ)
    (hrequests : l.filterMap BackendAnswer.request? =
      .sleep r.wait :: if r.session.renewable then
        [.renew r.session.clientToken r.session.lease] else [])
    (hrenewed : l.findSome? BackendAnswer.renewed? = none)
    (hgranted : l.findSome? BackendAnswer.granted? = none)
    (hrefused : l.any BackendAnswer.refusesLogin = false) : Cycled credentials r i next := by
  have hupkeep : ∀ τ' : List (BackendAnswer σ), i.answers = l ++ τ' →
      τ'.filterMap BackendAnswer.request? = [.login credentials] →
      τ'.findSome? BackendAnswer.renewed? = none →
      i.requests = .sleep r.wait :: r.session.upkeep credentials i.renewed := by
    intro τ' hτ' hlogin hnone
    have hi' : i.renewed = none := by
      rw [RenewalCycle.renewed, hτ', List.findSome?_append, hrenewed, hnone]
      rfl
    rw [RenewalCycle.requests, hτ', List.filterMap_append, hrequests, hlogin, hi']
    rfl
  cases h with
  | stopped hstopped =>
      obtain ⟨a, ha, hcut⟩ := hstopped
      refine .stopped fun hcomplete => ?_
      have hend := hcomplete a (hi ▸ List.mem_append_right _ ha)
      rw [hcut] at hend
      exact Bool.noConfusion hend
  | @granted s =>
      refine .granted (hupkeep _ hi rfl rfl) ?_ ?_
      · rw [RenewalCycle.granted, hi, List.findSome?_append, hgranted]
        rfl
      · rw [RenewalCycle.loginFailed, hi, List.any_append, hrefused]
        rfl
  | refused =>
      refine .refused (hupkeep _ hi rfl rfl) ?_ ?_
      · rw [RenewalCycle.granted, hi, List.findSome?_append, hgranted]
        rfl
      · rw [RenewalCycle.loginFailed, hi, List.any_append, hrefused]
        rfl

/-- Every cycle is one of the cases. -/
theorem cycled_of_trace (h : Trace e (r.cycle credentials) x τ next y) :
    Cycled credentials r ⟨r.session, τ, next.map Renewal.session⟩ next := by
  obtain ⟨ended, x₁, x₂, rest, -, -, hr, rfl⟩ := trace_call.1 h
  cases ended with
  | false =>
      obtain ⟨rfl, rfl, rfl⟩ := trace_done.1 hr
      exact .stopped fun hcomplete => nomatch hcomplete _ (List.mem_cons_self ..)
  | true =>
      dsimp only at hr
      by_cases hrenewable : r.session.renewable = true
      · rw [if_pos hrenewable] at hr
        obtain ⟨cancelled, x₃, x₄, rest, -, -, hr', rfl⟩ := trace_call.1 hr
        cases cancelled with
        | true =>
            obtain ⟨rfl, rfl, rfl⟩ := trace_done.1 hr'
            refine .stopped fun hcomplete => ?_
            exact nomatch hcomplete _ (List.mem_cons_of_mem _ (List.mem_cons_self ..))
        | false =>
            obtain ⟨wake, x₅, x₆, rest, -, -, hlast, rfl⟩ := trace_call.1 hr'
            rcases wake with (f | s) | late
            · -- the renewal was refused, so the cycle comes to a login
              refine (loggedIn_of_trace hlast).cycled
                (l := [⟨.sleep r.wait, true, x, x₁⟩, ⟨.isCancelled, false, x₂, x₃⟩,
                  ⟨.renew r.session.clientToken r.session.lease, .reply (.error f), x₄, x₅⟩])
                rfl ?_ rfl rfl rfl
              rw [if_pos hrenewable]
              rfl
            · obtain ⟨rfl, rfl, rfl⟩ := trace_done.1 hlast
              refine .granted ?_ rfl rfl
              rw [Session.upkeep, if_pos hrenewable]
              rfl
            · obtain ⟨rfl, rfl, rfl⟩ := trace_done.1 hlast
              refine .stopped fun hcomplete => ?_
              exact nomatch hcomplete _ (List.mem_cons_of_mem _ (List.mem_cons_of_mem _
                (List.mem_cons_self ..)))
      · rw [if_neg hrenewable] at hr
        refine (loggedIn_of_trace hr).cycled (l := [⟨.sleep r.wait, true, x, x₁⟩]) rfl ?_ rfl rfl
          rfl
        rw [if_neg hrenewable]
        rfl

end

/-! ## Runs -/

/-- The cycles of a renewal from a session, the newest first, and the renewal as it stands: the
    backend answers anything at all, and a renewal that has ended has no further cycles. -/
inductive RenewalRuns {σ : Type} (e : Surroundings BackendCalls σ) (credentials : RoleCredentials)
    (start : Session) : List (RenewalCycle σ) → Option Renewal → Prop
  | start : RenewalRuns e credentials start [] (some { session := start })
  | cycled {h r τ next x y} : RenewalRuns e credentials start h (some r) →
      Trace e (r.cycle credentials) x τ next y →
      RenewalRuns e credentials start (⟨r.session, τ, next.map Renewal.session⟩ :: h) next

/-- What a complete cycle does after a number of failed logins in a row. -/
structure RenewalCycle.Keeps {σ : Type} (credentials : RoleCredentials) (failed : Nat)
    (i : RenewalCycle σ) : Prop where
  /-- It waits as long as the schedule says, renews the session if it is renewable, logs in unless
      it was renewed, and asks for nothing else. -/
  requests : i.requests =
    .sleep (renewalSchedule i.before.lease failed) :: i.before.upkeep credentials i.renewed
  /-- Where no session is granted, it leaves the one that it found. -/
  kept : i.granted = none → i.after = some i.before
  /-- A session that is granted takes its place, with the old token if it brings none. -/
  taken : ∀ s, i.granted = some s → ∃ n, i.after = some n ∧ n.lease = s.lease ∧
    n.renewable = s.renewable ∧
    n.clientToken = if s.clientToken = "" then i.before.clientToken else s.clientToken

/-- What the cycles of a renewal from a session keep to. -/
structure KeepsSession {σ : Type} (credentials : RoleCredentials) (start : Session)
    (h : List (RenewalCycle σ)) : Prop where
  /-- Every cycle goes on with the session that the one before has left. -/
  linked : ∀ newer i older, h = newer ++ i :: older →
    some i.before = (older.head?.map RenewalCycle.after).getD (some start)
  cycles : ∀ newer i older, h = newer ++ i :: older → i.IsComplete →
    i.Keeps credentials (failedLogins older)
  /-- No wait is longer than what the lease asks for. -/
  punctual : ∀ i ∈ h, i.IsComplete → ∀ d, .sleep d ∈ i.requests →
    d ≤ renewalDelay i.before.lease
  /-- After a cycle without a failed login it is what the lease asks for. -/
  recovered : ∀ newer i last older, h = newer ++ i :: last :: older → last.loginFailed = false →
    i.IsComplete → i.requests.head? = some (.sleep (renewalDelay i.before.lease))
  /-- A token is never lost. -/
  token : start.clientToken ≠ "" → ∀ i ∈ h, i.before.clientToken ≠ "" ∧
    ∀ n, i.after = some n → n.clientToken ≠ ""

section

variable {σ : Type} {e : Surroundings BackendCalls σ} {credentials : RoleCredentials}
  {start : Session} {h : List (RenewalCycle σ)} {r : Renewal} {i : RenewalCycle σ}
  {τ : List (BackendAnswer σ)} {next : Option Renewal} {k : Nat}

theorem failedLogins_cons_of_failed (hi : i.loginFailed = true) :
    failedLogins (i :: h) = failedLogins h + 1 := by
  rw [failedLogins, List.takeWhile_cons, if_pos hi, List.length_cons]
  rfl

theorem failedLogins_cons_of_not_failed (hi : i.loginFailed = false) :
    failedLogins (i :: h) = 0 := by
  rw [failedLogins, List.takeWhile_cons, if_neg (Bool.not_eq_true _ ▸ hi)]
  rfl

/-- What the counter of a renewal has kept of the failed logins. -/
theorem Cycled.failures_eq {r' : Renewal} (hc : Cycled credentials r i (some r'))
    (hr : r.failures = min (failedLogins h) mostFailures) :
    r'.failures = min (failedLogins (i :: h)) mostFailures := by
  generalize hn : some r' = next at hc
  cases hc with
  | stopped _ => exact nomatch hn
  | granted _ _ hlogin =>
      cases hn
      rw [failedLogins_cons_of_not_failed hlogin]
      exact (Nat.zero_min _).symm
  | refused _ _ hlogin =>
      cases hn
      rw [failedLogins_cons_of_failed hlogin]
      show min (r.failures + 1) mostFailures = min (failedLogins h + 1) mostFailures
      omega

/-- A complete cycle of a renewal that has kept count of the failed logins. -/
theorem Cycled.keeps
    (hc : Cycled credentials r ⟨r.session, τ, next.map Renewal.session⟩ next)
    (hr : r.failures = min k mostFailures)
    (hcomplete : RenewalCycle.IsComplete ⟨r.session, τ, next.map Renewal.session⟩) :
    RenewalCycle.Keeps credentials k ⟨r.session, τ, next.map Renewal.session⟩ := by
  have hwait : r.wait = renewalSchedule r.session.lease k := by
    rw [r.wait_eq, hr, renewalSchedule_min]
  cases hc with
  | stopped hnot => exact absurd hcomplete hnot
  | @granted s hrequests hgranted _ =>
      refine ⟨hwait ▸ hrequests, fun hnone => ?_, fun s' hs' => ?_⟩
      · exact nomatch hgranted.symm.trans hnone
      · cases hgranted.symm.trans hs'
        exact ⟨_, rfl, rfl, rfl, rfl⟩
  | refused hrequests hgranted _ =>
      refine ⟨hwait ▸ hrequests, fun _ => rfl, fun s' hs' => ?_⟩
      exact nomatch hgranted.symm.trans hs'

/-- A cycle does not lose the token. -/
theorem Cycled.token (hc : Cycled credentials r i next) (hr : r.session.clientToken ≠ "") :
    ∀ r', next = some r' → r'.session.clientToken ≠ "" := by
  intro r' hr'
  cases hc with
  | stopped _ => exact nomatch hr'
  | @granted s _ _ _ =>
      cases hr'
      show (if s.clientToken = "" then r.session.clientToken else s.clientToken) ≠ ""
      by_cases hs : s.clientToken = ""
      · rw [if_pos hs]
        exact hr
      · rw [if_neg hs]
        exact hs
  | refused _ _ _ =>
      cases hr'
      exact hr

/-- The session of a renewal that goes on is the one that the last cycle has left, and its counter
    the number of failed logins since a session was granted, as far as it is counted. -/
theorem RenewalRuns.standing (hr : RenewalRuns e credentials start h next) :
    ∀ r, next = some r → some r.session = (h.head?.map RenewalCycle.after).getD (some start) ∧
      r.failures = min (failedLogins h) mostFailures := by
  induction hr with
  | start =>
      intro r hr
      cases hr
      exact ⟨rfl, (Nat.zero_min _).symm⟩
  | cycled _ ht ih =>
      intro r' hr'
      cases hr'
      exact ⟨rfl, (cycled_of_trace ht).failures_eq (ih _ rfl).2⟩

/-- Every cycle of a run was made after a shorter run. -/
theorem RenewalRuns.of_append (hr : RenewalRuns e credentials start h next)
    {newer older : List (RenewalCycle σ)} (hh : h = newer ++ i :: older) :
    ∃ r next', RenewalRuns e credentials start older (some r) ∧
      i = ⟨r.session, i.answers, next'.map Renewal.session⟩ ∧ Cycled credentials r i next' := by
  induction hr generalizing newer with
  | start => exact absurd hh (List.append_ne_nil_of_right_ne_nil _ (List.cons_ne_nil _ _)).symm
  | @cycled h r τ next x y hr ht ih =>
      cases newer with
      | nil =>
          obtain ⟨rfl, rfl⟩ := List.cons.inj hh
          exact ⟨r, next, hr, rfl, cycled_of_trace ht⟩
      | cons j newer =>
          obtain ⟨-, hh⟩ := List.cons.inj hh
          exact ih hh

theorem RenewalRuns.keeps (hr : RenewalRuns e credentials start h next)
    {newer older : List (RenewalCycle σ)} (hh : h = newer ++ i :: older)
    (hcomplete : i.IsComplete) : i.Keeps credentials (failedLogins older) := by
  obtain ⟨r, next', hrun, hi, hc⟩ := hr.of_append hh
  rw [hi] at hc hcomplete ⊢
  exact hc.keeps (hrun.standing r rfl).2 hcomplete

/-- A run that starts with a token has one in every cycle. -/
theorem RenewalRuns.token (hr : RenewalRuns e credentials start h next)
    (hstart : start.clientToken ≠ "") :
    (∀ r, next = some r → r.session.clientToken ≠ "") ∧
      ∀ i ∈ h, i.before.clientToken ≠ "" ∧ ∀ n, i.after = some n → n.clientToken ≠ "" := by
  induction hr with
  | start =>
      refine ⟨fun r hr => ?_, fun i hi => nomatch hi⟩
      cases hr
      exact hstart
  | @cycled h r τ next x y hr ht ih =>
      obtain ⟨hbefore, hearlier⟩ := ih
      have hafter := (cycled_of_trace ht).token (hbefore r rfl)
      refine ⟨hafter, List.forall_mem_cons.2 ⟨⟨hbefore r rfl, fun n hn => ?_⟩, hearlier⟩⟩
      obtain ⟨r', hr', rfl⟩ := Option.map_eq_some_iff.1 hn
      exact hafter r' hr'

end

/-- Whatever the secret backend answers, the cycles of a renewal keep the session: each waits as the
    lease and the failed logins right before it say, asks for what the session allows, and leaves
    the session that was granted last, with a token if there ever was one. -/
theorem session_renewal {σ : Type} (e : Surroundings BackendCalls σ)
    (credentials : RoleCredentials) (start : Session) (h : List (RenewalCycle σ))
    (next : Option Renewal) (hr : RenewalRuns e credentials start h next) :
    KeepsSession credentials start h where
  linked newer i older hh := by
    obtain ⟨r, _, hrun, hi, -⟩ := hr.of_append hh
    rw [hi]
    exact (hrun.standing r rfl).1
  cycles _ _ _ hh hcomplete := hr.keeps hh hcomplete
  punctual i hi hcomplete d hd := by
    obtain ⟨newer, older, hh⟩ := List.append_of_mem hi
    have hkeeps := hr.keeps hh hcomplete
    rw [hkeeps.requests] at hd
    rcases List.mem_cons.1 hd with hsleep | hupkeep
    · cases hsleep
      exact renewalSchedule_le _ _
    · -- the upkeep of a session is no wait
      rcases List.mem_append.1 hupkeep with hrenew | hlogin
      · split at hrenew
        · exact nomatch List.mem_singleton.1 hrenew
        · exact nomatch hrenew
      · split at hlogin
        · exact nomatch hlogin
        · exact nomatch List.mem_singleton.1 hlogin
  recovered newer i last older hh hlast hcomplete := by
    have hkeeps := hr.keeps hh hcomplete
    rw [failedLogins_cons_of_not_failed hlast] at hkeeps
    rw [hkeeps.requests]
    rfl
  token hstart := (hr.token hstart).2

/-! ## A story -/

namespace Scripted

/-- A scripted backend as surroundings. -/
def Backend.surroundings : Surroundings BackendCalls Backend where
  Answers c b reply b' := b.answer c = (reply, b')
  Drifts b b' := b' = b

/-- The cycles of a renewal with a scripted backend, newest first, as many as told or until it
    ends. -/
def Backend.cycles (credentials : RoleCredentials) (start : Session) (b : Backend) :
    Nat → List (RenewalCycle Backend) × Option Renewal × Backend
  | 0 => ([], some { session := start }, b)
  | n + 1 =>
      match cycles credentials start b n with
      | (h, none, b) => (h, none, b)
      | (h, some r, b) =>
          let (next, b') := (r.cycle credentials).run answer b
          (⟨r.session, (r.cycle credentials).answered answer id b, next.map Renewal.session⟩ :: h,
            next, b')

theorem Backend.runs_cycles (credentials : RoleCredentials) (start : Session) (b : Backend)
    (n : Nat) : RenewalRuns surroundings credentials start (b.cycles credentials start n).1
      (b.cycles credentials start n).2.1 := by
  induction n with
  | zero => exact .start
  | succ n ih =>
      rw [cycles]
      rcases hpast : b.cycles credentials start n with ⟨h, _ | r, b'⟩
      · rw [hpast] at ih
        exact ih
      · rw [hpast] at ih
        have hanswer : ∀ c (b : Backend), True →
            surroundings.Answers c (id b) (b.answer c).1 (id (b.answer c).2) ∧ True :=
          fun _ _ _ => ⟨rfl, trivial⟩
        obtain ⟨ht, -⟩ := Procedure.trace_run (fun _ => rfl) hanswer (r.cycle credentials) trivial
        exact .cycled ih ht

/-- A backend that refuses every renewal and two logins, and then grants a session without a token
    and one with a token. -/
def reluctantBackend : Backend where
  logins := [.fail (.secretBackend "sealed"), .fail (.secretBackend "sealed"),
    .reply ⟨"", .ofSeconds 60, false⟩, .reply ⟨"t2", .ofSeconds 600, true⟩]

/-- The session before the backend refuses. -/
def firstSession : Session := ⟨"t1", .ofSeconds 3600, true⟩

/-- Four cycles of renewal with that backend. -/
def reluctantStory : List (RenewalCycle Backend) × Option Renewal × Backend :=
  reluctantBackend.cycles ⟨"role", "secret"⟩ firstSession 4

end Scripted

open Scripted in
/-- Two failed logins bring the next cycles forward, a token is kept over a reply without one, and
    the schedule of the lease is taken up again. -/
theorem session_renewal_story :
    KeepsSession ⟨"role", "secret"⟩ firstSession reluctantStory.1 ∧
      reluctantStory.1.map RenewalCycle.requests =
        [[.sleep (.ofSeconds 48), .login ⟨"role", "secret"⟩],
          [.sleep (.ofSeconds 10), .renew "t1" (.ofSeconds 3600), .login ⟨"role", "secret"⟩],
          [.sleep (.ofSeconds 5), .renew "t1" (.ofSeconds 3600), .login ⟨"role", "secret"⟩],
          [.sleep (.ofSeconds 2880), .renew "t1" (.ofSeconds 3600), .login ⟨"role", "secret"⟩]] ∧
      reluctantStory.1.map RenewalCycle.after =
        [some ⟨"t2", .ofSeconds 600, true⟩, some ⟨"t1", .ofSeconds 60, false⟩, some firstSession,
          some firstSession] := by
  refine ⟨?_, by decide +kernel, by decide +kernel⟩
  exact session_renewal _ _ _ _ _ (reluctantBackend.runs_cycles _ _ 4)

end CloudReconciler
