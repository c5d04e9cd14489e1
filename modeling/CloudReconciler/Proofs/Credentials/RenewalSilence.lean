import CloudReconciler.Credentials.AppRole

/-! # Silence after cancellation — a closed session is not renewed, whatever is still under way

    The task that keeps a session runs one cycle of renewal after another.
    Here it is seen call by call, so that its cancellation token can fire
    wherever it stands: asleep, about to ask the backend for something, or
    while the backend has not replied yet.  A reply may also be ready when
    the token fires, before the task has noticed either; the task looks at
    its token first (`RenewalTask.Wakes`).

    A task stands at one of six positions (`RenewalPosition`).  Every move
    of the task leads from one to another, and once the token has fired it
    leads closer to the end, without a request and without touching the
    session (`RenewalTask.At.moves`). -/

namespace CloudReconciler

/-! ## The task -/

/-- The call asks for something, and does not only look for a cancellation. -/
def BackendCall.isRequest : BackendCall → Bool
  | .isCancelled => false
  | .sleep _ | .login _ | .renew _ _ | .read _ _ _ => true

/-- The task that keeps a session. -/
structure RenewalTask where
  /-- What is left of the cycle, from the call that the task stands at. -/
  rest : Procedure BackendCalls (Option Renewal)
  session : Session
  /-- The cancellation token has fired. -/
  cancelled : Bool
  /-- The backend's reply that the task has not noticed yet. -/
  ready : Option (Outcome Session)
  /-- The requests that have been made, newest first. -/
  requests : List BackendCall

namespace RenewalTask

/-- A task before its first cycle. -/
def start (credentials : RoleCredentials) (r : Renewal) (cancelled : Bool) : RenewalTask :=
  ⟨r.cycle credentials, r.session, cancelled, none, [.sleep r.wait]⟩

/-- The task goes on to its next call; a cycle that is over leaves its session and is followed by
    the next one. -/
def goOn (credentials : RoleCredentials) (x : RenewalTask) :
    Procedure BackendCalls (Option Renewal) → RenewalTask
  | .done none => { x with rest := .done none, ready := none }
  | .done (some r) =>
      { x with
        rest := r.cycle credentials
        session := r.session
        ready := none
        requests := .sleep r.wait :: x.requests }
  | .call c resume =>
      { x with
        rest := .call c resume
        ready := none
        requests := if c.isRequest then c :: x.requests else x.requests }

/-- How the task wakes from a request to the backend: it looks at its token first, and drops a reply
    that is there as well. -/
inductive Wakes (x : RenewalTask) : Wake (Outcome Session) → Prop
  | cancelled : x.cancelled = true → Wakes x (.cancelled x.ready)
  | replied {reply : Outcome Session} : x.cancelled = false → x.ready = some reply →
      Wakes x (.reply reply)

/-- What happens around a task at any time. -/
inductive Happens : RenewalTask → RenewalTask → Prop
  | fires (x : RenewalTask) : Happens x { x with cancelled := true }
  | replies (x : RenewalTask) (reply : Outcome Session) : x.ready = none →
      Happens x { x with ready := some reply }

/-- What the task does next; its sleep may end with any report at any time. -/
inductive Moves (credentials : RoleCredentials) : RenewalTask → RenewalTask → Prop
  | slept {x : RenewalTask} {delay : Duration}
      {resume : Bool → Procedure BackendCalls (Option Renewal)} (report : Bool) :
      x.rest = .call (.sleep delay) resume →
      Moves credentials x (x.goOn credentials (resume report))
  | checked {x : RenewalTask} {resume : Bool → Procedure BackendCalls (Option Renewal)} :
      x.rest = .call .isCancelled resume →
      Moves credentials x (x.goOn credentials (resume x.cancelled))
  | renewed {x : RenewalTask} {token : String} {lease : Duration} {wake : Wake (Outcome Session)}
      {resume : Wake (Outcome Session) → Procedure BackendCalls (Option Renewal)} :
      x.rest = .call (.renew token lease) resume → x.Wakes wake →
      Moves credentials x (x.goOn credentials (resume wake))
  | loggedIn {x : RenewalTask} {c : RoleCredentials} {wake : Wake (Outcome Session)}
      {resume : Wake (Outcome Session) → Procedure BackendCalls (Option Renewal)} :
      x.rest = .call (.login c) resume → x.Wakes wake →
      Moves credentials x (x.goOn credentials (resume wake))

/-- A task goes on for a number of moves, while anything may happen around it. -/
inductive Runs (credentials : RoleCredentials) (x : RenewalTask) : Nat → RenewalTask → Prop
  | refl : Runs credentials x 0 x
  | happens {n y z} : Runs credentials x n y → Happens y z → Runs credentials x n z
  | moves {n y z} : Runs credentials x n y → Moves credentials y z → Runs credentials x (n + 1) z

/-- The task is over. -/
def HasEnded (x : RenewalTask) : Prop := x.rest = .done none

/-- The task sleeps before a renewal. -/
def IsAsleep (x : RenewalTask) : Prop := ∃ delay resume, x.rest = .call (.sleep delay) resume

end RenewalTask

/-! ## Positions -/

/-- Where a task stands. -/
inductive RenewalPosition where
  /-- It sleeps. -/
  | asleep
  /-- It is about to renew the session. -/
  | deciding
  /-- The backend has been asked to renew it. -/
  | renewing
  /-- It is about to log in again. -/
  | resorting
  /-- The backend has been asked for a login. -/
  | loggingIn
  | ended

namespace RenewalPosition

/-- The request to renew the session, and what becomes of its reply. -/
def renewal (credentials : RoleCredentials) (r : Renewal) :
    Procedure BackendCalls (Option Renewal) :=
  .call (.renew r.session.clientToken r.session.lease) fun
    | .cancelled _ => .done none
    | .reply (.ok next) => .done (some (r.accept next))
    | .reply (.error _) => r.relogin credentials

/-- The request for a login, and what becomes of its reply. -/
def login (credentials : RoleCredentials) (r : Renewal) :
    Procedure BackendCalls (Option Renewal) :=
  .call (.login credentials) fun
    | .cancelled _ => .done none
    | .reply (.ok next) => .done (some (r.accept next))
    | .reply (.error _) => .done (some r.failed)

/-- What is left of a cycle at a position. -/
def procedure (credentials : RoleCredentials) (r : Renewal) :
    RenewalPosition → Procedure BackendCalls (Option Renewal)
  | .asleep => r.cycle credentials
  | .deciding =>
      .call .isCancelled fun
        | true => .done none
        | false => renewal credentials r
  | .renewing => renewal credentials r
  | .resorting => r.relogin credentials
  | .loggingIn => login credentials r
  | .ended => .done none

/-- The moves to the end of a task that has been cancelled. -/
def movesLeft : RenewalPosition → Nat
  | .asleep => 2
  | .deciding | .renewing | .resorting | .loggingIn => 1
  | .ended => 0

end RenewalPosition

namespace RenewalTask

/-- The task stands at a position of a renewal of its session. -/
structure At (credentials : RoleCredentials) (pos : RenewalPosition) (r : Renewal)
    (x : RenewalTask) : Prop where
  rest : x.rest = pos.procedure credentials r
  session : x.session = r.session

variable {credentials : RoleCredentials} {pos : RenewalPosition} {r : Renewal}
  {x y z : RenewalTask} {n : Nat}

/-- What a move comes to for a task that stands at a position: it stands at one again, and if it has
    been cancelled, it is closer to the end of the same renewal and has made no request. -/
structure Advances (credentials : RoleCredentials) (pos : RenewalPosition) (r : Renewal)
    (x y : RenewalTask) : Prop where
  position : ∃ next r', y.At credentials next r' ∧
    (x.cancelled = true → r' = r ∧ next.movesLeft < pos.movesLeft)
  requests : x.cancelled = true → y.requests = x.requests
  cancelled : y.cancelled = x.cancelled

/-- The end of a task. -/
theorem advances_end (h : x.At credentials pos r) (hpos : 0 < pos.movesLeft) :
    Advances credentials pos r x (x.goOn credentials (.done none)) where
  position := ⟨.ended, r, ⟨rfl, h.session⟩, fun _ => ⟨rfl, hpos⟩⟩
  requests _ := rfl
  cancelled := rfl

/-- A new cycle, which does not begin when the task has been cancelled. -/
theorem advances_cycle {r' : Renewal} (hx : x.cancelled = false) :
    Advances credentials pos r x (x.goOn credentials (.done (some r'))) where
  position := ⟨.asleep, r', ⟨rfl, rfl⟩, fun h => nomatch h.symm.trans hx⟩
  requests h := nomatch h.symm.trans hx
  cancelled := rfl

/-- A request, which is not made when the task has been cancelled. -/
theorem advances_request (next : RenewalPosition) {c : BackendCall}
    {resume : BackendCalls.Reply c → Procedure BackendCalls (Option Renewal)}
    (h : x.At credentials pos r) (hx : x.cancelled = false)
    (hnext : next.procedure credentials r = .call c resume) :
    Advances credentials pos r x (x.goOn credentials (.call c resume)) where
  position := ⟨next, r, ⟨hnext.symm, h.session⟩, fun h => nomatch h.symm.trans hx⟩
  requests h := nomatch h.symm.trans hx
  cancelled := rfl

/-- A look for a cancellation. -/
theorem advances_check (next : RenewalPosition)
    {resume : Bool → Procedure BackendCalls (Option Renewal)} (h : x.At credentials pos r)
    (hnext : next.procedure credentials r = .call .isCancelled resume)
    (hleft : x.cancelled = true → next.movesLeft < pos.movesLeft) :
    Advances credentials pos r x (x.goOn credentials (.call .isCancelled resume)) where
  position := ⟨next, r, ⟨hnext.symm, h.session⟩, fun hx => ⟨rfl, hleft hx⟩⟩
  requests _ := rfl
  cancelled := rfl

/-- Every move leads from a position to a position. -/
theorem At.moves (h : x.At credentials pos r) (hm : Moves credentials x y) :
    Advances credentials pos r x y := by
  cases hm with
  | slept report hrest =>
      have hcall := h.rest.symm.trans hrest
      cases pos with
      | asleep =>
          cases hcall
          cases report with
          | false => exact advances_end h (by decide)
          | true =>
              cases r.session.renewable with
              | true => exact advances_check .deciding h rfl fun _ => by decide
              | false => exact advances_check .resorting h rfl fun _ => by decide
      | deciding | renewing | resorting | loggingIn | ended => cases hcall
  | checked hrest =>
      have hcall := h.rest.symm.trans hrest
      cases hx : x.cancelled with
      | true =>
          cases pos with
          | deciding | resorting =>
              cases hcall
              exact advances_end h (by decide)
          | asleep | renewing | loggingIn | ended => cases hcall
      | false =>
          cases pos with
          | deciding =>
              cases hcall
              exact advances_request .renewing h hx rfl
          | resorting =>
              cases hcall
              exact advances_request .loggingIn h hx rfl
          | asleep | renewing | loggingIn | ended => cases hcall
  | renewed hrest hwakes =>
      have hcall := h.rest.symm.trans hrest
      cases pos with
      | renewing =>
          cases hcall
          cases hwakes with
          | cancelled hx => exact advances_end h (by decide)
          | @replied reply hx hready =>
              cases reply with
              | ok next => exact advances_cycle hx
              | error f =>
                  exact advances_check .resorting h rfl fun h => nomatch h.symm.trans hx
      | asleep | deciding | resorting | loggingIn | ended => cases hcall
  | loggedIn hrest hwakes =>
      have hcall := h.rest.symm.trans hrest
      cases pos with
      | loggingIn =>
          cases hcall
          cases hwakes with
          | cancelled hx => exact advances_end h (by decide)
          | @replied reply hx hready =>
              cases reply with
              | ok next => exact advances_cycle hx
              | error f => exact advances_cycle hx
      | asleep | deciding | renewing | resorting | ended => cases hcall

/-- What happens around a task does not move it. -/
theorem At.happens (h : x.At credentials pos r) (hy : Happens x y) :
    y.At credentials pos r ∧ y.requests = x.requests ∧
      (x.cancelled = true → y.cancelled = true) := by
  cases hy with
  | fires => exact ⟨⟨h.rest, h.session⟩, rfl, fun _ => rfl⟩
  | replies reply _ => exact ⟨⟨h.rest, h.session⟩, rfl, id⟩

/-- A task always stands at a position. -/
theorem Runs.at (h : x.At credentials pos r) (hy : Runs credentials x n y) :
    ∃ pos' r', y.At credentials pos' r' := by
  induction hy with
  | refl => exact ⟨pos, r, h⟩
  | happens _ hz ih =>
      obtain ⟨pos', r', hy⟩ := ih
      exact ⟨pos', r', (hy.happens hz).1⟩
  | moves _ hz ih =>
      obtain ⟨pos', r', hy⟩ := ih
      obtain ⟨next, r'', hz, -⟩ := (hy.moves hz).position
      exact ⟨next, r'', hz⟩

/-- Once it has been cancelled, every move leads a task closer to the end, with the session and the
    requests that it had. -/
theorem Runs.quiet (h : x.At credentials pos r) (hx : x.cancelled = true)
    (hy : Runs credentials x n y) :
    ∃ pos' : RenewalPosition, y.At credentials pos' r ∧ pos'.movesLeft + n ≤ pos.movesLeft ∧
      y.requests = x.requests ∧ y.cancelled = true := by
  induction hy with
  | refl => exact ⟨pos, h, Nat.le_refl _, rfl, hx⟩
  | happens _ hz ih =>
      obtain ⟨pos', hy, hleft, hrequests, hcancelled⟩ := ih
      obtain ⟨hz, hsame, hkept⟩ := hy.happens hz
      exact ⟨pos', hz, hleft, hsame.trans hrequests, hkept hcancelled⟩
  | moves _ hz ih =>
      obtain ⟨pos', hy, hleft, hrequests, hcancelled⟩ := ih
      have hmoved := hy.moves hz
      obtain ⟨next, r', hz, hcloser⟩ := hmoved.position
      obtain ⟨rfl, hlt⟩ := hcloser hcancelled
      exact ⟨next, hz, by omega, (hmoved.requests hcancelled).trans hrequests,
        hmoved.cancelled.trans hcancelled⟩

/-- A cancelled task that is not over can move. -/
theorem At.exists_moves (h : x.At credentials pos r) (hx : x.cancelled = true)
    (hpos : 0 < pos.movesLeft) : ∃ y, Moves credentials x y := by
  cases pos with
  | asleep => exact ⟨_, .slept true h.rest⟩
  | deciding | resorting => exact ⟨_, .checked h.rest⟩
  | renewing => exact ⟨_, .renewed h.rest (.cancelled hx)⟩
  | loggingIn => exact ⟨_, .loggedIn h.rest (.cancelled hx)⟩
  | ended => exact absurd hpos (Nat.lt_irrefl 0)

/-- Only a task that is over has no moves left. -/
theorem At.hasEnded (h : x.At credentials pos r) (hpos : pos.movesLeft = 0) : x.HasEnded := by
  cases pos with
  | ended => exact h.rest
  | asleep | deciding | renewing | resorting | loggingIn => cases hpos

/-- What a task comes to in a number of moves after its token has fired. -/
structure Silenced (credentials : RoleCredentials) (x : RenewalTask) (n : Nat) (y : RenewalTask) :
    Prop where
  /-- The session stays as it was, also when a reply is ready that grants another. -/
  session : y.session = x.session
  /-- No request is made any more. -/
  requests : y.requests = x.requests
  /-- A task that does not sleep ends with its next move. -/
  current : ¬ x.IsAsleep → n ≤ 1 ∧ (n = 1 → y.HasEnded)
  /-- Otherwise it ends with the one after that at the latest. -/
  next : n ≤ 2 ∧ (n = 2 → y.HasEnded)
  /-- Nothing keeps it from moving on. -/
  goesOn : ¬ y.HasEnded → ∃ z, Moves credentials y z

end RenewalTask

open RenewalTask in
/-- Whatever a task has gone through when its token fires, and whatever its sleeps report and the
    backend replies from then on, the task ends at the call that it stands at or at the next one,
    makes no further request and leaves its session alone. -/
theorem renewal_silenced (credentials : RoleCredentials) (r : Renewal) (cancelled : Bool)
    {m n : Nat} {x y : RenewalTask} (hx : Runs credentials (start credentials r cancelled) m x)
    (hfired : x.cancelled = true) (hy : Runs credentials x n y) : Silenced credentials x n y := by
  have hstart : (start credentials r cancelled).At credentials .asleep r := ⟨rfl, rfl⟩
  obtain ⟨pos, r', hat⟩ := hx.at hstart
  obtain ⟨pos', hat', hleft, hrequests, hcancelled⟩ := hy.quiet hat hfired
  refine ⟨hat'.session.trans hat.session.symm, hrequests, fun hawake => ?_, ?_, fun hrest => ?_⟩
  · have hone : pos.movesLeft ≤ 1 := by
      cases pos with
      | asleep => exact absurd ⟨_, _, hat.rest⟩ hawake
      | deciding | renewing | resorting | loggingIn | ended => decide
    exact ⟨by omega, fun hn => hat'.hasEnded (by omega)⟩
  · have htwo : pos.movesLeft ≤ 2 := by cases pos <;> decide
    exact ⟨by omega, fun hn => hat'.hasEnded (by omega)⟩
  · refine hat'.exists_moves hcancelled (Nat.pos_of_ne_zero fun hzero => ?_)
    exact hrest (hat'.hasEnded hzero)

namespace RenewalTask

/-- A renewal of a session of one minute. -/
def minuteRenewal : Renewal := { session := ⟨"first", .ofSeconds 60, true⟩ }

/-- The task of that renewal when its token has fired while the backend's reply, which has granted
    another session, was not noticed yet. -/
def firedLate (credentials : RoleCredentials) : RenewalTask where
  rest := RenewalPosition.renewal credentials minuteRenewal
  session := minuteRenewal.session
  cancelled := true
  ready := some (.ok ⟨"second", .ofSeconds 60, true⟩)
  requests := [.renew "first" (.ofSeconds 60), .sleep minuteRenewal.wait]

theorem runs_firedLate (credentials : RoleCredentials) :
    Runs credentials (start credentials minuteRenewal false) 2 (firedLate credentials) := by
  have hslept : Runs credentials (start credentials minuteRenewal false) 1 _ :=
    .moves .refl (.slept true rfl)
  have hasked : Runs credentials (start credentials minuteRenewal false) 2 _ :=
    .moves hslept (.checked rfl)
  exact .happens (.happens hasked (.replies _ _ rfl)) (.fires _)

end RenewalTask

open RenewalTask in
/-- A session that has been granted too late is dropped. -/
theorem renewal_silenced_story :
    let fired := firedLate ⟨"role", "secret"⟩
    let ended := fired.goOn ⟨"role", "secret"⟩ (.done none)
    Runs ⟨"role", "secret"⟩ (start ⟨"role", "secret"⟩ minuteRenewal false) 2 fired ∧
      fired.cancelled = true ∧ Runs ⟨"role", "secret"⟩ fired 1 ended ∧
      Silenced ⟨"role", "secret"⟩ fired 1 ended ∧ ended.HasEnded ∧
      ended.session.clientToken = "first" ∧ ended.requests.length = 2 := by
  intro fired ended
  have hended : Runs ⟨"role", "secret"⟩ fired 1 ended :=
    .moves .refl (Moves.renewed (x := fired) rfl (.cancelled rfl))
  exact ⟨runs_firedLate _, rfl, hended,
    renewal_silenced _ minuteRenewal false (runs_firedLate _) rfl hended, rfl, rfl, rfl⟩

end CloudReconciler
