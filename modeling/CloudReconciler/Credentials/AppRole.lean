import CloudReconciler.Credentials.Secret
import CloudReconciler.Effect.Procedure
import CloudReconciler.Retry.Backoff

/-! # Backend sessions — kept alive by renewal

    A session with the secret backend has a lease.  Each cycle of renewal
    waits for most of the lease, renews the session if it can be renewed and
    logs in again if it cannot or if renewal failed.  After a failed login
    the old session stays and the next cycle comes early. -/

namespace CloudReconciler

/-- What the engine presents to the secret backend. -/
structure RoleCredentials where
  roleId : String
  secretId : String
  deriving DecidableEq, Repr

/-- A session with the secret backend. -/
structure Session where
  clientToken : String
  /-- How long the session lasts from when it was given. -/
  lease : Duration
  /-- The session can be renewed. -/
  renewable : Bool
  deriving DecidableEq, Repr

/-- What is asked of the secret backend and its surroundings. -/
inductive BackendCall where
  /-- Waits; false when the wait was cancelled. -/
  | sleep (delay : Duration)
  /-- Whether the caller has been cancelled. -/
  | isCancelled
  | login (credentials : RoleCredentials)
  /-- Renews the session of a token for the given lease. -/
  | renew (token : String) (lease : Duration)
  /-- Reads a secret under a mount. -/
  | read (token mount path : String)
  deriving DecidableEq, Repr

/-- Calls of the secret backend and their replies. -/
def BackendCalls : Interface where
  Call := BackendCall
  Reply
    | .sleep _ => Bool
    | .isCancelled => Bool
    | .login _ => Wake (Outcome Session)
    | .renew _ _ => Wake (Outcome Session)
    | .read _ _ _ => Wake (Outcome Secret)

/-- A session is renewed at the latest this long before its lease ends. -/
def leastMargin : Duration := .ofSeconds 10

/-- The wait when the lease is too short to keep the margin. -/
def shortestWait : Duration := .ofSeconds 1

/-- How long to wait before a lease is renewed: until a fifth of it is left, or the least margin
    if that is more. -/
def renewalDelay (lease : Duration) : Duration :=
  let margin := max ⟨lease.nanos / 5⟩ leastMargin
  if margin < lease then ⟨lease.nanos - margin.nanos⟩ else shortestWait

/-- The waits after failed logins. -/
def failedLoginBackoff : Backoff := { initial := .ofSeconds 5, longest := .ofSeconds 60 }

/-- Failed logins are counted up to this number. -/
def mostFailures : Nat := UInt32.size - 1

/-- The renewal of a session between two cycles. -/
structure Renewal where
  session : Session
  /-- Cycles in a row that ended in a failed login. -/
  failures : Nat := 0
  deriving DecidableEq, Repr

namespace Renewal

/-- The wait before the next cycle. -/
def wait (r : Renewal) : Duration :=
  let regular := renewalDelay r.session.lease
  if r.failures = 0 then regular
  else
    match failedLoginBackoff.delay? r.failures with
    | some early => min regular early
    | none => regular

/-- A new session; a reply without token renews the old token. -/
def accept (r : Renewal) (next : Session) : Renewal where
  session :=
    { next with
      clientToken := if next.clientToken = "" then r.session.clientToken else next.clientToken }
  failures := 0

/-- The old session after a failed login. -/
def failed (r : Renewal) : Renewal := { r with failures := min (r.failures + 1) mostFailures }

/-- Logs in again; none when cancelled. -/
def relogin (credentials : RoleCredentials) (r : Renewal) :
    Procedure BackendCalls (Option Renewal) :=
  .call .isCancelled fun
    | true => .done none
    | false =>
        .call (.login credentials) fun
          | .cancelled _ => .done none
          | .reply (.ok next) => .done (some (r.accept next))
          | .reply (.error _) => .done (some r.failed)

/-- One cycle of renewal; none when cancelled. -/
def cycle (credentials : RoleCredentials) (r : Renewal) : Procedure BackendCalls (Option Renewal) :=
  .call (.sleep r.wait) fun
    | false => .done none
    | true =>
        if r.session.renewable then
          .call .isCancelled fun
            | true => .done none
            | false =>
                .call (.renew r.session.clientToken r.session.lease) fun
                  | .cancelled _ => .done none
                  | .reply (.ok next) => .done (some (r.accept next))
                  | .reply (.error _) => relogin credentials r
        else relogin credentials r

end Renewal

namespace Session

/-- The first login. -/
def connect (credentials : RoleCredentials) : Procedure BackendCalls (Outcome Session) :=
  .call (.login credentials) fun
    | .cancelled _ => .done (.error .cancelled)
    | .reply outcome => .done outcome

/-- Reads a secret with the session's token. -/
def readSecret (s : Session) (mount path : String) : Procedure BackendCalls (Outcome Secret) :=
  .call .isCancelled fun
    | true => .done (.error .cancelled)
    | false =>
        .call (.read s.clientToken mount path) fun
          | .cancelled _ => .done (.error .cancelled)
          | .reply outcome => .done outcome

end Session

end CloudReconciler
