import CloudReconciler.Credentials.Manager
import CloudReconciler.Effect.Tasks
import CloudReconciler.Scripted.Line

/-! # The scripted credential desk — a token manager's state with scripted partners

    The desk keeps the cache, the credentials and the login lock, and
    answers for the identity provider and the secret store from scripts.
    Every login and every read is logged before its reply is looked up.
    The identity provider gives other tasks a turn before it answers.
    The clock fails for good when an instant is asked of it that no clock
    holds: its own, or the end of a token that is looked up. -/

namespace CloudReconciler.Scripted

/-- A token manager's state and the scripts of its partners. -/
structure Desk where
  now : Instant
  /-- An instant was needed that no clock holds. -/
  clockFailed : Bool := false
  /-- The running invocation has been cancelled. -/
  cancelled : Bool := false
  cache : TokenCache := .empty
  assigned : Table String ClientCredentials := .empty
  /-- The credentials of tenants that have none assigned. -/
  fallback : Option ClientCredentials := none
  /-- Somebody holds the login lock. -/
  isLocked : Bool := false
  /-- The secrets of tenants, where tenants have their own. -/
  secrets : Option (Table String (Line Secret)) := none
  grants : List (Line TokenGrant) := []
  /-- Credentials of every login, oldest first. -/
  logins : List ClientCredentials := []
  /-- Path of every secret read, oldest first. -/
  reads : List String := []

namespace Desk

/-- Tenants have their own secrets. -/
def ownSecrets (d : Desk) : Bool := d.secrets.isSome

/-- Exchanges credentials for the next grant; an invocation that was cancelled while it waited
    leaves the grant to others. -/
def login (credentials : ClientCredentials) (d : Desk) : Wake (Outcome TokenGrant) × Desk :=
  let d := { d with logins := d.logins ++ [credentials] }
  if d.cancelled then (.cancelled none, d)
  else
    let (line, rest) := next (.authentication noReply) d.grants
    let (cancels, wake) := line.wake
    (wake, { d with grants := rest, cancelled := cancels })

/-- Reads a secret; a cancelled invocation gets none. -/
def readSecret (path : String) (d : Desk) : Outcome Secret × Desk :=
  let line := ((d.secrets.getD .empty).find? path).getD (.fail (.secretBackend ("no secret " ++ path)))
  let d := { d with reads := d.reads ++ [path] }
  match line with
  | .cancel => (.error .cancelled, { d with cancelled := true })
  | .fail f => (.error f, d)
  | .reply secret => (if d.cancelled then .error .cancelled else .ok secret, d)

/-- Looks up a token, whose end is then computed. -/
def cached (key : String) (d : Desk) : Option CachedToken × Desk :=
  let token := d.cache.find? key
  (token, { d with clockFailed := d.clockFailed || token.any (!·.endIsHeld) })

/-- Moves the clock by some nanoseconds. -/
def advance (nanos : Int) (d : Desk) : Desk :=
  let now := d.now.addNanos nanos
  { d with now, clockFailed := d.clockFailed || !now.isHeld }

/-- Answers a call of the token manager. -/
def answer : (c : CredentialCall) → Desk → CredentialCalls.Reply c × Desk
  | .now, d => (d.now, d)
  | .isCancelled, d => (d.cancelled, d)
  | .cached key, d => d.cached key
  | .remember key token, d => ((), { d with cache := d.cache.insert key token })
  | .credentialsFor key, d => (d.assigned.find? key <|> d.fallback, d)
  | .assign key credentials, d => ((), { d with assigned := d.assigned.insert key credentials })
  | .lock, d => if d.cancelled then (.cancelled none, d) else (.reply (), { d with isLocked := true })
  | .unlock, d => ((), { d with isLocked := false })
  | .login credentials, d => d.login credentials
  | .readSecret path, d => d.readSecret path

/-- The lock makes wait while somebody holds it, the identity provider before it answers. -/
def waits : CredentialCall → Bool → Desk → Bool
  | .lock, _, d => d.isLocked && !d.cancelled
  | .login _, waited, _ => !waited
  | _, _, _ => false

/-- The desk as a service for tasks. -/
def service : Service CredentialCalls Desk := ⟨answer, waits⟩

/-- Runs requests that are made at the same time; each waits at most for the lock and for a
    login. -/
def serve {α : Type} (requests : List (Procedure CredentialCalls α)) (d : Desk) :
    List (Procedure CredentialCalls α) × Desk :=
  service.runAll (2 * requests.length) requests d

/-- The desk with its logs emptied. -/
def unlogged (d : Desk) : Desk := { d with logins := [], reads := [] }

end Desk

end CloudReconciler.Scripted
