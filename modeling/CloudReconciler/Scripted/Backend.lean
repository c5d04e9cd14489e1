import CloudReconciler.Credentials.AppRole
import CloudReconciler.Scripted.Line

/-! # The scripted secret backend — a connected client with its renewal

    Every call of the backend is logged before its reply is looked up.  The
    renewal stands at its wait until a tick lets the wait end, and it ends
    when the client is closed. -/

namespace CloudReconciler.Scripted

/-- The scripts of a secret backend. -/
structure Backend where
  logins : List (Line Session) := []
  renewals : List (Line Session) := []
  secrets : Table String (Line Secret) := .empty
  /-- The caller has been cancelled. -/
  cancelled : Bool := false
  /-- The calls made, oldest first. -/
  calls : List BackendCall := []

namespace Backend

/-- The fault of a script that has run out. -/
def exhausted : Fault := .secretBackend noReply

/-- Logs a call. -/
def log (b : Backend) (c : BackendCall) : Backend := { b with calls := b.calls ++ [c] }

/-- Cancels the caller if the flag says so. -/
def cancelIf (b : Backend) (cancels : Bool) : Backend := { b with cancelled := b.cancelled || cancels }

/-- Answers a call; waits end at once unless the caller has been cancelled. -/
def answer : (c : BackendCall) → Backend → BackendCalls.Reply c × Backend
  | .sleep _, b => (!b.cancelled, b)
  | .isCancelled, b => (b.cancelled, b)
  | .login credentials, b =>
      let (line, logins) := next exhausted b.logins
      let (cancels, wake) := line.wake
      (wake, ({ b with logins }.log (.login credentials)).cancelIf cancels)
  | .renew token lease, b =>
      let (line, renewals) := next exhausted b.renewals
      let (cancels, wake) := line.wake
      (wake, ({ b with renewals }.log (.renew token lease)).cancelIf cancels)
  | .read token mount path, b =>
      let line := (b.secrets.find? path).getD (.fail (.secretBackend ("no secret " ++ path)))
      let (cancels, wake) := line.wake
      (wake, (b.log (.read token mount path)).cancelIf cancels)

end Backend

/-- A connected client. -/
structure Client where
  credentials : RoleCredentials
  mount : String
  session : Session
  /-- The renewal at its wait; none after it has ended. -/
  renewal : Option Renewal
  backend : Backend
  /-- The waits that the renewal has asked for, oldest first. -/
  waits : List Duration := []

namespace Client

/-- Logs in and starts the renewal. -/
def connect (credentials : RoleCredentials) (mount : String) (b : Backend) :
    Outcome Client × Backend :=
  match (Session.connect credentials).run Backend.answer b with
  | (.error f, b) => (.error f, b)
  | (.ok session, b) =>
      let renewal : Renewal := { session }
      (.ok
        { credentials, mount, session, renewal := some renewal, backend := b, waits := [renewal.wait] },
        b)

/-- Lets one wait end and runs the renewal up to its next wait. -/
def tick (c : Client) : Client :=
  match c.renewal with
  | none => c
  | some r =>
      match (r.cycle c.credentials).run Backend.answer c.backend with
      | (none, backend) => { c with renewal := none, backend }
      | (some r, backend) =>
          { c with session := r.session, renewal := some r, backend, waits := c.waits ++ [r.wait] }

/-- Ends the renewal. -/
def close (c : Client) : Client :=
  { c with renewal := none, backend := { c.backend with cancelled := true } }

/-- Reads a secret for a caller of its own. -/
def read (c : Client) (path : String) (cancelled : Bool) : Outcome Secret × Client :=
  let (outcome, b) :=
    (c.session.readSecret c.mount path).run Backend.answer { c.backend with cancelled }
  (outcome, { c with backend := { b with cancelled := c.backend.cancelled } })

/-- The client with its logs emptied. -/
def unlogged (c : Client) : Client := { c with waits := [], backend := { c.backend with calls := [] } }

end Client

end CloudReconciler.Scripted
