import CloudReconciler.Credentials.AppRole
import CloudReconciler.Http.Wire
import CloudReconciler.Json.Record
import CloudReconciler.Json.Writer
import CloudReconciler.Text.Blank

/-! # The secret backend over HTTP — sessions and secrets

    Slashes at the end of the address and around mounts and paths do not
    count, and an empty namespace is none. -/

namespace CloudReconciler

open Http

/-- Where a secret backend is reached. -/
structure BackendAddress where
  address : String
  /-- The mount of the login method. -/
  rolePath : String
  namespace_ : Option String
  deriving DecidableEq, Repr

namespace BackendAddress

/-- The address of a backend as configured. -/
def ofSettings (address rolePath : String) (namespace_ : Option String) : BackendAddress where
  address := Text.trimEndOf '/' address
  rolePath := Text.trimOf '/' rolePath
  namespace_ := namespace_.filter (· ≠ "")

/-- An endpoint of the backend. -/
def endpoint (b : BackendAddress) (path : String) : String := b.address ++ "/v1/" ++ path

/-- Where sessions are given. -/
def loginUrl (b : BackendAddress) : String := b.endpoint ("auth/" ++ b.rolePath ++ "/login")

/-- Where sessions are renewed. -/
def renewUrl (b : BackendAddress) : String := b.endpoint "auth/token/renew-self"

/-- Where the secret at a path under a mount is read. -/
def readUrl (b : BackendAddress) (mount path : String) : String :=
  b.endpoint (Text.trimOf '/' mount ++ "/data/" ++ Text.trimOf '/' path)

/-- A request to the backend. -/
def draft (b : BackendAddress) (method url : String) (token : Option String) (body : Option Json) :
    Draft where
  method := method
  url := url
  headers :=
    (b.namespace_.toList.map fun n => ("x-vault-namespace", n)) ++
      (token.toList.map fun t => ("x-vault-token", t)) ++
      (body.toList.map fun _ => ("content-type", "application/json"))
  body := body.map fun j => Utf8.encode j.write

def loginDraft (b : BackendAddress) (c : RoleCredentials) : Draft :=
  b.draft "POST" b.loginUrl none
    (some (.object [("role_id", .string c.roleId), ("secret_id", .string c.secretId)]))

def renewDraft (b : BackendAddress) (token : String) (lease : Duration) : Draft :=
  b.draft "POST" b.renewUrl (some token)
    (some (.object [("increment", .string (toString lease.seconds ++ "s"))]))

def readDraft (b : BackendAddress) (token mount path : String) : Draft :=
  b.draft "GET" (b.readUrl mount path) (some token) none

/-! ## Replies -/

/-- The session in the part of a reply that holds one. -/
def session? (j : Json) : Option Session := do
  let m ← j.record? ["client_token", "lease_duration", "renewable"] 1
  return {
    clientToken := ← Json.needed Json.string? "client_token" m
    lease := .ofSeconds (← Json.defaulted Json.uint64? 0 "lease_duration" m).toNat
    renewable := ← Json.defaulted Json.bool? false "renewable" m }

/-- The part of a reply that holds a session, if there is one. -/
def sessionReply? (j : Json) : Option (Option Session) := do
  let m ← j.record? ["auth"] 1
  Json.optional session? "auth" m

/-- A field of a secret; what is not a text is written as a document. -/
def fieldText : Json → String
  | .string s => s
  | j => j.sorted.write

/-- The fields of a secret, below three arrays and objects. -/
def fields? : Json → Option Secret
  | .object members =>
      if members.all fun (_, value) => value.isWhole 3 then
        some (members.foldl (fun s (name, value) => s.insert name (fieldText value)) .empty)
      else none
  | _ => none

/-- The part of a reply that holds a secret, if there is one. -/
def secretReply? (j : Json) : Option (Option Secret) := do
  let m ← j.record? ["data"] 1
  let inner (j : Json) : Option (Option Secret) := do
    let m ← j.record? ["data"] 1
    Json.optional fields? "data" m
  return (← Json.optional inner "data" m).join

/-- The value in a reply to the named request. -/
def valueOf {α : Type} (what : String) (decode? : Json → Option α)
    (reply : Except WireFault WireReply) : Outcome α :=
  let refused {β : Type} (detail : String) : Outcome β := .error (.secretBackend detail)
  match reply with
  | .error f => refused (what ++ " request failed: " ++ f.text)
  | .ok r =>
      if r.isSuccess then
        match r.decode decode? with
        | .ok a => .ok a
        | .error f => refused ("invalid " ++ what ++ " response: " ++ f.text)
      else refused (what ++ " returned " ++ statusText r.status ++ ": " ++ r.bodyText)

/-- A value that a reply has to hold. -/
def present {α : Type} (absence : String) : Option α → Outcome α
  | some a => .ok a
  | none => .error (.secretBackend absence)

/-! ## Calls -/

/-- Sends a request that is answered with a session. -/
def session (d : Draft) (what : String) : Procedure WireCalls (Outcome Session) := do
  return valueOf what sessionReply? (← d.send) >>= present (what ++ " response has no auth data")

/-- Asks for a session. -/
def login (b : BackendAddress) (c : RoleCredentials) : Procedure WireCalls (Outcome Session) :=
  session (b.loginDraft c) "approle login"

/-- Renews the session of a token. -/
def renew (b : BackendAddress) (token : String) (lease : Duration) :
    Procedure WireCalls (Outcome Session) :=
  session (b.renewDraft token lease) "token renewal"

/-- Reads a secret. -/
def read (b : BackendAddress) (token mount path : String) :
    Procedure WireCalls (Outcome Secret) := do
  let reply ← (b.readDraft token mount path).send
  return valueOf "secret read" secretReply? reply >>=
    present ("secret " ++ mount ++ "/" ++ path ++ " not found")

end BackendAddress

end CloudReconciler
