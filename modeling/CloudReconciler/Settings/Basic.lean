import CloudReconciler.Credentials.IdentityClient
import CloudReconciler.Credentials.BackendClient
import CloudReconciler.Reconcile.Policy

/-! # Settings — what the engine is told at startup

    Values are used without the blanks around them, and a blank value is a
    missing one.  `Settings.validate` asks for the values that the selected
    mode needs, in a fixed order, so the first one missing is reported. -/

namespace CloudReconciler

/-- What the engine is told at startup. -/
structure Settings where
  /-- Base URL of the remote API. -/
  gatewayUrl : Option String := none
  /-- Base URL of the identity server. -/
  identityUrl : Option String := none
  realm : Option String := none
  /-- Tenants have their own credentials in the secret backend. -/
  backendEnabled : Bool := false
  backendUrl : Option String := none
  backendNamespace : Option String := none
  rolePath : Option String := none
  kvMount : Option String := none
  roleId : Option String := none
  roleSecret : Option String := none
  clientId : Option String := none
  clientSecret : Option String := none
  intervalSeconds : UInt64 := 20
  timeoutSeconds : UInt64 := 300
  deriving DecidableEq, Repr, Inhabited

namespace Settings

/-- A value without the blanks around it; a blank value is none. -/
def present (value : Option String) : Option String := (value.map Text.trim).filter (· ≠ "")

/-- The fault of a missing value. -/
def missing (key : String) : Fault :=
  .configuration ("missing required configuration value: " ++ key)

/-- A value that must be there. -/
def required (value : Option String) (key : String) : Outcome String :=
  match present value with
  | some text => .ok text
  | none => .error (missing key)

/-! ## Derived values -/

/-- The base URL of the remote API. -/
def gateway (s : Settings) : Outcome String := required s.gatewayUrl "api-gateway"

/-- The address of the secret backend. -/
def backendAddress (s : Settings) : Outcome String := required s.backendUrl "vault-address"

/-- The mount of the login method. -/
def loginMount (s : Settings) : Outcome String := required s.rolePath "role-path"

/-- The mount of the tenants' secrets. -/
def secretMount (s : Settings) : Outcome String := required s.kvMount "kv-mount"

/-- The token endpoint of the realm. -/
def tokenEndpoint (s : Settings) : Outcome String := do
  return realmEndpoint (← required s.identityUrl "keycloak-url") (← required s.realm "realm-api")

/-- The credentials for the secret backend. -/
def roleCredentials (s : Settings) : Outcome RoleCredentials := do
  return ⟨← required s.roleId "role-id", ← required s.roleSecret "role-secret"⟩

/-- The credentials of all tenants, if they are given. -/
def clientCredentials (s : Settings) : Option ClientCredentials := do
  return ⟨← present s.clientId, ← present s.clientSecret⟩

/-- The namespace in the secret backend, if one is given. -/
def namespace_ (s : Settings) : Option String := present s.backendNamespace

/-- The timing of the state machine. -/
def policy (s : Settings) : Policy :=
  ⟨.ofSeconds s.intervalSeconds.toNat, .ofSeconds s.timeoutSeconds.toNat⟩

/-! ## Validation -/

/-- The values that the selected mode needs, in the order in which they are asked for. -/
def needs (s : Settings) : List (Option String × String) :=
  [(s.gatewayUrl, "api-gateway"), (s.identityUrl, "keycloak-url"), (s.realm, "realm-api")] ++
    if s.backendEnabled then
      [(s.backendUrl, "vault-address"), (s.rolePath, "role-path"), (s.kvMount, "kv-mount"),
        (s.roleId, "role-id"), (s.roleSecret, "role-secret")]
    else [(s.clientId, "client-id"), (s.clientSecret, "client-secret")]

/-- Every needed value is there, and retries have a distance. -/
def validate (s : Settings) : Outcome Unit := do
  s.needs.forM fun (value, key) => do
    let _ ← required value key
    return ()
  if s.intervalSeconds = 0 then .error (.configuration "requeue-interval-secs must be positive")
  else .ok ()

end Settings

end CloudReconciler
