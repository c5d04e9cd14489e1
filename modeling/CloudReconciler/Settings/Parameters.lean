import CloudReconciler.Settings.Arguments
import CloudReconciler.Settings.Basic

/-! # Parameters — the settings on the command line -/

namespace CloudReconciler

namespace Settings

/-- A parameter that takes a text, and the variable that stands in for it. -/
def textParameter (name variable_ about : String) : Parameter :=
  { name, kind := .text, about, variable_ := some variable_ }

/-- The parameters of settings. -/
def parameters : List Parameter :=
  [textParameter "api-gateway" "API_GATEWAY" "Base URL of the cloud provider API gateway",
    textParameter "keycloak-url" "KEYCLOAK_URL"
      "Base URL of the Keycloak server issuing access tokens",
    textParameter "realm-api" "REALM_API" "Keycloak realm of the API clients",
    { name := "vault-enabled", kind := .switch, variable_ := some "VAULT_ENABLED"
      about := "Read per-tenant client credentials from the secret backend" },
    textParameter "vault-address" "VAULT_ADDRESS" "Address of the secret backend",
    textParameter "role-namespace" "ROLE_NAMESPACE" "Secret backend namespace",
    { textParameter "role-path" "ROLE_PATH" "Mount path of the AppRole auth method" with
      fallback := some "approle" },
    { textParameter "kv-mount" "KV_MOUNT"
        "Mount path of the KV v2 engine holding tenant credentials" with
      fallback := some "kv" },
    textParameter "role-id" "ROLE_ID" "AppRole role id",
    { textParameter "role-secret" "ROLE_SECRET" "AppRole secret id" with isSecret := true },
    textParameter "client-id" "CLIENT_ID"
      "Static client id used when the secret backend is disabled",
    { textParameter "client-secret" "CLIENT_SECRET"
        "Static client secret used when the secret backend is disabled" with
      isSecret := true },
    { name := "requeue-interval-secs", kind := .number, fallback := some "20"
      about := "Seconds between retries of the same phase" },
    { name := "phase-timeout-secs", kind := .number, fallback := some "300"
      about := "Seconds a transitioning phase may last before the object fails" }]

/-- The parameter that asks for the description. -/
def helpParameter : Parameter :=
  { name := "help", kind := .help, about := "Print help", short := some 'h' }

/-- The value of a parameter, given or not. -/
def valueOf (values : Values) (name : String) : Option String :=
  values.find? name <|> ((parameters.find? (·.name == name)).bind Parameter.fallback)

/-- The settings that values describe. -/
def ofValues (values : Values) : Settings :=
  let text (name : String) : Option String := valueOf values name
  let number (name : String) : UInt64 :=
    match readNumber ((text name).getD "") with
    | .ok n => n
    | .error _ => 0
  { gatewayUrl := text "api-gateway"
    identityUrl := text "keycloak-url"
    realm := text "realm-api"
    backendEnabled := text "vault-enabled" = some "true"
    backendUrl := text "vault-address"
    backendNamespace := text "role-namespace"
    rolePath := text "role-path"
    kvMount := text "kv-mount"
    roleId := text "role-id"
    roleSecret := text "role-secret"
    clientId := text "client-id"
    clientSecret := text "client-secret"
    intervalSeconds := number "requeue-interval-secs"
    timeoutSeconds := number "phase-timeout-secs" }

/-- The settings that a command line and an environment give. -/
def read (words : List String) (environment : List (String × String)) :
    Except ArgumentFault Settings := do
  return ofValues (← CommandLine.read (parameters ++ [helpParameter]) words environment)

end Settings

end CloudReconciler
