import CloudReconciler.Credentials.Token
import CloudReconciler.Effect.Procedure

/-! # The token manager — one login at a time, one token per tenant

    `activeToken` serves from the cache alone.  `accessToken` takes the login
    lock, looks into the cache again if it is asked to, and otherwise
    exchanges the tenant's credentials for a grant.  `authenticate` reads
    the tenant's secret first where tenants have their own. -/

namespace CloudReconciler

/-- What the token manager asks of its surroundings. -/
inductive CredentialCall where
  /-- The time. -/
  | now
  /-- Whether the invocation has been cancelled. -/
  | isCancelled
  /-- The cached token of a tenant key. -/
  | cached (key : String)
  /-- Caches a token. -/
  | remember (key : String) (token : CachedToken)
  /-- The credentials of a tenant key, or the default ones. -/
  | credentialsFor (key : String)
  /-- Sets the credentials of a tenant key. -/
  | assign (key : String) (credentials : ClientCredentials)
  /-- Waits for the login lock. -/
  | lock
  /-- Gives the login lock back. -/
  | unlock
  /-- Exchanges credentials for a grant. -/
  | login (credentials : ClientCredentials)
  /-- Reads a secret. -/
  | readSecret (path : String)
  deriving DecidableEq, Repr

/-- Calls of the token manager and their replies. -/
def CredentialCalls : Interface where
  Call := CredentialCall
  Reply
    | .now => Instant
    | .isCancelled => Bool
    | .cached _ => Option CachedToken
    | .remember _ _ => Unit
    | .credentialsFor _ => Option ClientCredentials
    | .assign _ _ => Unit
    | .lock => Wake Unit
    | .unlock => Unit
    | .login _ => Wake (Outcome TokenGrant)
    | .readSecret _ => Outcome Secret

namespace TokenManager

/-- The cached token of a key, if it can be used now. -/
def validToken (key : String) : Procedure CredentialCalls (Option String) :=
  .call .now fun now =>
    .call (.cached key) fun cached =>
      .done ((cached.filter (·.isValidAt now)).map (·.grant.accessToken))

/-- The usable token of a tenant, without any login. -/
def activeToken (tenant : String) : Procedure CredentialCalls (Option String) :=
  validToken (tenantKey tenant)

/-- Sets the credentials of a tenant's next login. -/
def assign (tenant : String) (credentials : ClientCredentials) : Procedure CredentialCalls Unit :=
  .call (.assign (tenantKey tenant) credentials) fun _ => .done ()

/-- Caches a grant and gives out its token. -/
def accept (key : String) (grant : TokenGrant) : Procedure CredentialCalls (Outcome String) :=
  if grant.accessToken = "" then
    .done (.error (.authentication "identity provider returned an empty access token"))
  else
    .call .now fun now =>
      .call (.remember key ⟨grant, now⟩) fun _ => .done (.ok grant.accessToken)

/-- Logs in with the credentials of a key. -/
def login (key : String) : Procedure CredentialCalls (Outcome String) :=
  .call (.credentialsFor key) fun
    | none =>
        .done (.error (.authentication ("no client credentials configured for tenant " ++ key)))
    | some credentials =>
        .call .isCancelled fun
          | true => .done (.error .cancelled)
          | false =>
              .call (.login credentials) fun
                | .cancelled _ => .done (.error .cancelled)
                | .reply (.error f) => .done (.error f)
                | .reply (.ok grant) => accept key grant

/-- What is done while the login lock is held. -/
def locked (checkCache : Bool) (key : String) : Procedure CredentialCalls (Outcome String) :=
  if checkCache then do
    match ← validToken key with
    | some token => return .ok token
    | none => login key
  else login key

/-- A token for the tenant; the cache serves if it is to be looked into and can. -/
def accessToken (checkCache : Bool) (tenant : String) :
    Procedure CredentialCalls (Outcome String) :=
  .call .lock fun
    | .cancelled _ => .done (.error .cancelled)
    | .reply () => do
        let result ← locked checkCache (tenantKey tenant)
        .call .unlock fun _ => .done result

/-- A token for the tenant; where tenants have their own credentials, these are read from the
    tenant's secret before a login. -/
def authenticate (ownSecrets : Bool) (tenant : String) :
    Procedure CredentialCalls (Outcome String) := do
  match ← activeToken tenant with
  | some token => return .ok token
  | none =>
      if ownSecrets then
        .call (.readSecret (tenantKey tenant)) fun secret =>
          match secret >>= ClientCredentials.ofSecret with
          | .error f => .done (.error f)
          | .ok credentials => do
              assign tenant credentials
              accessToken false tenant
      else accessToken true tenant

end TokenManager

end CloudReconciler
