import CloudReconciler.Credentials.Token
import CloudReconciler.Http.Wire
import CloudReconciler.Text.Blank

/-! # The identity provider over HTTP — credentials for grants -/

namespace CloudReconciler

open Http

/-- The token endpoint of a realm on an identity server. -/
def realmEndpoint (baseUrl realm : String) : String :=
  Text.trimEndOf '/' baseUrl ++ "/realms/" ++ realm ++ "/protocol/openid-connect/token"

/-- The request that exchanges credentials for a grant. -/
def grantDraft (endpoint : String) (c : ClientCredentials) : Draft where
  method := "POST"
  url := endpoint
  headers := [("content-type", "application/x-www-form-urlencoded")]
  body := some (Utf8.encode (formBody
    [("grant_type", "client_credentials"), ("client_id", c.clientId),
      ("client_secret", c.clientSecret)]))

/-- The grant in a reply of the token endpoint. -/
def grantOf (reply : Except WireFault WireReply) : Outcome TokenGrant :=
  let refused {α : Type} (detail : String) : Outcome α := .error (.authentication detail)
  match reply with
  | .error f => refused ("token request failed: " ++ f.text)
  | .ok r =>
      if r.isSuccess then
        match r.decode TokenGrant.ofJson? with
        | .ok grant => .ok grant
        | .error f => refused ("invalid token response: " ++ f.text)
      else refused ("token endpoint returned " ++ statusText r.status ++ ": " ++ r.bodyText)

/-- Exchanges credentials for a grant. -/
def requestGrant (endpoint : String) (c : ClientCredentials) :
    Procedure WireCalls (Outcome TokenGrant) := do
  return grantOf (← (grantDraft endpoint c).send)

end CloudReconciler
