import CloudReconciler.Text.Quoted
import CloudReconciler.Credentials.AppRole
import CloudReconciler.Remote.Gateway

/-! # Descriptions — values as a person reads them, without their secrets

    A description names the kind of the value and the members that may be
    seen.  A secret member is mentioned without its text, or left out with
    two points in its place. -/

namespace CloudReconciler

/-- The text that stands for a secret. -/
def hiddenSecret : String := Text.quoted "<redacted>"

/-- The kind of a value and its members, of which `isWhole` says whether they are all there. -/
def description (kind : String) (members : List (String × String)) (isWhole : Bool) : String :=
  kind ++ " \x7b " ++ ", ".intercalate
    (members.map (fun (name, value) => name ++ ": " ++ value) ++ if isWhole then [] else [".."]) ++
    " \x7d"

/-- The tenant's credentials without their secret. -/
def ClientCredentials.description (c : ClientCredentials) : String :=
  CloudReconciler.description "ClientCredentials"
    [("client_id", Text.quoted c.clientId), ("client_secret", hiddenSecret)] true

/-- The engine's credentials without their secret. -/
def RoleCredentials.description (c : RoleCredentials) : String :=
  CloudReconciler.description "AppRoleCredentials"
    [("role_id", Text.quoted c.roleId), ("secret_id", hiddenSecret)] true

/-- The session without its token. -/
def Session.description (s : Session) : String :=
  CloudReconciler.description "AppRoleSession"
    [("lease_ttl", s.lease.text), ("renewable", toString s.renewable)] false

/-- The address of the remote API, and whether requests carry a token. -/
def Gateway.description (g : Gateway) : String :=
  CloudReconciler.description "GatewayClient"
    [("base_url", Text.quoted g.baseUrl), ("authorized", toString g.token.isSome)] true

end CloudReconciler
