import CloudReconciler.Fault
import CloudReconciler.Store.Table

/-! # Secrets — client credentials and where they are kept

    A secret is a table of texts.  The credentials of a client are two of
    its fields; when both are missing, the identifier is reported. -/

namespace CloudReconciler

/-- The fields of a secret. -/
abbrev Secret := Table String String

/-- What a client presents to the identity provider. -/
structure ClientCredentials where
  clientId : String
  clientSecret : String
  deriving DecidableEq, Repr

namespace ClientCredentials

/-- A field of a secret; an empty field is a missing one. -/
def field (secret : Secret) (name : String) : Outcome String :=
  match (secret.find? name).filter (· ≠ "") with
  | some value => .ok value
  | none => .error (.secretBackend ("secret is missing field " ++ name))

/-- The credentials kept in a secret. -/
def ofSecret (secret : Secret) : Outcome ClientCredentials := do
  return ⟨← field secret "client-id", ← field secret "client-secret"⟩

end ClientCredentials

/-- The tenant under which objects without tenant are served. -/
def publicTenant : String := "public"

/-- The key of a tenant: of its tokens, of its credentials and of its secret. -/
def tenantKey (tenant : String) : String := if tenant = "" then publicTenant else tenant

end CloudReconciler
