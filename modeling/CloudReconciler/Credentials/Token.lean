import CloudReconciler.Credentials.Secret
import CloudReconciler.Json.Record
import CloudReconciler.Time.Instant

/-! # Tokens — what the identity provider grants and how long it is used

    A token is used until a margin before its nominal end, and `isValidAt`
    is strict: at the end itself the token is no longer used. -/

namespace CloudReconciler

/-- What the identity provider grants. -/
structure TokenGrant where
  accessToken : String
  tokenType : String
  /-- Nominal lifetime in seconds. -/
  expiresIn : UInt64
  deriving DecidableEq, Repr

/-- The grant a document describes. -/
def TokenGrant.ofJson? (j : Json) : Option TokenGrant := do
  let m ← j.record? ["access_token", "token_type", "expires_in"] 1
  return {
    accessToken := ← Json.needed Json.string? "access_token" m
    tokenType := ← Json.defaulted Json.string? "" "token_type" m
    expiresIn := ← Json.defaulted Json.uint64? 0 "expires_in" m }

/-- Seconds before its nominal end after which a token is not used. -/
def tokenMargin : Nat := 10

/-- The longest lifetime in seconds that is believed. -/
def longestLifetime : Nat := UInt32.size - 1

/-- A grant and when it was received. -/
structure CachedToken where
  grant : TokenGrant
  receivedAt : Instant
  deriving DecidableEq, Repr

namespace CachedToken

/-- The nominal end of the token. -/
def expiresAt (t : CachedToken) : Instant :=
  t.receivedAt.addSeconds (min t.grant.expiresIn.toNat longestLifetime)

/-- The end of the token's use. -/
def usableUntil (t : CachedToken) : Instant := t.expiresAt.addSeconds (-tokenMargin)

/-- Clocks hold both ends of the token. -/
def endIsHeld (t : CachedToken) : Bool := t.expiresAt.isHeld && t.usableUntil.isHeld

/-- The token can be used. -/
def isValidAt (t : CachedToken) (now : Instant) : Bool := now < t.usableUntil

end CachedToken

/-- Tokens by tenant key. -/
abbrev TokenCache := Table String CachedToken

/-- The token of a key, if it can be used. -/
def TokenCache.valid? (cache : TokenCache) (key : String) (now : Instant) : Option CachedToken :=
  (cache.find? key).filter (·.isValidAt now)

end CloudReconciler
