import CloudReconciler.Proofs.Interleaving
import CloudReconciler.Scripted.Desk

/-! # The state of a token manager — two maps and a lock

    What callers of one token manager share are the cached tokens, the
    credentials that were assigned to tenants, and the login lock.
    `Answers` says what each call reads and writes there.  Clocks,
    cancellations, the identity provider and the store of secrets answer
    anything at all and leave the state alone.  The scripted desk is one
    such manager (`Desk.answers`). -/

namespace CloudReconciler

/-- What the callers of a token manager share. -/
structure ManagerState where
  cache : TokenCache := .empty
  assigned : Table String ClientCredentials := .empty
  /-- Somebody holds the login lock. -/
  isLocked : Bool := false

/-- The replies that a call can get in a state, and the state after it; `fallback` are the
    credentials of tenants that have none assigned.  A caller that is cancelled while it waits for
    the lock does not get it. -/
def ManagerState.Answers (fallback : Option ClientCredentials) : (c : CredentialCall) →
    ManagerState → CredentialCalls.Reply c → ManagerState → Prop
  | .now, s, _, t => t = s
  | .isCancelled, s, _, t => t = s
  | .cached key, s, reply, t => reply = s.cache.find? key ∧ t = s
  | .remember key token, s, _, t => t = { s with cache := s.cache.insert key token }
  | .credentialsFor key, s, reply, t => reply = (s.assigned.find? key <|> fallback) ∧ t = s
  | .assign key credentials, s, _, t => t = { s with assigned := s.assigned.insert key credentials }
  | .lock, s, .reply (), t => s.isLocked = false ∧ t = { s with isLocked := true }
  | .lock, s, .cancelled _, t => t = s
  | .unlock, s, _, t => t = { s with isLocked := false }
  | .login _, s, _, t => t = s
  | .readSecret _, s, _, t => t = s

namespace Scripted.Desk

/-- The part of a desk that the callers share. -/
def shared (d : Desk) : ManagerState := ⟨d.cache, d.assigned, d.isLocked⟩

theorem login_leaves (credentials : ClientCredentials) (d : Desk) :
    (d.login credentials).2.shared = d.shared ∧
      (d.login credentials).2.fallback = d.fallback := by
  rw [login]
  split
  · exact ⟨rfl, rfl⟩
  · exact ⟨rfl, rfl⟩

theorem readSecret_leaves (path : String) (d : Desk) :
    (d.readSecret path).2.shared = d.shared ∧ (d.readSecret path).2.fallback = d.fallback := by
  rw [readSecret]
  dsimp only
  split
  · exact ⟨rfl, rfl⟩
  · exact ⟨rfl, rfl⟩
  · exact ⟨rfl, rfl⟩

/-- A desk answers every call that does not have to wait as a token manager, and keeps the default
    credentials. -/
theorem answers (c : CredentialCall) (d : Desk) (h : waits c true d = false) :
    d.shared.Answers d.fallback c (answer c d).1 (answer c d).2.shared ∧
      (answer c d).2.fallback = d.fallback := by
  cases c with
  | now | isCancelled | remember _ _ | assign _ _ | unlock => exact ⟨rfl, rfl⟩
  | cached key => exact ⟨⟨rfl, rfl⟩, rfl⟩
  | credentialsFor key => exact ⟨⟨rfl, rfl⟩, rfl⟩
  | login credentials => exact login_leaves credentials d
  | readSecret path => exact readSecret_leaves path d
  | lock =>
      rw [answer]
      cases hc : d.cancelled with
      | true => exact ⟨rfl, rfl⟩
      | false =>
          rw [waits, hc, Bool.not_false, Bool.and_true] at h
          exact ⟨⟨h, rfl⟩, rfl⟩

end Scripted.Desk

end CloudReconciler
