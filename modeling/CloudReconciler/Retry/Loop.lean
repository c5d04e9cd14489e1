import CloudReconciler.Effect.Procedure
import CloudReconciler.Fault
import CloudReconciler.Retry.Backoff

/-! # The retry loop — attempts until one settles the matter

    An attempt settles the matter when it succeeds, when its fault is not
    retryable or when it is the last one.  A wait that ends by cancellation
    settles it too.  The loop looks at nothing else, so the first attempt is
    always made. -/

namespace CloudReconciler

/-- What the retry loop asks of its surroundings. -/
inductive RetryCall where
  /-- Makes an attempt; the first one has number 1. -/
  | attempt (number : Nat)
  /-- A factor by which to stretch a delay. -/
  | jitter
  /-- Waits; false when the wait was cancelled. -/
  | sleep (delay : Duration)
  deriving DecidableEq, Repr

/-- Calls of the retry loop for a value of the given type. -/
def RetryCalls (α : Type) : Interface where
  Call := RetryCall
  Reply
    | .attempt _ => Outcome α
    | .jitter => Binary64
    | .sleep _ => Bool

/-- How the retry loop ends. -/
inductive RetryEnd (α : Type) where
  | settled (outcome : Outcome α)
  /-- The schedule gave a delay that no timer holds. -/
  | badDelay

namespace Backoff

variable {α : Type}

/-- One attempt and the wait after it; none when the next attempt follows. -/
def once (b : Backoff) (number : Nat) : Procedure (RetryCalls α) (Option (RetryEnd α)) :=
  .call (.attempt number) fun
    | .ok a => .done (some (.settled (.ok a)))
    | .error f =>
        if f.isRetryable = false ∨ b.isLast number = true then .done (some (.settled (.error f)))
        else
          match b.delay? number with
          | none => .done (some .badDelay)
          | some delay =>
              .call .jitter fun factor =>
                match stretch? delay factor with
                | none => .done (some .badDelay)
                | some stretched =>
                    .call (.sleep stretched) fun
                      | true => .done none
                      | false => .done (some (.settled (.error .cancelled)))

/-- Attempts from the given number on, at most as many as the fuel allows. -/
def attempts (b : Backoff) : (fuel number : Nat) → Procedure (RetryCalls α) (Option (RetryEnd α))
  | 0, _ => .done none
  | fuel + 1, number =>
      (b.once number).bind fun
        | some result => .done (some result)
        | none => attempts b fuel (number + 1)

end Backoff

end CloudReconciler
