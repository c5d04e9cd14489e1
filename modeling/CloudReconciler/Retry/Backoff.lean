import CloudReconciler.Numeric.Binary64
import CloudReconciler.Time.Duration

/-! # Backoff — how long to wait between attempts

    Delays grow by a factor up to a bound.  They are computed on doubles,
    in seconds, and then rounded once to whole nanoseconds, a half to the
    even neighbour.  A delay that is negative or too long for a timer is no
    delay. -/

namespace CloudReconciler

namespace Duration

/-- The span in seconds, as the sum of its whole seconds and its fraction. -/
def toBinary64 (d : Duration) : Binary64 :=
  .add (.ofNat d.seconds) (.div (.ofNat d.subsecond) (.ofNat nanosPerSecond))

/-- A number of seconds rounded to nanoseconds. -/
def ofBinary64? : Binary64 → Option Duration
  | .finite negative mantissa exponent =>
      if mantissa = 0 then some zero
      else if negative then none
      else
        let (n, d) := Binary64.scaled (mantissa * nanosPerSecond) 1 exponent
        let span : Duration := ⟨roundDiv n d⟩
        if span.Representable then some span else none
  | _ => none

end Duration

/-- A schedule of attempts. -/
structure Backoff where
  /-- The number of attempts, 0 for no bound. -/
  maxAttempts : Nat := 0
  /-- The delay after the first failure. -/
  initial : Duration := .ofMillis 500
  /-- The longest delay. -/
  longest : Duration := .ofSeconds 30
  /-- The factor between delays. -/
  multiplier : Binary64 := .ofNat 2
  deriving DecidableEq, Repr

namespace Backoff

/-- The default schedule with a bound on the number of attempts. -/
def ofAttempts (n : Nat) : Backoff := { maxAttempts := n }

/-- The number of growth steps after which delays stay as they are. -/
def mostSteps : Nat := 32

/-- The delay before a retry; the first retry has number 1. -/
def delay? (b : Backoff) (retry : Nat) : Option Duration :=
  let seconds := Binary64.mul b.initial.toBinary64 (b.multiplier.pow (min (retry - 1) mostSteps))
  Duration.ofBinary64? (seconds.least b.longest.toBinary64)

/-- The attempt was the last one. -/
def isLast (b : Backoff) (attempt : Nat) : Bool := 0 < b.maxAttempts && b.maxAttempts ≤ attempt

/-- A delay stretched or shrunk by a factor. -/
def stretch? (delay : Duration) (factor : Binary64) : Option Duration :=
  Duration.ofBinary64? (delay.toBinary64.mul factor)

example : ({} : Backoff).delay? 1 = some (.ofMillis 500) ∧
    ({} : Backoff).delay? 7 = some (.ofSeconds 30) ∧
    ({ multiplier := .neg (.ofNat 2) } : Backoff).delay? 2 = none := by decide +kernel

end Backoff

end CloudReconciler
