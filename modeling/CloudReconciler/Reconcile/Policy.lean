import CloudReconciler.Time.Instant

/-! # Policy — when to try again and when to give up

    Retries of one phase stand on a grid: the multiples of the interval,
    counted from the start of the phase.  `gridDelay` gives the way to the
    next point of the grid, and nothing when the phase stands on one. -/

namespace CloudReconciler

/-- Timing of the state machine. -/
structure Policy where
  /-- Distance between retries of one phase. -/
  interval : Duration
  /-- Longest time that a transitioning phase may last. -/
  timeout : Duration
  deriving DecidableEq, Repr

/-- Retries every 20 seconds, for up to 300 seconds. -/
def Policy.default : Policy := ⟨.ofSeconds 20, .ofSeconds 300⟩

/-- What happens after an invocation. -/
inductive Action where
  /-- Nothing, until the object changes. -/
  | awaitChange
  /-- Another invocation after the delay. -/
  | requeue (delay : Duration)
  deriving DecidableEq, Repr

/-- Longest wait in nanoseconds that a timer takes. -/
def longestWait : Nat := UInt64.size - 1

/-- The way from `elapsed` to the next multiple of `interval`; none if there is no way to go, no
    grid, or if it is longer than a timer takes. -/
def gridDelay (elapsed interval : Duration) : Option Duration :=
  if interval.nanos = 0 then none
  else
    let into := elapsed.nanos % interval.nanos
    if into = 0 then none
    else
      let wait := interval.nanos - into
      if wait ≤ longestWait then some ⟨wait⟩ else none

end CloudReconciler
