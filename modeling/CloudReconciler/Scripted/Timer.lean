import CloudReconciler.Time.Duration

/-! # The virtual timer — waits without time passing

    A timer counts in milliseconds, rounds deadlines up and holds none that
    is further away than its horizon.  A wait lasts unless the caller is
    cancelled before it or at an earlier tick. -/

namespace CloudReconciler.Scripted

/-- The longest wait, of thirty years. -/
def horizon : Duration := .ofSeconds (30 * 365 * 86400)

/-- The tick at which a deadline comes. -/
def tickOf (d : Duration) : Nat := (min d.nanos horizon.nanos + 999999) / 1000000

/-- A wait ends by itself, for a caller that is cancelled beforehand or after some time. -/
def sleeps (cancelled : Bool) (cancelAfter : Option Duration) (d : Duration) : Bool :=
  !cancelled && cancelAfter.all fun c => tickOf d ≤ tickOf c

end CloudReconciler.Scripted
