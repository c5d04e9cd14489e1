import CloudReconciler.Effect.Procedure
import CloudReconciler.Fault

/-! # Scripts — replies prepared in advance

    Surroundings that answer from a script make an invocation repeatable.
    A line of a script is a reply, a failure, or the cancellation of the
    invocation that asked. -/

namespace CloudReconciler.Scripted

/-- One prepared reply. -/
inductive Line (α : Type) where
  | reply (a : α)
  | fail (f : Fault)
  /-- Cancels the invocation, which gets no reply. -/
  | cancel
  deriving Repr

/-- What a line makes of a call: whether the invocation is cancelled by it, and how the caller
    wakes. -/
def Line.wake {α : Type} : Line α → Bool × Wake (Outcome α)
  | .reply a => (false, .reply (.ok a))
  | .fail f => (false, .reply (.error f))
  | .cancel => (true, .cancelled none)

/-- The next line of a script, or a failure when it has run out, and the lines after it. -/
def next {α : Type} (exhausted : Fault) : List (Line α) → Line α × List (Line α)
  | [] => (.fail exhausted, [])
  | line :: rest => (line, rest)

/-- The detail of the failure of a script that has run out. -/
def noReply : String := "no scripted reply"

end CloudReconciler.Scripted
