import CloudReconciler.Remote.Gateway
import CloudReconciler.Scripted.Line

/-! # The scripted transport — replies of the remote API in the order of requests

    Every request that is sent is logged before its reply is looked up. -/

namespace CloudReconciler.Scripted

/-- A transport that answers from a script. -/
structure Transport where
  script : List (Line CloudReconciler.Reply) := []
  /-- The requests sent, oldest first. -/
  sent : List Request := []

namespace Transport

/-- Answers one request; the flag tells that the invocation is cancelled by the reply. -/
def send (t : Transport) (r : Request) : Bool × Wake (Outcome CloudReconciler.Reply) × Transport :=
  let (line, rest) := next (.transport noReply) t.script
  let (cancelled, wake) := line.wake
  (cancelled, wake, ⟨rest, t.sent ++ [r]⟩)

/-- Answers the calls of a gateway, in a state that knows whether the invocation is cancelled. -/
def answer : (c : GatewayCall) → Bool × Transport → GatewayCalls.Reply c × Bool × Transport
  | .isCancelled, (cancelled, t) => (cancelled, cancelled, t)
  | .send r, (cancelled, t) =>
      let (now, wake, t) := t.send r
      (wake, cancelled || now, t)

end Transport

end CloudReconciler.Scripted
