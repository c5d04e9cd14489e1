import CloudReconciler.Http.Wire
import CloudReconciler.Remote.Exchange

/-! # The transport — requests of the gateway over the wire

    Every status is a reply; only a request that could not be sent and a
    body that could not be read are faults. -/

namespace CloudReconciler

open Http

/-- The draft of a request. -/
def Request.draft (r : Request) : Draft := ⟨r.method, r.url, r.headers, r.body⟩

/-- The reply to a request. -/
def Reply.ofWire (reply : Except WireFault WireReply) : Outcome Reply :=
  match reply with
  | .error f => .error (.transport ("failed to execute request: " ++ f.text))
  | .ok r =>
      match r.bytes with
      | .error f => .error (.transport ("failed to read response body: " ++ f.text))
      | .ok body => .ok ⟨r.status, body⟩

/-- Sends a request. -/
def Request.send (r : Request) : Procedure WireCalls (Outcome Reply) := do
  return Reply.ofWire (← r.draft.send)

end CloudReconciler
