import CloudReconciler.Effect.Procedure
import CloudReconciler.Remote.Exchange

/-! # The gateway — authorized calls to the remote API

    A gateway adds its base URL, the fixed headers and its bearer token to
    a request.  An invocation that has been cancelled sends nothing, and
    one that is cancelled while a reply is pending ends at once. -/

namespace CloudReconciler

/-- What a gateway asks of its surroundings. -/
inductive GatewayCall where
  /-- Whether the invocation has been cancelled. -/
  | isCancelled
  /-- Hands a request to the transport and waits for its reply. -/
  | send (request : Request)

/-- Calls of a gateway and their replies. -/
def GatewayCalls : Interface where
  Call := GatewayCall
  Reply
    | .isCancelled => Bool
    | .send _ => Wake (Outcome Reply)

/-- The remote API as one invocation sees it. -/
structure Gateway where
  baseUrl : String
  token : Option String := none
  deriving DecidableEq, Repr

namespace Gateway

/-- A gateway without token; slashes at the end of the base URL do not count. -/
def ofUrl (url : String) : Gateway := { baseUrl := Text.trimEndOf '/' url }

/-- The same gateway with a token. -/
def authorized (g : Gateway) (token : String) : Gateway := { g with token := some token }

/-- The request that a gateway sends. -/
def request (g : Gateway) (method : Method) (endpoint : String) (body : Option Json) : Request where
  method := method
  url := g.baseUrl ++ endpoint
  headers :=
    [("Content-Type", "application/json"), ("Accept", "*/*")] ++
      (match g.token with
        | some token => [("Authorization", "Bearer " ++ token)]
        | none => [])
  body := body.map Reply.compact

/-- Sends one request; success gives the body of the reply. -/
def perform (g : Gateway) (method : Method) (endpoint : String) (body : Option Json) :
    Procedure GatewayCalls (Outcome (List UInt8)) :=
  if g.baseUrl = "" then .done (.error (.configuration "api gateway url not loaded"))
  else
    .call .isCancelled fun
      | true => .done (.error .cancelled)
      | false =>
          .call (.send (g.request method endpoint body)) fun
            | .cancelled _ => .done (.error .cancelled)
            | .reply (.error f) => .done (.error f)
            | .reply (.ok r) => .done (r.body? method)

/-- The value that the body of a reply describes. -/
def decode {α : Type} (decode? : Json → Option α) (body : List UInt8) : Outcome α :=
  match (Json.ofBytes? body).bind decode? with
  | some a => .ok a
  | none => .error (.serialization "failed to decode response body")

variable {α : Type}

/-- GET; the body must be a document. -/
def get (g : Gateway) (decode? : Json → Option α) (endpoint : String) :
    Procedure GatewayCalls (Outcome α) := do
  return (← g.perform "GET" endpoint none) >>= decode decode?

/-- POST; the body must be a document. -/
def post (g : Gateway) (decode? : Json → Option α) (endpoint : String) (body : Json) :
    Procedure GatewayCalls (Outcome α) := do
  return (← g.perform "POST" endpoint (some body)) >>= decode decode?

/-- PUT; the body is a document or blank. -/
def put (g : Gateway) (decode? : Json → Option α) (endpoint : String) (body : Json) :
    Procedure GatewayCalls (Outcome (Option α)) := do
  return (← g.perform "PUT" endpoint (some body)) >>= fun bytes =>
    if bytes.all Text.isBlankByte then .ok none else (decode decode? bytes).map some

/-- DELETE; the body does not count. -/
def delete (g : Gateway) (endpoint : String) : Procedure GatewayCalls (Outcome Unit) := do
  return (← g.perform "DELETE" endpoint none).map fun _ => ()

end Gateway

end CloudReconciler
