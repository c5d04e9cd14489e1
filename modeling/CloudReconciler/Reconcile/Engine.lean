import CloudReconciler.Effect.Procedure
import CloudReconciler.Reconcile.Policy
import CloudReconciler.Remote.Gateway
import CloudReconciler.Resource.Project

/-! # The engine's calls — what an invocation asks of its surroundings

    An invocation reads the clock, asks for a token, reads and writes
    objects in the cluster and sends requests to the remote API. -/

namespace CloudReconciler

/-- A call made while reconciling an object of type `O`. -/
inductive EngineCall (O : Type) where
  /-- The time. -/
  | now
  /-- A token for the tenant. -/
  | authenticate (tenant : String)
  /-- The object of that name, if it exists. -/
  | fetch (namespace_ name : String)
  /-- The project of that name, if it exists. -/
  | fetchProject (namespace_ name : String)
  /-- Replaces metadata and spec; the reply is the object as stored. -/
  | update (o : O)
  /-- Replaces the status; the reply is the object as stored. -/
  | updateStatus (o : O)
  /-- A call of the gateway. -/
  | remote (c : GatewayCall)

/-- Calls of the engine and their replies. -/
def EngineCalls (O : Type) : Interface where
  Call := EngineCall O
  Reply
    | .now => Instant
    | .authenticate _ => Outcome String
    | .fetch _ _ => Outcome (Option O)
    | .fetchProject _ _ => Outcome (Option Project)
    | .update _ => Outcome O
    | .updateStatus _ => Outcome O
    | .remote c => GatewayCalls.Reply c

/-- A computation of the engine. -/
abbrev Engine (O α : Type) := Procedure (EngineCalls O) α

/-- What an invocation comes to, and the object as the invocation knows it. -/
structure Stage (O : Type) where
  result : Outcome Action
  object : O

/-- A procedure of the gateway as part of an invocation. -/
def Engine.remote {O α : Type} (p : Procedure GatewayCalls α) : Engine O α :=
  p.expand fun c => Procedure.ask (I := EngineCalls O) (.remote c)

end CloudReconciler
