import CloudReconciler.Effect.Procedure
import CloudReconciler.Remote.Exchange
import CloudReconciler.Resource.Basic

/-! # The store in the cluster — objects behind the cluster's API

    Objects are read by GET, replaced by PUT, and their status is merged by
    PATCH.  Replies below 400 are objects; replies from 400 on are failures,
    whose code is taken from the body when it is a failure document. -/

namespace CloudReconciler

/-- A request to the cluster's API. -/
structure ClusterRequest where
  method : Method
  uri : String
  contentType : Option String := none
  body : Option Json := none

/-- Calls of the cluster's API; a call that was not completed has no reply. -/
def ClusterCalls : Interface where
  Call := ClusterRequest
  Reply _ := Option Reply

/-! ## Addresses -/

/-- Characters that may stand in the path of an address. -/
def isPathChar (c : Char) : Bool :=
  c == '!' || ('$' ≤ c && c ≤ ';') || c == '=' || ('@' ≤ c && c ≤ '_') || ('a' ≤ c && c ≤ '~') ||
    c == '"' || '\x7f' < c

/-- Characters that may stand in the query of an address. -/
def isQueryChar (c : Char) : Bool :=
  c == '!' || ('$' ≤ c && c ≤ ';') || c == '=' || ('?' ≤ c && c ≠ '\x7f')

/-- What is sent of an address: path and query, without a fragment. -/
def address? (s : String) : Option String :=
  let (path, rest) := s.toList.span isPathChar
  match rest with
  | [] | '#' :: _ => some (String.ofList path)
  | '?' :: rest =>
      let (query, rest) := rest.span isQueryChar
      match rest with
      | [] | '#' :: _ => some (String.ofList (path ++ '?' :: query))
      | _ => none
  | _ => none

/-! ## Failures -/

/-- What the cluster's API says about a failure. -/
structure ClusterFailure where
  status : String
  message : String
  reason : String
  code : UInt16
  deriving DecidableEq, Repr

namespace ClusterFailure

def ofJson? (j : Json) : Option ClusterFailure := do
  let m ← j.record? ["status", "message", "reason", "code"] 4
  return {
    status := ← Json.needed Json.string? "status" m
    message := ← Json.defaulted Json.string? "" "message" m
    reason := ← Json.defaulted Json.string? "" "reason" m
    code := ← Json.needed Json.uint16? "code" m }

/-- The failure as a fault. -/
def fault (f : ClusterFailure) : Fault := .cluster (some f.code) (f.message ++ ": " ++ f.reason)

end ClusterFailure

/-- The fault of a call without a readable reply. -/
def clusterUnreadable (detail : String) : Fault := .cluster none detail

/-- What a reply says: the document of a success, or a failure; a failure that is not described
    has the status of the reply as its code. -/
def Reply.document (r : Reply) : Except (Option ClusterFailure) Json :=
  match Utf8.decode? r.body with
  | none => .error none
  | some body =>
      if 400 ≤ r.status && r.status < 600 then
        .error (some (((Json.ofText? body).bind ClusterFailure.ofJson?).getD
          ⟨toString r.status.toNat, body, "Failed to parse error data", r.status⟩))
      else
        match Json.ofText? body with
        | some j => .ok j
        | none => .error none

/-! ## Objects -/

/-- The cluster's API as one client sees it. -/
structure Cluster where
  /-- The namespace of objects that name none. -/
  defaultNamespace : String
  deriving DecidableEq, Repr

namespace Cluster

variable {Spec St : Type} [Managed Spec St] [Document Spec] [Document St]

/-- Where an object lives. -/
def objectPath (kind : KindName) (namespace_ name : String) : String :=
  "/apis/" ++ KindName.apiVersion ++ "/namespaces/" ++ namespace_ ++ "/" ++ kind.plural ++ "/" ++ name

/-- Sends a request about a named object and decodes the object that is the reply. -/
def exchange (name : String) (request : String → ClusterRequest) (uri : String) :
    Procedure ClusterCalls (Except (Option ClusterFailure) (Resource Spec St)) :=
  match if name = "" then none else address? uri with
  | none => .done (.error none)
  | some uri =>
      .call (request uri) fun reply =>
        .done <|
          match reply with
          | none => .error none
          | some r => r.document >>= fun j =>
              match Resource.ofJson? j with
              | some o => .ok o
              | none => .error none

/-- The fault of a failure. -/
def fault : Option ClusterFailure → Fault
  | some f => f.fault
  | none => clusterUnreadable "no readable reply"

/-- The object of that name, if it exists. -/
def get (namespace_ name : String) :
    Procedure ClusterCalls (Outcome (Option (Resource Spec St))) := do
  let uri := objectPath (Managed.name Spec) namespace_ name
  match ← exchange name (fun uri => { method := "GET", uri }) uri with
  | .ok o => return .ok (some o)
  | .error f =>
      if f.any (·.reason = "NotFound") then return .ok none else return .error (fault f)

/-- The outcome of a write to the object of that name. -/
def written (name : String) :
    Except (Option ClusterFailure) (Resource Spec St) → Outcome (Resource Spec St)
  | .ok o => .ok o
  | .error f => .error (if f.any (·.code = 404) then .notFound name else fault f)

/-- Where an object is written. -/
def pathOf (c : Cluster) (o : Resource Spec St) : String :=
  objectPath (Managed.name Spec) (o.metadata.namespace_.getD c.defaultNamespace) o.name

/-- Replaces an object. -/
def update (c : Cluster) (o : Resource Spec St) :
    Procedure ClusterCalls (Outcome (Resource Spec St)) := do
  let request (uri : String) : ClusterRequest :=
    { method := "PUT", uri, contentType := some "application/json", body := some o.toJson }
  return written o.name (← exchange o.name request (c.pathOf o ++ "?"))

/-- The name under which statuses are written. -/
def fieldManager : String := "resource-operator"

/-- The document that is merged into an object to write its status. -/
def statusPatch (o : Resource Spec St) : Json :=
  .object [("status", (o.status.map Document.encode).getD .null)]

/-- Merges the status into an object. -/
def updateStatus (c : Cluster) (o : Resource Spec St) :
    Procedure ClusterCalls (Outcome (Resource Spec St)) := do
  let request (uri : String) : ClusterRequest :=
    { method := "PATCH", uri, contentType := some "application/merge-patch+json"
      body := some (statusPatch o) }
  return written o.name
    (← exchange o.name request (c.pathOf o ++ "/status?&fieldManager=" ++ fieldManager))

end Cluster

end CloudReconciler
