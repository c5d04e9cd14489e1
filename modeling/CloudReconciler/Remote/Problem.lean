import CloudReconciler.Json.Reader
import CloudReconciler.Json.Record
import CloudReconciler.Text.Blank

/-! # Problems — the error envelope of the remote API

    Every reply with an error status carries a problem.  `Problem.ofBody`
    never fails: a body that is no envelope gives the minimal problem of
    its status, and the status is always the one of the reply. -/

namespace CloudReconciler

/-- A message about one field of a request. -/
structure FieldProblem where
  field : String
  message : String
  deriving DecidableEq, Repr

/-- A problem reported by the remote API. -/
structure Problem where
  /-- Identifier of the kind of problem. -/
  kind : String
  title : String
  /-- Status of the reply that carried the problem. -/
  status : UInt16
  errors : List FieldProblem
  traceId : String
  parentId : String
  deriving DecidableEq, Repr

namespace FieldProblem

def toJson (p : FieldProblem) : Json :=
  .object [("field", .string p.field), ("message", .string p.message)]

def ofJson? (j : Json) : Option FieldProblem := do
  let m ← j.record? ["field", "message"] 0
  return ⟨← Json.defaulted Json.string? "" "field" m, ← Json.defaulted Json.string? "" "message" m⟩

end FieldProblem

namespace Problem

/-- The problem of a status about which nothing else is known. -/
def minimal (status : UInt16) : Problem := ⟨"", "Unknown API error", status, [], "", ""⟩

def toJson (p : Problem) : Json :=
  .object
    [("type", .string p.kind), ("title", .string p.title), ("status", .nat p.status.toNat),
      ("errors", .array (p.errors.map FieldProblem.toJson)), ("traceId", .string p.traceId),
      ("parentId", .string p.parentId)]

def ofJson? (j : Json) : Option Problem := do
  let m ← j.record? ["type", "title", "status", "errors", "traceId", "parentId"] 0
  return {
    kind := ← Json.defaulted Json.string? "" "type" m
    title := ← Json.defaulted Json.string? "" "title" m
    status := ← Json.defaulted Json.uint16? 0 "status" m
    errors := ← Json.defaulted (Json.list? FieldProblem.ofJson?) [] "errors" m
    traceId := ← Json.defaulted Json.string? "" "traceId" m
    parentId := ← Json.defaulted Json.string? "" "parentId" m }

/-- The problem that a reply of the given status and body reports. -/
def ofBody (status : UInt16) (body : List UInt8) : Problem :=
  if body.all Text.isBlankByte then minimal status
  else
    match (Json.ofBytes? body).bind ofJson? with
    | some p => { p with status }
    | none => minimal status

@[simp] theorem status_ofBody (status : UInt16) (body : List UInt8) :
    (ofBody status body).status = status := by
  unfold ofBody
  split
  · rfl
  · split <;> rfl

/-- Replies of status 400 and 404 come from resources that are not ready yet. -/
def isNotReady (p : Problem) : Bool := p.status == 400 || p.status == 404

/-- A status from 400 to 499. -/
def isClientError (p : Problem) : Bool := 400 ≤ p.status && p.status < 500

/-- A status from 500 on. -/
def isServerError (p : Problem) : Bool := 500 ≤ p.status

/-- The problem as it appears in messages. -/
def text (p : Problem) : String :=
  "API Error: Type=" ++ p.kind ++ ", Title=" ++ p.title ++ ", Status=" ++ toString p.status.toNat ++
    ", Errors=[" ++ "; ".intercalate (p.errors.map fun e => e.field ++ ": " ++ e.message) ++
    "], TraceId=" ++ p.traceId ++ ", ParentId=" ++ p.parentId

end Problem

end CloudReconciler
