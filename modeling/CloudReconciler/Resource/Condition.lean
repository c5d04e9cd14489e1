import CloudReconciler.Json.Record
import CloudReconciler.Time.Rfc3339

/-! # Conditions — observations about a resource

    A condition says whether something holds, why, and since when. -/

namespace CloudReconciler

/-- Whether an observation holds. -/
inductive Verdict where
  | holds
  | fails
  | unknown
  deriving DecidableEq, Repr

namespace Verdict

/-- The verdict of a yes or no. -/
def ofBool (b : Bool) : Verdict := if b then .holds else .fails

/-- The name of a verdict. -/
def wire : Verdict → String
  | .holds => "True"
  | .fails => "False"
  | .unknown => "Unknown"

/-- The verdict when nothing was observed. -/
def default : Verdict := .unknown

def ofWire? (name : String) : Option Verdict := [holds, fails, unknown].find? (·.wire == name)

theorem ofWire?_wire (v : Verdict) : ofWire? v.wire = some v := by
  cases v <;> decide

def toJson (v : Verdict) : Json := .string v.wire

def ofJson? (isNothing : Json → Bool) (j : Json) : Option Verdict :=
  (j.case? isNothing).bind ofWire?

end Verdict

/-- An instant as a document with its exact fraction. -/
def Instant.toJson (t : Instant) : Json := .string (Rfc3339.write t)

/-- The instant a document names. -/
def Instant.ofJson? (j : Json) : Option Instant := j.string?.bind Rfc3339.read?

/-- An observation about a resource. -/
structure Condition where
  /-- What is observed. -/
  kind : String
  verdict : Verdict
  reason : String
  message : String
  /-- When the verdict last changed. -/
  since : Instant
  deriving DecidableEq, Repr

namespace Condition

def toJson (c : Condition) : Json :=
  .object
    [("type", .string c.kind), ("status", c.verdict.toJson), ("reason", .string c.reason),
      ("message", .string c.message), ("lastTransitionTime", c.since.toJson)]

def ofJson? (isNothing : Json → Bool) (j : Json) : Option Condition := do
  let m ← j.record? ["type", "status", "reason", "message", "lastTransitionTime"] 5
  return {
    kind := ← Json.needed Json.string? "type" m
    verdict := ← Json.needed (Verdict.ofJson? isNothing) "status" m
    reason := ← Json.needed Json.string? "reason" m
    message := ← Json.needed Json.string? "message" m
    since := ← Json.needed Instant.ofJson? "lastTransitionTime" m }

end Condition

end CloudReconciler
