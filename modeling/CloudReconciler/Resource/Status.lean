import CloudReconciler.Resource.Phase
import CloudReconciler.Resource.Condition

/-! # Status — what the engine records about a resource

    Every kind's status holds this record.  `setCondition` keeps one
    condition of a kind, in the place where it first stood, and moves its
    time only when its verdict changes. -/

namespace CloudReconciler

/-- What the engine records about a resource. -/
structure Status where
  phase : Phase := .uninitialized
  /-- Outcome of the last transition. -/
  message : Option String := none
  /-- Identifier of the remote resource. -/
  resourceId : Option String := none
  /-- Generation of the object at the last write. -/
  observedGeneration : Option Int64 := none
  /-- When the phase was entered. -/
  phaseStart : Option Instant := none
  conditions : List Condition := []
  deriving DecidableEq, Repr, Inhabited

namespace Status

/-- The condition that the engine maintains. -/
def synchronizedKind : String := "Synchronized"

/-- A status about which only the phase is known. -/
def ofPhase (phase : Phase) : Status := { phase }

/-- The new condition in the place of the one of its kind, or at the end. -/
def upsert (c : Condition) : List Condition → List Condition
  | [] => [c]
  | old :: rest =>
      if old.kind = c.kind then
        (if old.verdict = c.verdict then { c with since := old.since } else c) :: rest
      else old :: upsert c rest

/-- Inserts the condition or replaces the one of its kind. -/
def setCondition (s : Status) (c : Condition) : Status :=
  { s with conditions := upsert c s.conditions }

/-- The condition of a kind. -/
def condition? (s : Status) (kind : String) : Option Condition :=
  s.conditions.find? (·.kind == kind)

/-- The condition that the engine maintains. -/
def synchronized (s : Status) : Option Condition := s.condition? synchronizedKind

/-- The members of the record. -/
def names : List String :=
  ["phase", "message", "resourceID", "observedGeneration", "phaseStartTime", "conditions"]

/-- The members of a status; absent values and an empty list are left out. -/
def members (s : Status) : List (String × Json) :=
  ("phase", s.phase.toJson) ::
    (Json.member? "message" .string s.message ++
      Json.member? "resourceID" .string s.resourceId ++
      Json.member? "observedGeneration" (fun g => Json.int g.toInt) s.observedGeneration ++
      Json.member? "phaseStartTime" Instant.toJson s.phaseStart ++
      Json.listMember "conditions" Condition.toJson s.conditions)

def toJson (s : Status) : Json := .object s.members

/-- The status a document describes, where `isNothing` says what a case may hold. -/
def ofJson? (isNothing : Json → Bool) (j : Json) : Option Status := do
  let m ← j.record? names 0
  return {
    phase := ← Json.defaulted (Phase.ofJson? isNothing) .uninitialized "phase" m
    message := ← Json.optional Json.string? "message" m
    resourceId := ← Json.optional Json.string? "resourceID" m
    observedGeneration := ← Json.optional Json.int64? "observedGeneration" m
    phaseStart := ← Json.optional Instant.ofJson? "phaseStartTime" m
    conditions := ←
      Json.defaulted (Json.list? (Condition.ofJson? isNothing)) [] "conditions" m }

end Status

end CloudReconciler
