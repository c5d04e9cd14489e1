import CloudReconciler.Json.Record

/-! # Phases — where a resource stands in its lifecycle

    A phase has a name in documents, where the phase before any other is
    the empty text, and a name for readers. -/

namespace CloudReconciler

/-- Where a resource stands in its lifecycle. -/
inductive Phase where
  /-- Nothing has been done for the object yet. -/
  | uninitialized
  /-- The remote resource is being asked for. -/
  | creating
  /-- The remote resource exists and is being prepared. -/
  | provisioning
  /-- The remote resource matches the spec. -/
  | created
  /-- A changed spec is being sent. -/
  | updating
  /-- The remote resource is being removed. -/
  | deleting
  /-- The remote resource is gone. -/
  | deleted
  /-- The lifecycle has given up; neither an edit of the object nor a mark for deletion moves it
      on. -/
  | failed
  deriving DecidableEq, Repr, Inhabited

namespace Phase

/-- All phases in lifecycle order. -/
def all : List Phase :=
  [.uninitialized, .creating, .provisioning, .created, .updating, .deleting, .deleted, .failed]

/-- The name in documents. -/
def wire : Phase → String
  | .uninitialized => ""
  | .creating => "Creating"
  | .provisioning => "Provisioning"
  | .created => "Created"
  | .updating => "Updating"
  | .deleting => "Deleting"
  | .deleted => "Deleted"
  | .failed => "Failed"

/-- The name for readers. -/
def title : Phase → String
  | .uninitialized => "Initializing"
  | p => p.wire

/-- The phase of a name in documents. -/
def ofWire? (name : String) : Option Phase := all.find? (·.wire == name)

theorem ofWire?_wire (p : Phase) : ofWire? p.wire = some p := by
  cases p <;> decide

/-- The phase may not last longer than the policy's timeout. -/
def isTransitioning : Phase → Bool
  | .creating | .provisioning | .updating | .deleting => true
  | _ => false

/-- No step of a lifecycle serves the phase. -/
def isTerminal : Phase → Bool
  | .deleted | .failed => true
  | _ => false

def toJson (p : Phase) : Json := .string p.wire

/-- The phase a document names, where `isNothing` says what the member form may hold. -/
def ofJson? (isNothing : Json → Bool) (j : Json) : Option Phase := (j.case? isNothing).bind ofWire?

end Phase

end CloudReconciler
