import CloudReconciler.Fault
import CloudReconciler.Resource.Basic
import CloudReconciler.Store.Table

/-! # The store in memory — objects of one kind by namespace and name

    An update replaces an object, a status write replaces the status of the
    object that is there.  Both need an object of that name, both are logged
    when they succeed, and a failure that has been armed comes before
    anything else and only once. -/

namespace CloudReconciler

/-- Namespace and name of an object. -/
abbrev ObjectKey := String × String

/-- Where an object is kept. -/
def Resource.key {Spec St : Type} (o : Resource Spec St) : ObjectKey := (o.namespaceText, o.name)

/-- Objects of one kind, the failures to come and the writes that succeeded. -/
structure MemoryStore (Spec St : Type) where
  objects : Table ObjectKey (Resource Spec St) := .empty
  failGet : Option Fault := none
  failUpdate : Option Fault := none
  failStatus : Option Fault := none
  /-- Phase of every status written, oldest first. -/
  phases : List Phase := []
  /-- Finalizers of every object updated, oldest first. -/
  finalizers : List (List String) := []

namespace MemoryStore

variable {Spec St : Type}

instance : Inhabited (MemoryStore Spec St) := ⟨{}⟩

/-- A store in which an object stands in its place. -/
def put (s : MemoryStore Spec St) (o : Resource Spec St) : MemoryStore Spec St :=
  { s with objects := s.objects.insert o.key o }

/-- A store without the object of that key. -/
def remove (s : MemoryStore Spec St) (key : ObjectKey) : MemoryStore Spec St :=
  { s with objects := s.objects.erase key }

/-- The order of keys: by namespace, then by name. -/
def keyLe (a b : ObjectKey) : Bool := a.1 < b.1 || (a.1 == b.1 && decide (a.2 ≤ b.2))

/-- The objects in the order of their keys. -/
def inOrder (s : MemoryStore Spec St) : List (Resource Spec St) :=
  (s.objects.entries.mergeSort fun a b => keyLe a.1 b.1).map Prod.snd

/-- The store with its log emptied. -/
def unlogged (s : MemoryStore Spec St) : MemoryStore Spec St :=
  { s with phases := [], finalizers := [] }

/-- Reads an object. -/
def get (s : MemoryStore Spec St) (key : ObjectKey) :
    Outcome (Option (Resource Spec St)) × MemoryStore Spec St :=
  match s.failGet with
  | some f => (.error f, { s with failGet := none })
  | none => (.ok (s.objects.find? key), s)

/-- Replaces an object. -/
def update (s : MemoryStore Spec St) (o : Resource Spec St) :
    Outcome (Resource Spec St) × MemoryStore Spec St :=
  match s.failUpdate with
  | some f => (.error f, { s with failUpdate := none })
  | none =>
      match s.objects.find? o.key with
      | none => (.error (.notFound o.name), s)
      | some _ =>
          (.ok o,
            { s.put o with finalizers := s.finalizers ++ [o.metadata.finalizerList] })

/-- Replaces the status of an object. -/
def updateStatus [Managed Spec St] (s : MemoryStore Spec St) (o : Resource Spec St) :
    Outcome (Resource Spec St) × MemoryStore Spec St :=
  match s.failStatus with
  | some f => (.error f, { s with failStatus := none })
  | none =>
      match s.objects.find? o.key with
      | none => (.error (.notFound o.name), s)
      | some stored =>
          let written := { stored with status := o.status }
          (.ok written,
            { s with
              objects := s.objects.insert o.key written
              phases := s.phases ++ [o.phase] })

end MemoryStore

end CloudReconciler
