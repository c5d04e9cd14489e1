import CloudReconciler.Proofs.Resource.StatusDocument
import CloudReconciler.Store.Cluster

/-! # Status patches — a status merged into an object

    The cluster merges the patch that `Cluster.statusPatch` builds into the
    document of the object.  For a status that leaves nothing out of the
    stored one (`StatusForm.Extends`), the result is the document of the
    object with the new status in the place of the old one, and nothing
    else in it has changed. -/

namespace CloudReconciler

variable {Spec St : Type} [Managed Spec St]

/-- How a kind's status stands in documents, as far as merging goes. -/
structure StatusForm (Spec St : Type) [Managed Spec St] [Document St] where
  /-- What the status holds beside the engine's record. -/
  beside : St → Option String
  beside_blank : beside (Managed.blank Spec) = none
  beside_withRecord : ∀ s r, beside (Managed.withRecord Spec s r) = beside s
  encode_object : ∀ s : St, ∃ members, Document.encode s = .object members
  decode_nil : Document.decode? 1 (.object []) = some (Managed.blank Spec)
  merges : ∀ {old new : St} {value : Json}, Document.decode? 1 value = some old →
    (Managed.record Spec new).Covers (Managed.record Spec old) →
    ((beside old).isSome → (beside new).isSome) → (Managed.record Spec new).IsDated →
    Document.decode? 1 (value.mergePatch (Document.encode new)) = some new

/-- The status of projects is the engine's record. -/
def projectForm : StatusForm ProjectSpec Status where
  beside _ := none
  beside_blank := rfl
  beside_withRecord _ _ := rfl
  encode_object _ := ⟨_, rfl⟩
  decode_nil := rfl
  merges hold hcovers _ hdated := Status.ofJson?_mergePatch hold hcovers hdated

/-- The status of volumes holds the remote project as well. -/
def volumeForm : StatusForm VolumeSpec VolumeStatus where
  beside := VolumeStatus.projectId
  beside_blank := rfl
  beside_withRecord _ _ := rfl
  encode_object _ := ⟨_, rfl⟩
  decode_nil := rfl
  merges hold hcovers hbeside hdated :=
    VolumeStatus.ofJson?_mergePatch (by decide) hold ⟨hcovers, hbeside⟩ hdated

section

variable [Document St]

/-- The new status leaves nothing out of the old one, and its times can be read back. -/
structure StatusForm.Extends (f : StatusForm Spec St) (old : Option St) (new : St) : Prop where
  record : ∀ s ∈ old, (Managed.record Spec new).Covers (Managed.record Spec s)
  beside : ∀ s ∈ old, (f.beside s).isSome → (f.beside new).isSome
  dated : (Managed.record Spec new).IsDated

variable {f : StatusForm Spec St} {old : Option St} {new : St}

/-- A status is merged into nothing as into an empty object. -/
theorem StatusForm.merges_null (f : StatusForm Spec St)
    (hdated : (Managed.record Spec new).IsDated) :
    Document.decode? 1 (Json.null.mergePatch (Document.encode new)) = some new := by
  obtain ⟨changes, hchanges⟩ := f.encode_object new
  have hempty : Json.null.mergePatch (Document.encode new) =
      (Json.object []).mergePatch (Document.encode new) := by
    rw [hchanges, Json.mergePatch, Json.mergePatch]
    rfl
  rw [hempty]
  refine f.merges f.decode_nil ?_ ?_ hdated
  · rw [Managed.record_blank]
    exact Status.covers_blank _
  · rw [f.beside_blank]
    intro hsome
    cases hsome

/-- A status is read back after it was merged into the old one. -/
theorem StatusForm.Extends.merges (h : f.Extends old new) {members : Json.Members}
    (hold : Json.optional (Document.decode? 1) "status" members = some old) :
    Document.decode? 1
      (((Json.lookup "status" members).getD .null).mergePatch (Document.encode new)) =
      some new := by
  rw [Json.optional, Json.defaulted] at hold
  cases hlookup : Json.lookup "status" members with
  | none => exact f.merges_null h.dated
  | some value =>
      rw [hlookup] at hold
      cases value with
      | null => exact f.merges_null h.dated
      | bool _ | number _ | string _ | array _ | object _ | unreadable =>
          obtain ⟨st, hst, rfl⟩ := Option.map_eq_some_iff.1 hold
          exact f.merges hst (h.record st rfl) (h.beside st rfl) h.dated

end

namespace Resource

variable [Document Spec] [Document St] {cur p : Resource Spec St} {members : Json.Members}

omit [Managed Spec St] in
/-- An object is read off the members of its document. -/
theorem ofJson?_object :
    ofJson? (.object members) = some cur ↔
      (∀ name ∈ ["metadata", "spec", "status"], Json.IsSingle name members) ∧
      Json.needed (Metadata.ofJson? 1) "metadata" members = some cur.metadata ∧
      Json.needed (Document.decode? 1) "spec" members = some cur.spec ∧
      Json.optional (Document.decode? 1) "status" members = some cur.status := by
  have hstatus : Json.optional (Document.decode? (α := St) 1) "status"
      (members.filter fun m => m.1 ∈ ["metadata", "spec", "status"]) =
        Json.optional (Document.decode? 1) "status" members :=
    Json.optional_congr (Json.lookup_known (by decide))
  have hneeded : ∀ {α : Type} (decode : Json → Option α) {name : String},
      name ∈ ["metadata", "spec", "status"] →
      Json.needed decode name
          (members.filter fun m => m.1 ∈ ["metadata", "spec", "status"]) =
        Json.needed decode name members := fun decode _ hname => by
    rw [Json.needed, Json.needed, Json.lookup_known hname]
  by_cases hsingle : ∀ name ∈ ["metadata", "spec", "status"], Json.IsSingle name members
  · rw [ofJson?, Json.record?_object.2 ⟨hsingle, rfl⟩, and_iff_right hsingle]
    obtain ⟨metadata, spec, status⟩ := cur
    simp only [Option.bind_eq_bind, Option.bind_some, hneeded _ (List.mem_cons_self ..),
      hneeded _ (List.mem_cons_of_mem _ (List.mem_cons_self ..)),
      hstatus, Option.bind_eq_some_iff, Option.pure_def, Option.some.injEq, Resource.mk.injEq]
    constructor
    · rintro ⟨_, hmetadata, _, hspec, _, hstatus, rfl, rfl, rfl⟩
      exact ⟨hmetadata, hspec, hstatus⟩
    · rintro ⟨hmetadata, hspec, hstatus⟩
      exact ⟨_, hmetadata, _, hspec, _, hstatus, rfl, rfl, rfl⟩
  · refine ⟨fun h => absurd ?_ hsingle, fun h => absurd h.1 hsingle⟩
    obtain ⟨known, hrecord, -⟩ := Option.bind_eq_some_iff.1 h
    exact (Json.record?_object.1 hrecord).1

/-- The object that is described after the patch of a status was merged. -/
structure IsPatched (members : Json.Members) (cur p : Resource Spec St) : Prop where
  /-- It has the new status, and metadata and spec as before. -/
  object : ofJson? ((Json.object members).mergePatch (Cluster.statusPatch p)) =
    some { cur with status := p.status }
  /-- No other member of the document has changed. -/
  others : ∀ name, name ≠ "status" →
    ((Json.object members).mergePatch (Cluster.statusPatch p)).get? name =
      (Json.object members).get? name

/-- A status that leaves nothing out of the stored one is merged as if it took its place. -/
theorem isPatched {f : StatusForm Spec St} {new : St}
    (hstored : ofJson? (.object members) = some cur) (hp : p.status = some new)
    (hextends : f.Extends cur.status new) : IsPatched members cur p := by
  obtain ⟨changes, hchanges⟩ := f.encode_object new
  obtain ⟨hsingle, hmetadata, hspec, hstatus⟩ := ofJson?_object.1 hstored
  have hback := hextends.merges hstatus
  rw [hchanges] at hback
  have hmerged : (Json.object members).mergePatch (Cluster.statusPatch p) =
      .object (Json.put "status"
        (((Json.lookup "status" members).getD .null).mergePatch (.object changes)) members) := by
    rw [Cluster.statusPatch, hp, Option.map_some, Option.getD_some, hchanges, Json.mergePatch,
      Json.mergeMembers, Json.mergeMembers]
    · rfl
    · intro heq
      cases heq
  constructor
  · rw [hmerged]
    refine ofJson?_object.2 ⟨fun name hname => Json.isSingle_put (hsingle name hname), ?_, ?_, ?_⟩
    · rw [Json.needed, Json.lookup_put_of_ne (by decide)]
      exact hmetadata
    · rw [Json.needed, Json.lookup_put_of_ne (by decide)]
      exact hspec
    · rw [Json.optional, Json.defaulted, Json.lookup_put_self (hsingle _ (by decide)), hp]
      rw [Json.mergePatch] at hback ⊢
      exact congrArg (Option.map some) hback
  · intro name hname
    rw [hmerged]
    exact Json.lookup_put_of_ne hname

end Resource

end CloudReconciler
