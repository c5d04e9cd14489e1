import CloudReconciler.Proofs.Json.Written
import CloudReconciler.Proofs.Resource.DocumentForms

/-! # Wire round trips — resources as bytes and back

    The specs and statuses of the resources travel as bytes.  A body is
    read exactly when it is a layout of a document that tells the value, so
    blanks, the order of members, unknown members, absent defaults and
    nulls are settled by `DocumentForms`; and the compact form that is
    written for a value is one of those bodies (`Document.IsFaithful`).

    Times are the one part that the types do not bound: an instant that no
    clock shows has no text.  What is read holds none of these
    (`Rfc3339.isShown_of_read?`), so it is always written back. -/

namespace CloudReconciler

open Json

/-! ## Bodies -/

namespace Document

variable {α : Type} [Document α]

/-- The bytes that are written for a value. -/
def written (a : α) : List UInt8 := (encode a).written

/-- The value that a body is read as, below `outer` arrays and objects. -/
def read? (outer : Nat) (body : List UInt8) : Option α := (ofBytes? body).bind (decode? outer)

/-- Values of the type travel unchanged, where `IsToldBy` says what a document tells. -/
structure IsFaithful (α : Type) [Document α] (outer : Nat) (IsToldBy : α → Json → Prop)
    (times : α → List Instant) : Prop where
  /-- A body is read as a value exactly when it is a layout of a document that tells it. -/
  reads : ∀ body (a : α), read? outer body = some a ↔ IsSpelledBy IsToldBy a body
  /-- What is written for a value is read as the value, if the texts of its times are. -/
  writes : ∀ a : α, (∀ t ∈ times a, Rfc3339.read? (Rfc3339.write t) = some t) →
    read? outer (written a) = some a
  /-- What is written for a value that was read is read as the same and written as the same. -/
  settles : ∀ body (a : α), read? outer body = some a →
    read? outer (written a) = some a ∧
      (read? outer (written a)).map (written (α := α)) = some (written a)

/-- A type is faithful if its decoder finds what is told and what is written tells the value. -/
theorem isFaithful {outer : Nat} {IsToldBy : α → Json → Prop} {times : α → List Instant}
    (hdecode : Decodes (decode? outer) IsToldBy) (hexact : ∀ a : α, (encode a).IsExact)
    (hencode : ∀ a, (∀ t ∈ times a, t.IsShown) → IsToldBy a (encode a))
    (hshown : ∀ a j, IsToldBy a j → ∀ t ∈ times a, t.IsShown) :
    IsFaithful α outer IsToldBy times := by
  have hreads : ∀ body (a : α), read? outer body = some a ↔ IsSpelledBy IsToldBy a body :=
    fun body a => hdecode.ofBytes_iff
  have hwrites : ∀ a : α, (∀ t ∈ times a, t.IsShown) → read? outer (written a) = some a :=
    fun a ha => (hreads _ a).2 (isSpelledBy_written (hexact a) (hencode a ha))
  refine ⟨hreads, fun a ha => ?_, fun body a ha => ?_⟩
  · exact hwrites a fun t ht => Rfc3339.read?_write_iff.1 (ha t ht)
  · obtain ⟨tree, -, htold⟩ := (hreads body a).1 ha
    have hback := hwrites a (hshown a _ htold)
    exact ⟨hback, by rw [hback, Option.map_some]⟩

end Document

/-! ## Everything that is written is exact -/

section

variable {s : Status}

theorem isExact_int {i : Int} (hleast : Int64.minValue.toInt ≤ i)
    (hmost : i ≤ Int64.maxValue.toInt) : (Json.int i).IsExact := by
  have hmin : Int64.minValue.toInt = -2 ^ 63 := rfl
  have hmax : Int64.maxValue.toInt = 2 ^ 63 - 1 := rfl
  refine .number ?_
  rw [Number.ofInt]
  split
  · show i.toNat ≤ 2 ^ 64 - 1
    omega
  · show 0 < i.natAbs ∧ i.natAbs ≤ 2 ^ 63
    omega

theorem isExact_strings (texts : List String) : (Json.array (texts.map .string)).IsExact := by
  refine .array fun j hj => ?_
  obtain ⟨text, -, rfl⟩ := List.mem_map.1 hj
  exact .string

theorem Condition.isExact_toJson (c : Condition) : c.toJson.IsExact := by
  refine .object ?_
  simp only [List.forall_mem_cons]
  exact ⟨.string, .string, .string, .string, .string, nofun⟩

theorem Status.isExact_members (s : Status) : ∀ m ∈ s.members, m.2.IsExact := by
  refine forall_mem_members (fun _ => .string) (fun i => ?_) (.array fun j hj => ?_)
  · exact isExact_int (Int64.le_iff_toInt_le.1 (Int64.minValue_le i))
      (Int64.le_iff_toInt_le.1 (Int64.le_maxValue i))
  · obtain ⟨c, -, rfl⟩ := List.mem_map.1 hj
    exact c.isExact_toJson

theorem VolumeStatus.isExact_toJson (s : VolumeStatus) : s.toJson.IsExact :=
  .object (List.forall_mem_append.2
    ⟨s.record.isExact_members, forall_mem_member? fun _ => .string⟩)

theorem ProjectSpec.isExact_toJson (s : ProjectSpec) : s.toJson.IsExact := by
  have hmembers : ∀ m ∈ s.members, m.2.IsExact := by
    refine List.forall_mem_cons.2 ⟨.string, ?_⟩
    simp only [List.forall_mem_append, List.forall_mem_singleton]
    refine ⟨⟨?_, ?_⟩, .bool⟩
    · exact forall_mem_member? fun _ => .string
    · exact forall_mem_listMember (isExact_strings _)
  exact .object hmembers

theorem VolumeSpec.isExact_toJson (s : VolumeSpec) : s.toJson.IsExact := by
  have hlocation : s.location.toJson.IsExact := .object (List.forall_mem_singleton.2 .string)
  have hproject : s.project.toJson.IsExact :=
    .object (List.forall_mem_cons.2 ⟨.string, forall_mem_member? fun _ => .string⟩)
  have hsize : (Json.int s.sizeGb.toInt).IsExact := by
    have hleast := Int32.le_toInt s.sizeGb
    have hmost := Int32.toInt_lt s.sizeGb
    have hmin : Int64.minValue.toInt = -2 ^ 63 := rfl
    have hmax : Int64.maxValue.toInt = 2 ^ 63 - 1 := rfl
    exact isExact_int (by omega) (by omega)
  have hmembers : ∀ m ∈ s.members, m.2.IsExact := by
    refine List.forall_mem_cons.2 ⟨.string, ?_⟩
    simp only [List.forall_mem_append, List.forall_mem_cons]
    refine ⟨⟨⟨⟨⟨?_, hlocation, hsize, .string, .string, nofun⟩, ?_⟩, .bool, nofun⟩, ?_⟩,
      hproject, nofun⟩
    · exact forall_mem_listMember (isExact_strings _)
    · exact forall_mem_member? fun _ => .string
    · exact forall_mem_member? fun _ => .string
  exact .object hmembers

end

/-! ## Times -/

/-- The times of a status. -/
def Status.times (s : Status) : List Instant := s.phaseStart.toList ++ s.conditions.map (·.since)

theorem Status.isDated_iff {s : Status} : s.IsDated ↔ ∀ t ∈ s.times, t.IsShown := by
  rw [times, List.forall_mem_append, List.forall_mem_map]
  simp only [Option.mem_toList]
  exact ⟨fun h => ⟨h.phaseStart, h.conditions⟩, fun h => ⟨h.1, h.2⟩⟩

/-! ## The four types -/

/-- Specs and statuses of projects and volumes travel unchanged.  A status is written back with its
    times; specs hold none. -/
theorem wire_round_trip {outer : Nat} (houter : outer + 3 ≤ depthLimit) :
    Document.IsFaithful Status outer (Status.IsToldBy isNull) Status.times ∧
    Document.IsFaithful VolumeStatus outer (VolumeStatus.IsToldBy outer) (·.record.times) ∧
    Document.IsFaithful ProjectSpec outer ProjectSpec.IsToldBy (fun _ => []) ∧
    Document.IsFaithful VolumeSpec outer VolumeSpec.IsToldBy (fun _ => []) := by
  refine ⟨?_, ?_, ?_, ?_⟩
  · refine Document.isFaithful (Status.decodes isNull) (fun s => .object s.isExact_members)
      (fun s h => Status.isToldBy_toJson (Status.isDated_iff.2 h)) fun s j h => ?_
    exact Status.isDated_iff.1 h.isDated
  · refine Document.isFaithful (VolumeStatus.decodes outer) VolumeStatus.isExact_toJson
      (fun s h => VolumeStatus.isToldBy_toJson houter (Status.isDated_iff.2 h)) fun s j h => ?_
    obtain ⟨members, -, hgiven⟩ := h
    exact Status.isDated_iff.1 hgiven.record.isDated
  · exact Document.isFaithful ProjectSpec.decodes ProjectSpec.isExact_toJson
      (fun s _ => s.isToldBy_toJson) fun _ _ _ _ ht => nomatch ht
  · exact Document.isFaithful VolumeSpec.decodes VolumeSpec.isExact_toJson
      (fun s _ => s.isToldBy_toJson) fun _ _ _ _ ht => nomatch ht

/-- A volume that is being created, as its status is recorded. -/
def VolumeStatus.underway : VolumeStatus where
  record :=
    { phase := .creating, message := some "a \"new\"\nvolume", observedGeneration := some (-3),
      phaseStart := some ⟨1714557600, 123000000⟩,
      conditions := [⟨"Synchronized", .unknown, "", "é", ⟨1714557599, 1500000000⟩⟩] }
  projectId := some "p-1"

/-- A status with a null, an unknown member and the phase in its long form. -/
def VolumeStatus.sparseBody : List UInt8 :=
  Utf8.encode ("\x7b \"projectID\" : null, \"owner\":[1,\x7b\x7d],\n" ++
    "\"phase\":\x7b\"Created\":null\x7d, \"resourceID\":\"v\\u002d7\"\x7d ")

theorem wire_round_trip_underway :
    0 + 3 ≤ depthLimit ∧
      (∀ t ∈ VolumeStatus.underway.record.times, Rfc3339.read? (Rfc3339.write t) = some t) ∧
      Document.read? 0 (Document.written VolumeStatus.underway) = some VolumeStatus.underway ∧
      Document.read? 0 VolumeStatus.sparseBody =
        some (⟨{ phase := .created, resourceId := some "v-7" }, none⟩ : VolumeStatus) ∧
      Document.read? 0 (Document.written
          (⟨{ phase := .created, resourceId := some "v-7" }, none⟩ : VolumeStatus)) =
        some (⟨{ phase := .created, resourceId := some "v-7" }, none⟩ : VolumeStatus) := by
  have houter : 0 + 3 ≤ depthLimit := by decide
  have htimes : ∀ t ∈ VolumeStatus.underway.record.times,
      Rfc3339.read? (Rfc3339.write t) = some t := by decide +kernel
  have hsparse : Document.read? 0 VolumeStatus.sparseBody =
      some (⟨{ phase := .created, resourceId := some "v-7" }, none⟩ : VolumeStatus) := by
    decide +kernel
  obtain ⟨-, hvolume, -, -⟩ := wire_round_trip houter
  exact ⟨houter, htimes, hvolume.writes _ htimes, hsparse, (hvolume.settles _ _ hsparse).1⟩

end CloudReconciler
