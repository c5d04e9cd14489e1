import CloudReconciler.Proofs.Resource.StatusDocument

/-! # Document forms — which documents tell which value

    Every type of the resources is told by documents in its own way:
    members that have to be there, members that stand for a default when
    they are absent, members that may be null.  The decoders find exactly
    what is told (`decodes`), and what is written for a value tells it
    (`isToldBy_toJson`). -/

namespace CloudReconciler

open Json

namespace Json

variable {α β : Type} {Is : α → Json → Prop} {encode : α → Json} {name : String}
  {members : Members}

/-- Cases are decoded by their names. -/
theorem decodes_wire {isNothing : Json → Bool} {wire : β → String} {ofWire? : String → Option β}
    (h : ∀ name b, ofWire? name = some b ↔ name = wire b) :
    Decodes (fun j => (j.case? isNothing).bind ofWire?) fun b => IsCase isNothing (wire b) := by
  intro b j
  show (j.case? isNothing).bind ofWire? = some b ↔ _
  rw [Option.bind_eq_some_iff]
  constructor
  · rintro ⟨name, hname, hb⟩
    rw [← (h name b).1 hb]
    exact (decodes_case isNothing name j).1 hname
  · intro hcase
    exact ⟨wire b, (decodes_case isNothing _ j).2 hcase, (h _ b).2 rfl⟩

/-- The member of an optional value tells it, and its absence that there is none. -/
theorem tells_member? {a : Option α} (h : IsSingle name members)
    (hlookup : lookup name members = a.map encode)
    (hencode : ∀ x ∈ a, encode x ≠ .null ∧ Is x (encode x)) :
    Tells members name (IsOption Is a) (a = none) := by
  cases a with
  | none => exact tells_of_lookup_none h hlookup rfl
  | some x =>
      obtain ⟨hnull, hx⟩ := hencode x rfl
      exact tells_of_lookup_some h hlookup (.some hnull hx)

theorem isList_map {as : List α} (h : ∀ a ∈ as, Is a (encode a)) :
    IsList Is as (.array (as.map encode)) := by
  refine ⟨_, rfl, ?_⟩
  rw [List.forall₂_map_right_iff, List.forall₂_same]
  exact h

/-- The member of a list tells it, and its absence that the list is empty. -/
theorem tells_listMember {as : List α} (h : IsSingle name members)
    (hlookup : lookup name members =
      if as ≠ [] then some (.array (as.map encode)) else none)
    (hencode : ∀ a ∈ as, Is a (encode a)) :
    Tells members name (IsList Is as) (as = []) := by
  by_cases hnil : as = []
  · rw [if_neg (not_not.2 hnil)] at hlookup
    exact tells_of_lookup_none h hlookup hnil
  · rw [if_pos hnil] at hlookup
    exact tells_of_lookup_some h hlookup (isList_map hencode)

theorem isText_string (s : String) : (Json.string s) ≠ .null ∧ IsText s (.string s) := ⟨nofun, rfl⟩

end Json

/-! ## Single values -/

/-- The document is a text that names the instant. -/
def Instant.IsToldBy (t : Instant) (j : Json) : Prop :=
  ∃ text, j = .string text ∧ Rfc3339.read? text = some t

theorem Instant.decodes : Decodes Instant.ofJson? Instant.IsToldBy := by
  intro t j
  rw [Instant.ofJson?, Option.bind_eq_some_iff]
  exact exists_congr fun text => and_congr_left' (decodes_string text j)

theorem Verdict.decodes (isNothing : Json → Bool) :
    Decodes (Verdict.ofJson? isNothing) fun v => IsCase isNothing v.wire := by
  refine decodes_wire fun name v => ⟨fun h => ?_, fun h => h ▸ Verdict.ofWire?_wire v⟩
  rw [Verdict.ofWire?] at h
  have hfound := List.find?_some h
  exact (beq_iff_eq.1 hfound).symm

theorem Phase.decodes (isNothing : Json → Bool) :
    Decodes (Phase.ofJson? isNothing) fun p => IsCase isNothing p.wire := by
  refine decodes_wire fun name p => ⟨fun h => ?_, fun h => h ▸ Phase.ofWire?_wire p⟩
  rw [Phase.ofWire?] at h
  have hfound := List.find?_some h
  exact (beq_iff_eq.1 hfound).symm

/-! ## Conditions -/

namespace Condition

variable {isNothing : Json → Bool} {c : Condition} {j : Json}

/-- The members of a condition. -/
def names : List String := ["type", "status", "reason", "message", "lastTransitionTime"]

/-- The members give the condition; all of them have to be there. -/
structure IsGivenBy (isNothing : Json → Bool) (c : Condition) (members : Members) : Prop where
  kind : Tells members "type" (IsText c.kind) False
  verdict : Tells members "status" (IsCase isNothing c.verdict.wire) False
  reason : Tells members "reason" (IsText c.reason) False
  message : Tells members "message" (IsText c.message) False
  since : Tells members "lastTransitionTime" c.since.IsToldBy False

/-- The document tells the condition. -/
def IsToldBy (isNothing : Json → Bool) : Condition → Json → Prop :=
  IsRecordOf names 5 (IsGivenBy isNothing)

theorem decodes (isNothing : Json → Bool) : Decodes (ofJson? isNothing) (IsToldBy isNothing) := by
  refine decodes_record (by decide) fun members hsingle c => ?_
  simp only [Option.bind_eq_bind, Option.bind_eq_some_iff, decodes_string.needed_iff (hsingle _),
    (Verdict.decodes isNothing).needed_iff (hsingle _), Instant.decodes.needed_iff (hsingle _)]
  obtain ⟨kind, verdict, reason, message, since⟩ := c
  constructor
  · rintro ⟨_, hkind, _, hverdict, _, hreason, _, hmessage, _, hsince, ⟨⟩⟩
    exact ⟨hkind, hverdict, hreason, hmessage, hsince⟩
  · rintro ⟨hkind, hverdict, hreason, hmessage, hsince⟩
    exact ⟨_, hkind, _, hverdict, _, hreason, _, hmessage, _, hsince, rfl⟩

theorem IsToldBy.isShown_since (h : c.IsToldBy isNothing j) : c.since.IsShown := by
  obtain ⟨members, -, hgiven⟩ := h
  rcases hgiven.since.present_or_absent with ⟨value, text, -, hread⟩ | hnone
  · exact Rfc3339.isShown_of_read? hread
  · exact hnone.elim

theorem isToldBy_toJson (h : c.since.IsShown) : c.IsToldBy isNothing c.toJson :=
  (decodes isNothing c c.toJson).1 (ofJson?_toJson h)

end Condition

/-! ## The engine's record -/

namespace Status

variable {isNothing : Json → Bool} {s : Status} {j : Json}

/-- The members give the status. -/
structure IsGivenBy (isNothing : Json → Bool) (s : Status) (members : Members) : Prop where
  phase : Tells members "phase" (IsCase isNothing s.phase.wire) (s.phase = .uninitialized)
  message : Tells members "message" (IsOption IsText s.message) (s.message = none)
  resourceId : Tells members "resourceID" (IsOption IsText s.resourceId) (s.resourceId = none)
  observedGeneration : Tells members "observedGeneration"
    (IsOption (fun i => IsInteger i.toInt) s.observedGeneration) (s.observedGeneration = none)
  phaseStart : Tells members "phaseStartTime" (IsOption Instant.IsToldBy s.phaseStart)
    (s.phaseStart = none)
  conditions : Tells members "conditions" (IsList (Condition.IsToldBy isNothing) s.conditions)
    (s.conditions = [])

/-- The document tells the status. -/
def IsToldBy (isNothing : Json → Bool) : Status → Json → Prop :=
  IsRecordOf names 0 (IsGivenBy isNothing)

theorem decodes (isNothing : Json → Bool) : Decodes (ofJson? isNothing) (IsToldBy isNothing) := by
  refine decodes_record (by decide) fun members hsingle s => ?_
  simp only [Option.bind_eq_bind, Option.bind_eq_some_iff,
    (Phase.decodes isNothing).defaulted_iff (hsingle _), decodes_string.optional_iff (hsingle _),
    decodes_int64.optional_iff (hsingle _), Instant.decodes.optional_iff (hsingle _),
    (Condition.decodes isNothing).list.defaulted_iff (hsingle _)]
  obtain ⟨phase, message, resourceId, observedGeneration, phaseStart, conditions⟩ := s
  constructor
  · rintro ⟨_, hphase, _, hmessage, _, hresource, _, hgeneration, _, hstart, _, hconditions, ⟨⟩⟩
    exact ⟨hphase, hmessage, hresource, hgeneration, hstart, hconditions⟩
  · rintro ⟨hphase, hmessage, hresource, hgeneration, hstart, hconditions⟩
    exact ⟨_, hphase, _, hmessage, _, hresource, _, hgeneration, _, hstart, _, hconditions, rfl⟩

/-- The times of a status that is told are ones that clocks show. -/
theorem IsToldBy.isDated (h : s.IsToldBy isNothing j) : s.IsDated := by
  obtain ⟨members, -, hgiven⟩ := h
  constructor
  · intro t ht
    rcases hgiven.phaseStart.present_or_absent with ⟨value, hvalue⟩ | hnone
    · rw [ht] at hvalue
      cases hvalue with
      | some _ htold =>
          obtain ⟨text, -, hread⟩ := htold
          exact Rfc3339.isShown_of_read? hread
    · exact nomatch ht.symm.trans hnone
  · intro c hc
    rcases hgiven.conditions.present_or_absent with ⟨value, hlist⟩ | hnil
    · obtain ⟨item, hitem⟩ := hlist.exists_of_mem c hc
      exact hitem.isShown_since
    · exact absurd (hnil ▸ hc) List.not_mem_nil

/-- What is written for a status tells it. -/
theorem isToldBy_toJson (h : s.IsDated) : s.IsToldBy isNothing s.toJson := by
  refine isRecordOf_object s.map_fst_members (by decide) fun hsingle => ?_
  obtain ⟨hphase, hmessage, hresource, hgeneration, hstart, hconditions⟩ := s.lookup_members
  refine ⟨?_, ?_, ?_, ?_, ?_, ?_⟩
  · exact tells_of_lookup_some (hsingle _) hphase (.inl rfl)
  · exact tells_member? (hsingle _) hmessage fun _ _ => isText_string _
  · exact tells_member? (hsingle _) hresource fun _ _ => isText_string _
  · exact tells_member? (hsingle _) hgeneration fun i _ => ⟨nofun, isInteger_int i.toInt⟩
  · refine tells_member? (hsingle _) hstart fun t ht => ⟨nofun, ?_⟩
    exact ⟨_, rfl, Rfc3339.read?_write (h.phaseStart t ht)⟩
  · exact tells_listMember (hsingle _) hconditions fun c hc =>
      Condition.isToldBy_toJson (h.conditions c hc)

end Status

/-! ## Projects -/

namespace ProjectSpec

variable {s : ProjectSpec} {j : Json}

/-- The members of the spec of a project. -/
def names : List String := ["tenant", "description", "tags", "default"]

/-- The members give the spec. -/
structure IsGivenBy (s : ProjectSpec) (members : Members) : Prop where
  tenant : Tells members "tenant" (IsText s.tenant) (s.tenant = "")
  description : Tells members "description" (IsOption IsText s.description) (s.description = none)
  tags : Tells members "tags" (IsList IsText s.tags) (s.tags = [])
  isDefault : Tells members "default" (IsFlag s.isDefault) (s.isDefault = false)

/-- The document tells the spec. -/
def IsToldBy : ProjectSpec → Json → Prop := IsRecordOf names 0 IsGivenBy

theorem decodes : Decodes ofJson? IsToldBy := by
  refine decodes_record (by decide) fun members hsingle s => ?_
  simp only [Option.bind_eq_bind, Option.bind_eq_some_iff, decodes_string.defaulted_iff (hsingle _),
    decodes_string.optional_iff (hsingle _), decodes_string.list.defaulted_iff (hsingle _),
    decodes_bool.defaulted_iff (hsingle _)]
  obtain ⟨tenant, description, tags, isDefault⟩ := s
  constructor
  · rintro ⟨_, htenant, _, hdescription, _, htags, _, hdefault, ⟨⟩⟩
    exact ⟨htenant, hdescription, htags, hdefault⟩
  · rintro ⟨htenant, hdescription, htags, hdefault⟩
    exact ⟨_, htenant, _, hdescription, _, htags, _, hdefault, rfl⟩

/-- The members that the spec of a project writes. -/
def members (s : ProjectSpec) : Members :=
  ("tenant", .string s.tenant) ::
    (member? "description" .string s.description ++ listMember "tags" .string s.tags ++
      [("default", .bool s.isDefault)])

theorem map_fst_members (s : ProjectSpec) : (s.members.map Prod.fst).Sublist names := by
  simp only [members, List.map_cons, List.map_append]
  refine List.Sublist.cons_cons "tenant" ?_
  exact ((map_fst_member? ..).append (map_fst_listMember ..)).append (.refl ["default"])

theorem lookup_members (s : ProjectSpec) :
    lookup "tenant" s.members = some (.string s.tenant) ∧
      lookup "description" s.members = s.description.map .string ∧
      lookup "tags" s.members = (if s.tags ≠ [] then some (strings s.tags) else none) ∧
      lookup "default" s.members = some (.bool s.isDefault) := by
  simp only [members, strings, lookup_cons, lookup_append, lookup_member?, lookup_listMember]
  simp

/-- What is written for the spec of a project tells it. -/
theorem isToldBy_toJson (s : ProjectSpec) : s.IsToldBy s.toJson := by
  refine isRecordOf_object s.map_fst_members (by decide) fun hsingle => ?_
  obtain ⟨htenant, hdescription, htags, hdefault⟩ := s.lookup_members
  refine ⟨?_, ?_, ?_, ?_⟩
  · exact tells_of_lookup_some (hsingle _) htenant rfl
  · exact tells_member? (hsingle _) hdescription fun _ _ => isText_string _
  · exact tells_listMember (hsingle _) htags fun _ _ => rfl
  · exact tells_of_lookup_some (hsingle _) hdefault rfl

end ProjectSpec

/-! ## Volumes -/

namespace Reference

variable {r : Reference} {j : Json}

/-- The members of a reference. -/
def names : List String := ["name", "namespace"]

/-- The members give the reference. -/
structure IsGivenBy (r : Reference) (members : Members) : Prop where
  name : Tells members "name" (IsText r.name) False
  namespace_ : Tells members "namespace" (IsOption IsText r.namespace_) (r.namespace_ = none)

/-- The document tells the reference. -/
def IsToldBy : Reference → Json → Prop := IsRecordOf names 1 IsGivenBy

theorem decodes : Decodes ofJson? IsToldBy := by
  refine decodes_record (by decide) fun members hsingle r => ?_
  simp only [Option.bind_eq_bind, Option.bind_eq_some_iff, decodes_string.needed_iff (hsingle _),
    decodes_string.optional_iff (hsingle _)]
  obtain ⟨name, namespace_⟩ := r
  constructor
  · rintro ⟨_, hname, _, hnamespace, ⟨⟩⟩
    exact ⟨hname, hnamespace⟩
  · rintro ⟨hname, hnamespace⟩
    exact ⟨_, hname, _, hnamespace, rfl⟩

theorem isToldBy_toJson (r : Reference) : r.IsToldBy r.toJson := by
  refine isRecordOf_object (.cons_cons "name" (map_fst_member? ..)) (by decide) fun hsingle => ?_
  have hname : lookup "name" (("name", .string r.name) ::
      member? "namespace" .string r.namespace_) = some (.string r.name) := by
    rw [lookup_cons, lookup_member?]
    rfl
  have hnamespace : lookup "namespace" (("name", .string r.name) ::
      member? "namespace" .string r.namespace_) = r.namespace_.map .string := by
    rw [lookup_cons, lookup_member?]
    exact Option.or_none
  exact ⟨tells_of_lookup_some (hsingle _) hname rfl,
    tells_member? (hsingle _) hnamespace fun _ _ => isText_string _⟩

end Reference

namespace Location

variable {l : Location} {j : Json}

/-- The document tells the location. -/
def IsToldBy : Location → Json → Prop :=
  IsRecordOf ["value"] 1 fun l members => Tells members "value" (IsText l.value) False

theorem decodes : Decodes ofJson? IsToldBy := by
  refine decodes_record (by decide) fun members hsingle l => ?_
  simp only [Option.bind_eq_bind, Option.bind_eq_some_iff, decodes_string.needed_iff (hsingle _)]
  obtain ⟨value⟩ := l
  constructor
  · rintro ⟨_, hvalue, ⟨⟩⟩
    exact hvalue
  · intro hvalue
    exact ⟨_, hvalue, rfl⟩

theorem isToldBy_toJson (l : Location) : l.IsToldBy l.toJson := by
  refine isRecordOf_object (.refl _) (by decide) fun hsingle => ?_
  exact tells_of_lookup_some (hsingle _) rfl rfl

end Location

namespace VolumeSpec

variable {s : VolumeSpec} {j : Json}

/-- The members of the spec of a volume. -/
def names : List String :=
  ["tenant", "tags", "location", "sizeGb", "billingPeriod", "dataCenter", "type", "bootable",
    "image", "projectReference"]

/-- The members give the spec. -/
structure IsGivenBy (s : VolumeSpec) (members : Members) : Prop where
  tenant : Tells members "tenant" (IsText s.tenant) (s.tenant = "")
  tags : Tells members "tags" (IsList IsText s.tags) (s.tags = [])
  location : Tells members "location" s.location.IsToldBy False
  sizeGb : Tells members "sizeGb" (IsInteger s.sizeGb.toInt) False
  billingPeriod : Tells members "billingPeriod" (IsText s.billingPeriod) False
  dataCenter : Tells members "dataCenter" (IsText s.dataCenter) False
  tier : Tells members "type" (IsOption IsText s.tier) (s.tier = none)
  bootable : Tells members "bootable" (IsFlag s.bootable) (s.bootable = false)
  image : Tells members "image" (IsOption IsText s.image) (s.image = none)
  project : Tells members "projectReference" s.project.IsToldBy False

/-- The document tells the spec. -/
def IsToldBy : VolumeSpec → Json → Prop := IsRecordOf names 10 IsGivenBy

theorem decodes : Decodes ofJson? IsToldBy := by
  refine decodes_record (by decide) fun members hsingle s => ?_
  simp only [Option.bind_eq_bind, Option.bind_eq_some_iff, decodes_string.defaulted_iff (hsingle _),
    decodes_string.list.defaulted_iff (hsingle _), Location.decodes.needed_iff (hsingle _),
    decodes_int32.needed_iff (hsingle _), decodes_string.needed_iff (hsingle _),
    decodes_string.optional_iff (hsingle _), decodes_bool.defaulted_iff (hsingle _),
    Reference.decodes.needed_iff (hsingle _)]
  obtain ⟨tenant, tags, location, sizeGb, billingPeriod, dataCenter, tier, bootable, image,
    project⟩ := s
  constructor
  · rintro ⟨_, htenant, _, htags, _, hlocation, _, hsize, _, hbilling, _, hcenter, _, htier, _,
      hbootable, _, himage, _, hproject, ⟨⟩⟩
    exact ⟨htenant, htags, hlocation, hsize, hbilling, hcenter, htier, hbootable, himage, hproject⟩
  · rintro ⟨htenant, htags, hlocation, hsize, hbilling, hcenter, htier, hbootable, himage, hproject⟩
    exact ⟨_, htenant, _, htags, _, hlocation, _, hsize, _, hbilling, _, hcenter, _, htier, _,
      hbootable, _, himage, _, hproject, rfl⟩

/-- The members that the spec of a volume writes. -/
def members (s : VolumeSpec) : Members :=
  ("tenant", .string s.tenant) ::
    (listMember "tags" .string s.tags ++
      [("location", s.location.toJson), ("sizeGb", .int s.sizeGb.toInt),
        ("billingPeriod", .string s.billingPeriod), ("dataCenter", .string s.dataCenter)] ++
      member? "type" .string s.tier ++ [("bootable", .bool s.bootable)] ++
      member? "image" .string s.image ++ [("projectReference", s.project.toJson)])

theorem map_fst_members (s : VolumeSpec) : (s.members.map Prod.fst).Sublist names := by
  simp only [members, List.map_cons, List.map_append, List.map_nil]
  refine List.Sublist.cons_cons "tenant" ?_
  exact (((((map_fst_listMember ..).append
    (.refl ["location", "sizeGb", "billingPeriod", "dataCenter"])).append
    (map_fst_member? ..)).append (.refl ["bootable"])).append
    (map_fst_member? ..)).append (.refl ["projectReference"])

theorem lookup_members (s : VolumeSpec) :
    lookup "tenant" s.members = some (.string s.tenant) ∧
      lookup "tags" s.members = (if s.tags ≠ [] then some (strings s.tags) else none) ∧
      lookup "location" s.members = some s.location.toJson ∧
      lookup "sizeGb" s.members = some (.int s.sizeGb.toInt) ∧
      lookup "billingPeriod" s.members = some (.string s.billingPeriod) ∧
      lookup "dataCenter" s.members = some (.string s.dataCenter) ∧
      lookup "type" s.members = s.tier.map .string ∧
      lookup "bootable" s.members = some (.bool s.bootable) ∧
      lookup "image" s.members = s.image.map .string ∧
      lookup "projectReference" s.members = some s.project.toJson := by
  simp only [members, strings, lookup_cons, lookup_append, lookup_member?, lookup_listMember]
  simp

/-- What is written for the spec of a volume tells it. -/
theorem isToldBy_toJson (s : VolumeSpec) : s.IsToldBy s.toJson := by
  refine isRecordOf_object s.map_fst_members (by decide) fun hsingle => ?_
  obtain ⟨htenant, htags, hlocation, hsize, hbilling, hcenter, htier, hbootable, himage,
    hproject⟩ := s.lookup_members
  refine ⟨?_, ?_, ?_, ?_, ?_, ?_, ?_, ?_, ?_, ?_⟩
  · exact tells_of_lookup_some (hsingle _) htenant rfl
  · exact tells_listMember (hsingle _) htags fun _ _ => rfl
  · exact tells_of_lookup_some (hsingle _) hlocation s.location.isToldBy_toJson
  · exact tells_of_lookup_some (hsingle _) hsize (isInteger_int _)
  · exact tells_of_lookup_some (hsingle _) hbilling rfl
  · exact tells_of_lookup_some (hsingle _) hcenter rfl
  · exact tells_member? (hsingle _) htier fun _ _ => isText_string _
  · exact tells_of_lookup_some (hsingle _) hbootable rfl
  · exact tells_member? (hsingle _) himage fun _ _ => isText_string _
  · exact tells_of_lookup_some (hsingle _) hproject s.project.isToldBy_toJson

end VolumeSpec

namespace VolumeStatus

variable {outer : Nat} {s : VolumeStatus} {j : Json}

/-- The members give the status.  All but the project's are kept until the engine's record is read
    off them, so each has to mean something and to be shallow. -/
structure IsGivenBy (outer : Nat) (s : VolumeStatus) (members : Members) : Prop where
  isSingle : IsSingle "projectID" members
  isWhole : ∀ m ∈ members, m.1 ≠ "projectID" → m.2.isWhole (outer + 1) = true
  record : s.record.IsToldBy isNullOrEmpty (.object members)
  projectId : Tells members "projectID" (IsOption IsText s.projectId) (s.projectId = none)

/-- The document is an object that tells the status. -/
def IsToldBy (outer : Nat) (s : VolumeStatus) (j : Json) : Prop :=
  ∃ members, j = .object members ∧ s.IsGivenBy outer members

theorem decodes (outer : Nat) : Decodes (ofJson? outer) (IsToldBy outer) := by
  intro s j
  cases j with
  | object members =>
      have hgiven : ofJson? outer (.object members) = some s ↔ s.IsGivenBy outer members := by
        rw [ofJson?_object]
        constructor
        · rintro ⟨hsingle, hwhole, hrecord, hproject⟩
          exact ⟨hsingle, hwhole, (Status.decodes _ _ _).1 hrecord,
            (decodes_string.optional_iff hsingle).1 hproject⟩
        · rintro ⟨hsingle, hwhole, hrecord, hproject⟩
          exact ⟨hsingle, hwhole, (Status.decodes _ _ _).2 hrecord,
            (decodes_string.optional_iff hsingle).2 hproject⟩
      rw [hgiven]
      constructor
      · exact fun h => ⟨members, rfl, h⟩
      · rintro ⟨_, ⟨⟩, h⟩
        exact h
  | null | bool _ | number _ | string _ | array _ | unreadable =>
      exact ⟨(fun h => nomatch h), fun ⟨_, h, _⟩ => nomatch h⟩

/-- What is written for the status of a volume tells it, unless it stands too deep. -/
theorem isToldBy_toJson (houter : outer + 3 ≤ depthLimit) (h : s.record.IsDated) :
    s.IsToldBy outer s.toJson := by
  have hsingle := isSingle_of_nodup s.arePlain_members.nodup
  obtain ⟨hproject, hothers⟩ := s.lookup_members
  have hrecord : Status.ofJson? isNullOrEmpty (.object s.members) =
      Status.ofJson? isNullOrEmpty (.object s.record.members) := by
    have hnodup := isSingle_of_nodup s.record.arePlain_members.nodup
    exact Status.ofJson?_object_congr
      (fun name _ => iff_of_true (hsingle name) (hnodup name)) hothers
  refine ⟨s.members, rfl, hsingle _, ?_, ?_, ?_⟩
  · intro m hm hne
    rcases List.mem_append.1 hm with hm | hm
    · exact isWhole_members s.record houter m hm
    · have hname := (map_fst_member? ..).subset (List.mem_map_of_mem hm)
      exact absurd (List.mem_singleton.1 hname) hne
  · refine (Status.decodes isNullOrEmpty _ _).1 (hrecord.trans ?_)
    exact (Status.decodes isNullOrEmpty _ _).2 (Status.isToldBy_toJson h)
  · exact tells_member? (hsingle _) hproject fun _ _ => isText_string _

end VolumeStatus

end CloudReconciler
