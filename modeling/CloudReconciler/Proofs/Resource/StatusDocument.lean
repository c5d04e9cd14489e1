import CloudReconciler.Proofs.Json.Record
import CloudReconciler.Proofs.Time.Rfc3339
import CloudReconciler.Resource.Volume
import CloudReconciler.Resource.Project

/-! # Status documents — what is read after a status was merged

    A status is written without its absent values, and merged into the
    document of an older one.  What the patch leaves out stays, so the
    merged document says what was written only if nothing that was present
    has become absent (`Status.Covers`).  Times have to be ones that clocks
    show, or their text names no time.

    * `Status.ofJson?_object`, `VolumeStatus.ofJson?_object`: a status is
      read off its document member by member;
    * `Status.ofJson?_mergePatch`, `VolumeStatus.ofJson?_mergePatch`: after
      a merge, the status that was written is read. -/

namespace CloudReconciler

namespace Json

variable {α : Type} {decode : Json → Option α} {encode : α → Json} {name : String}
  {members changes merged : Members}

/-- A list is read back where each of its items is. -/
theorem each?_map {as : List α} (h : ∀ a ∈ as, decode (encode a) = some a) :
    each? decode (as.map encode) = some as := by
  induction as with
  | nil => rfl
  | cons a as ih =>
      obtain ⟨ha, has⟩ := List.forall_mem_cons.1 h
      rw [List.map_cons, each?, ha, ih has]

theorem int64?_int (i : Int64) : int64? (.int i.toInt) = some i :=
  (decodes_int64 i (.int i.toInt)).2 (isInteger_int i.toInt)

theorem lookup_member? (key : String) (encode : α → Json) (a : Option α) :
    lookup name (member? key encode a) = if key = name then a.map encode else none := by
  cases a with
  | none =>
      rw [member?, lookup_nil]
      split <;> rfl
  | some a =>
      rw [member?, lookup_cons, lookup_nil, Option.none_or]
      rfl

theorem lookup_listMember (key : String) (encode : α → Json) (as : List α) :
    lookup name (listMember key encode as) =
      if key = name ∧ as ≠ [] then some (.array (as.map encode)) else none := by
  cases as with
  | nil => simp [listMember]
  | cons a as => simp [listMember, lookup_cons]

theorem defaulted_congr {default : α} (h : lookup name merged = lookup name members) :
    defaulted decode default name merged = defaulted decode default name members := by
  rw [defaulted, defaulted, h]

theorem optional_congr (h : lookup name merged = lookup name members) :
    optional decode name merged = optional decode name members := defaulted_congr h

/-- An optional value is read back where it was merged; an absent one leaves what was there. -/
theorem optional_merged {old new : Option α}
    (hlookup : lookup name merged = (lookup name changes).or (lookup name members))
    (hchange : lookup name changes = new.map encode)
    (hold : optional decode name members = some old) (hkept : old.isSome → new.isSome)
    (hback : ∀ a ∈ new, nullable decode (encode a) = some (some a)) :
    optional decode name merged = some new := by
  rw [hchange] at hlookup
  cases new with
  | none =>
      have hnone : old = none := by
        cases old with
        | none => rfl
        | some a => exact nomatch hkept rfl
      rw [optional_congr hlookup, hold, hnone]
  | some a =>
      rw [optional, defaulted, hlookup]
      exact hback a rfl

/-- The names of optional members are among those that may be there. -/
theorem map_fst_member? (key : String) (encode : α → Json) (a : Option α) :
    ((member? key encode a).map Prod.fst).Sublist [key] := by
  cases a with
  | none => exact List.nil_sublist _
  | some a => exact .refl _

theorem map_fst_listMember (key : String) (encode : α → Json) (as : List α) :
    ((listMember key encode as).map Prod.fst).Sublist [key] := by
  cases as with
  | nil => exact List.nil_sublist _
  | cons a as => exact .refl _

theorem forall_mem_member? {P : Json → Prop} {key : String} {encode : α → Json} {a : Option α}
    (h : ∀ a, P (encode a)) : ∀ m ∈ member? key encode a, P m.2 := by
  cases a with
  | none => exact fun m hm => absurd hm List.not_mem_nil
  | some a => exact List.forall_mem_singleton.2 (h a)

theorem forall_mem_listMember {P : Json → Prop} {key : String} {encode : α → Json} {as : List α}
    (h : P (.array (as.map encode))) : ∀ m ∈ listMember key encode as, P m.2 := by
  cases as with
  | nil => exact fun m hm => absurd hm List.not_mem_nil
  | cons a as => exact List.forall_mem_singleton.2 h

end Json

/-! ## Reading single values back -/

/-- An instant that clocks show is read back. -/
theorem Instant.ofJson?_toJson {t : Instant} (h : t.IsShown) :
    Instant.ofJson? t.toJson = some t := by
  rw [Instant.ofJson?, Instant.toJson, Json.string?, Option.bind_some]
  exact Rfc3339.read?_write h

theorem Verdict.ofJson?_toJson {isNothing : Json → Bool} (v : Verdict) :
    Verdict.ofJson? isNothing v.toJson = some v := by
  rw [Verdict.ofJson?, Verdict.toJson, Json.case?, Option.bind_some]
  exact Verdict.ofWire?_wire v

theorem Phase.ofJson?_toJson {isNothing : Json → Bool} (p : Phase) :
    Phase.ofJson? isNothing p.toJson = some p := by
  rw [Phase.ofJson?, Phase.toJson, Json.case?, Option.bind_some]
  exact Phase.ofWire?_wire p

/-- A condition is read back, if its time is one that clocks show. -/
theorem Condition.ofJson?_toJson {isNothing : Json → Bool} {c : Condition} (h : c.since.IsShown) :
    Condition.ofJson? isNothing c.toJson = some c := by
  have hsince := Instant.ofJson?_toJson h
  have hrecord : c.toJson.record? ["type", "status", "reason", "message", "lastTransitionTime"] 5 =
      some _ := Json.record?_eq_some_iff.2 (.of_sublist (.refl _) (by decide))
  rw [ofJson?, hrecord]
  simp only [Option.bind_eq_bind, Option.bind_some, Json.needed, Json.lookup_cons, Json.lookup_nil]
  simp [hsince, Verdict.ofJson?_toJson, Json.string?]

/-! ## The engine's record -/

namespace Status

/-- Nothing that the old status says is left out of the new one. -/
structure Covers (new old : Status) : Prop where
  message : old.message.isSome → new.message.isSome
  resourceId : old.resourceId.isSome → new.resourceId.isSome
  observedGeneration : old.observedGeneration.isSome → new.observedGeneration.isSome
  phaseStart : old.phaseStart.isSome → new.phaseStart.isSome
  conditions : old.conditions ≠ [] → new.conditions ≠ []

/-- The times in the status are ones that clocks show. -/
structure IsDated (s : Status) : Prop where
  phaseStart : ∀ t ∈ s.phaseStart, t.IsShown
  conditions : ∀ c ∈ s.conditions, c.since.IsShown

variable {isNothing : Json → Bool} {s old new : Status} {name : String}
  {members merged : Json.Members}

/-- There is nothing in a blank status to leave out. -/
theorem covers_blank (s : Status) : s.Covers {} :=
  ⟨nofun, nofun, nofun, nofun, fun h => absurd rfl h⟩

/-- The status that the members of an object describe. -/
structure IsReadOff (isNothing : Json → Bool) (members : Json.Members) (s : Status) : Prop where
  phase : Json.defaulted (Phase.ofJson? isNothing) .uninitialized "phase" members = some s.phase
  message : Json.optional Json.string? "message" members = some s.message
  resourceId : Json.optional Json.string? "resourceID" members = some s.resourceId
  observedGeneration :
    Json.optional Json.int64? "observedGeneration" members = some s.observedGeneration
  phaseStart : Json.optional Instant.ofJson? "phaseStartTime" members = some s.phaseStart
  conditions : Json.defaulted (Json.list? (Condition.ofJson? isNothing)) [] "conditions" members =
    some s.conditions

theorem IsReadOff.congr (hs : IsReadOff isNothing members s)
    (h : ∀ name ∈ names, Json.lookup name merged = Json.lookup name members) :
    IsReadOff isNothing merged s where
  phase := (Json.defaulted_congr (h "phase" (by decide))).trans hs.phase
  message := (Json.optional_congr (h "message" (by decide))).trans hs.message
  resourceId := (Json.optional_congr (h "resourceID" (by decide))).trans hs.resourceId
  observedGeneration :=
    (Json.optional_congr (h "observedGeneration" (by decide))).trans hs.observedGeneration
  phaseStart := (Json.optional_congr (h "phaseStartTime" (by decide))).trans hs.phaseStart
  conditions := (Json.defaulted_congr (h "conditions" (by decide))).trans hs.conditions

theorem isReadOff_congr (h : ∀ name ∈ names, Json.lookup name merged = Json.lookup name members) :
    IsReadOff isNothing merged s ↔ IsReadOff isNothing members s :=
  ⟨fun hs => hs.congr fun name hname => (h name hname).symm, fun hs => hs.congr h⟩

/-- An object describes a status if its known members are not repeated and describe one. -/
theorem ofJson?_object :
    ofJson? isNothing (.object members) = some s ↔
      (∀ name ∈ names, Json.IsSingle name members) ∧ IsReadOff isNothing members s := by
  have hknown : ∀ name ∈ names,
      Json.lookup name (members.filter fun m => m.1 ∈ names) = Json.lookup name members :=
    fun _ hname => Json.lookup_known hname
  rw [← isReadOff_congr hknown]
  by_cases hsingle : ∀ name ∈ names, Json.IsSingle name members
  · rw [ofJson?, Json.record?_object.2 ⟨hsingle, rfl⟩, and_iff_right hsingle]
    obtain ⟨phase, message, resourceId, observedGeneration, phaseStart, conditions⟩ := s
    simp only [Option.bind_eq_bind, Option.bind_some, Option.bind_eq_some_iff, Option.pure_def,
      Option.some.injEq, Status.mk.injEq]
    constructor
    · rintro ⟨_, h₁, _, h₂, _, h₃, _, h₄, _, h₅, _, h₆, rfl, rfl, rfl, rfl, rfl, rfl⟩
      exact ⟨h₁, h₂, h₃, h₄, h₅, h₆⟩
    · rintro ⟨h₁, h₂, h₃, h₄, h₅, h₆⟩
      exact ⟨_, h₁, _, h₂, _, h₃, _, h₄, _, h₅, _, h₆, rfl, rfl, rfl, rfl, rfl, rfl⟩
  · refine ⟨fun h => absurd ?_ hsingle, fun h => absurd h.1 hsingle⟩
    obtain ⟨known, hrecord, -⟩ := Option.bind_eq_some_iff.1 h
    exact (Json.record?_object.1 hrecord).1

theorem ofJson?_object_congr
    (hsingle : ∀ name ∈ names, Json.IsSingle name merged ↔ Json.IsSingle name members)
    (hlookup : ∀ name ∈ names, Json.lookup name merged = Json.lookup name members) :
    ofJson? isNothing (.object merged) = ofJson? isNothing (.object members) := by
  refine Option.ext fun s => ?_
  rw [ofJson?_object, ofJson?_object, isReadOff_congr hlookup]
  exact and_congr_left' (forall₂_congr hsingle)

/-- The members of a status, by name. -/
theorem lookup_members (s : Status) :
    Json.lookup "phase" s.members = some s.phase.toJson ∧
      Json.lookup "message" s.members = s.message.map .string ∧
      Json.lookup "resourceID" s.members = s.resourceId.map .string ∧
      Json.lookup "observedGeneration" s.members =
        s.observedGeneration.map (fun g => .int g.toInt) ∧
      Json.lookup "phaseStartTime" s.members = s.phaseStart.map Instant.toJson ∧
      Json.lookup "conditions" s.members =
        if s.conditions ≠ [] then some (.array (s.conditions.map Condition.toJson)) else none := by
  simp only [members, Json.lookup_cons, Json.lookup_append, Json.lookup_member?,
    Json.lookup_listMember]
  simp

/-- What the members of a status, put over those of an older one, describe is the status. -/
theorem IsReadOff.patched (hold : IsReadOff isNothing members old) (hcovers : new.Covers old)
    (hdated : new.IsDated)
    (hlookup : ∀ name ∈ names,
      Json.lookup name merged = (Json.lookup name new.members).or (Json.lookup name members)) :
    IsReadOff isNothing merged new := by
  obtain ⟨hphase, hmessage, hresource, hgeneration, hstart, hconditions⟩ := new.lookup_members
  constructor
  · rw [Json.defaulted, hlookup "phase" (by decide), hphase]
    exact Phase.ofJson?_toJson new.phase
  · exact Json.optional_merged (hlookup "message" (by decide)) hmessage hold.message
      hcovers.message fun _ _ => rfl
  · exact Json.optional_merged (hlookup "resourceID" (by decide)) hresource hold.resourceId
      hcovers.resourceId fun _ _ => rfl
  · refine Json.optional_merged (hlookup "observedGeneration" (by decide)) hgeneration
      hold.observedGeneration hcovers.observedGeneration fun g _ => ?_
    show (Json.int64? (.int g.toInt)).map some = _
    rw [Json.int64?_int, Option.map_some]
  · refine Json.optional_merged (hlookup "phaseStartTime" (by decide)) hstart hold.phaseStart
      hcovers.phaseStart fun t ht => ?_
    show (Instant.ofJson? t.toJson).map some = _
    rw [Instant.ofJson?_toJson (hdated.phaseStart t ht), Option.map_some]
  · have hlist : Json.list? (Condition.ofJson? isNothing)
        (.array (new.conditions.map Condition.toJson)) = some new.conditions :=
      Json.each?_map fun c hc => Condition.ofJson?_toJson (hdated.conditions c hc)
    rw [Json.defaulted, hlookup "conditions" (by decide), hconditions]
    by_cases hnil : new.conditions = []
    · have hempty : old.conditions = [] := by_contra fun hne => hcovers.conditions hne hnil
      have hleft := hold.conditions
      rw [Json.defaulted, hempty] at hleft
      rw [if_neg (not_not.2 hnil), Option.none_or, hnil]
      exact hleft
    · rw [if_pos hnil]
      exact hlist

/-- What holds of all values that a status writes holds of its members. -/
theorem forall_mem_members {P : Json → Prop} (hstring : ∀ text, P (.string text))
    (hint : ∀ i : Int64, P (.int i.toInt)) (hconditions : P (.array (s.conditions.map Condition.toJson))) :
    ∀ m ∈ s.members, P m.2 := by
  refine List.forall_mem_cons.2 ⟨hstring _, ?_⟩
  refine List.forall_mem_append.2 ⟨?_, Json.forall_mem_listMember hconditions⟩
  refine List.forall_mem_append.2 ⟨?_, Json.forall_mem_member? fun _ => hstring _⟩
  refine List.forall_mem_append.2 ⟨?_, Json.forall_mem_member? fun _ => hint _⟩
  exact List.forall_mem_append.2
    ⟨Json.forall_mem_member? hstring, Json.forall_mem_member? hstring⟩

theorem map_fst_members (s : Status) : (s.members.map Prod.fst).Sublist names := by
  simp only [members, List.map_cons, List.map_append]
  refine List.Sublist.cons_cons "phase" ?_
  exact ((((Json.map_fst_member? ..).append (Json.map_fst_member? ..)).append
    (Json.map_fst_member? ..)).append (Json.map_fst_member? ..)).append
    (Json.map_fst_listMember ..)

theorem arePlain_members (s : Status) : Json.ArePlain s.members where
  plain := forall_mem_members (fun _ => trivial) (fun _ => trivial) trivial
  nodup := s.map_fst_members.nodup (by decide)

/-- What is merged into has members that describe a status which is covered as well: its own, or
    none. -/
theorem exists_members {value : Json} (hold : ofJson? isNothing value = some old)
    (hcovers : new.Covers old) :
    ∃ old', ofJson? isNothing (.object value.membersOrNone) = some old' ∧ new.Covers old' := by
  cases value with
  | object members => exact ⟨old, hold, hcovers⟩
  | null | bool _ | number _ | string _ | array _ | unreadable =>
      exact ⟨{}, rfl, new.covers_blank⟩

/-- A status that is merged into the document of one that it covers is read back. -/
theorem ofJson?_mergePatch {value : Json} (hold : ofJson? isNothing value = some old)
    (hcovers : new.Covers old) (hdated : new.IsDated) :
    ofJson? isNothing (value.mergePatch new.toJson) = some new := by
  obtain ⟨old', hold, hcovers⟩ := exists_members hold hcovers
  obtain ⟨hsingle, hread⟩ := ofJson?_object.1 hold
  have hmem : ∀ m ∈ new.members, m.1 ∈ names := fun m hm =>
    new.map_fst_members.subset (List.mem_map_of_mem hm)
  rw [toJson, Json.mergePatch]
  refine ofJson?_object.2 ⟨fun name hname => ?_, hread.patched hcovers hdated fun name _ => ?_⟩
  · exact Json.isSingle_mergeMembers new.arePlain_members (hsingle name hname)
  · exact Json.lookup_mergeMembers new.arePlain_members (fun m hm => hsingle m.1 (hmem m hm)) name

end Status

/-! ## Volumes -/

namespace VolumeStatus

/-- Nothing that the old status says is left out of the new one. -/
structure Covers (new old : VolumeStatus) : Prop where
  record : new.record.Covers old.record
  projectId : old.projectId.isSome → new.projectId.isSome

variable {outer : Nat} {s old new : VolumeStatus} {stored : Json.Members}

/-- The engine's record is read off the members of the volume's status. -/
theorem ofJson?_others :
    Status.ofJson? Json.isNullOrEmpty (.object (stored.filter fun m => m.1 ≠ "projectID")) =
      Status.ofJson? Json.isNullOrEmpty (.object stored) := by
  have hname : ∀ name ∈ Status.names, decide (name ≠ "projectID") = true := by decide
  refine Status.ofJson?_object_congr (fun name h => ?_) fun name h => ?_
  · exact Json.isSingle_filter (p := fun key => decide (key ≠ "projectID")) (hname name h)
  · exact Json.lookup_filter (p := fun key => decide (key ≠ "projectID")) (hname name h)

theorem ofJson?_object :
    ofJson? outer (.object stored) = some s ↔
      Json.IsSingle "projectID" stored ∧
      (∀ m ∈ stored, m.1 ≠ "projectID" → m.2.isWhole (outer + 1) = true) ∧
      Status.ofJson? Json.isNullOrEmpty (.object stored) = some s.record ∧
      Json.optional Json.string? "projectID" stored = some s.projectId := by
  have hown : Json.lookup "projectID" (stored.filter fun m => m.1 = "projectID") =
      Json.lookup "projectID" stored :=
    Json.lookup_filter (p := fun key => decide (key = "projectID")) rfl
  have hlength : (stored.filter fun m => m.1 = "projectID").length =
      (stored.map Prod.fst).count "projectID" := by
    rw [List.count_eq_countP, List.countP_map, List.countP_eq_length_filter]
    rfl
  have hallowed : (decide (1 < (stored.map Prod.fst).count "projectID") ||
        !(stored.filter fun m => m.1 ≠ "projectID").all fun m => m.2.isWhole (outer + 1)) = false ↔
      Json.IsSingle "projectID" stored ∧
        ∀ m ∈ stored, m.1 ≠ "projectID" → m.2.isWhole (outer + 1) = true := by
    rw [Bool.or_eq_false_iff, decide_eq_false_iff_not, Nat.not_lt, Bool.not_eq_false',
      List.all_eq_true]
    refine and_congr Iff.rfl (forall_congr' fun m => ?_)
    rw [List.mem_filter, decide_eq_true_iff, and_imp]
  rw [ofJson?]
  simp only
  rw [ofJson?_others, hlength, ← and_assoc, ← hallowed, Json.optional_congr hown]
  split
  · next hrefused =>
    rw [hrefused]
    exact ⟨(fun h => nomatch h), fun h => nomatch h.1⟩
  · next hrefused =>
    obtain ⟨record, projectId⟩ := s
    rw [Bool.not_eq_true] at hrefused
    rw [hrefused, and_iff_right rfl]
    simp only [Option.bind_eq_bind, Option.bind_eq_some_iff, Option.pure_def, Option.some.injEq,
      VolumeStatus.mk.injEq]
    constructor
    · rintro ⟨_, hrecord, _, hproject, rfl, rfl⟩
      exact ⟨hrecord, hproject⟩
    · rintro ⟨hrecord, hproject⟩
      exact ⟨_, hrecord, _, hproject, rfl, rfl⟩

theorem depth_conditions (cs : List Condition) :
    Json.depthItems (cs.map Condition.toJson) ≤ 1 := by
  induction cs with
  | nil => exact Nat.zero_le _
  | cons c cs ih =>
      rw [List.map_cons, Json.depthItems]
      exact Nat.max_le.2 ⟨Nat.le_refl _, ih⟩

theorem readable_conditions (cs : List Condition) :
    Json.readableItems (cs.map Condition.toJson) = true := by
  induction cs with
  | nil => rfl
  | cons c cs ih =>
      rw [List.map_cons, Json.readableItems, ih]
      rfl

/-- The values of the engine's record are shallow enough to be kept whole. -/
theorem isWhole_members (r : Status) (houter : outer + 2 ≤ Json.depthLimit) :
    ∀ m ∈ r.members, m.2.isWhole outer = true := by
  have hscalar : outer + 0 ≤ Json.depthLimit := by omega
  refine Status.forall_mem_members (P := fun j => j.isWhole outer = true)
    (fun _ => ?_) (fun _ => ?_) ?_
  · exact Bool.and_eq_true_iff.2 ⟨rfl, decide_eq_true hscalar⟩
  · exact Bool.and_eq_true_iff.2 ⟨rfl, decide_eq_true hscalar⟩
  · have hdepth := depth_conditions r.conditions
    refine Bool.and_eq_true_iff.2 ⟨readable_conditions r.conditions, decide_eq_true ?_⟩
    rw [Json.depth]
    omega

/-! ### Merging -/

/-- The members that a volume's status writes. -/
def members (s : VolumeStatus) : Json.Members :=
  s.record.members ++ Json.member? "projectID" .string s.projectId

theorem map_fst_members (s : VolumeStatus) :
    (s.members.map Prod.fst).Sublist (Status.names ++ ["projectID"]) := by
  rw [members, List.map_append]
  exact s.record.map_fst_members.append (Json.map_fst_member? ..)

theorem arePlain_members (s : VolumeStatus) : Json.ArePlain s.members where
  plain := List.forall_mem_append.2
    ⟨s.record.arePlain_members.plain, Json.forall_mem_member? fun _ => trivial⟩
  nodup := s.map_fst_members.nodup (by decide)

/-- The two parts of a volume's status have names of their own. -/
theorem lookup_members (s : VolumeStatus) :
    Json.lookup "projectID" s.members = s.projectId.map .string ∧
      ∀ name ∈ Status.names, Json.lookup name s.members = Json.lookup name s.record.members := by
  have hnone : Json.lookup "projectID" s.record.members = none :=
    Json.lookup_eq_none fun hmem =>
      absurd (s.record.map_fst_members.subset hmem) (by decide)
  refine ⟨?_, fun name hname => ?_⟩
  · rw [members, Json.lookup_append, Json.lookup_member?, if_pos rfl, hnone, Option.or_none]
  · have hne : "projectID" ≠ name := by
      rintro rfl
      exact absurd hname (by decide)
    rw [members, Json.lookup_append, Json.lookup_member?, if_neg hne, Option.none_or]

/-- A volume's status that is merged into the document of one that it covers is read back. -/
theorem ofJson?_mergePatch {value : Json} (houter : outer + 3 ≤ Json.depthLimit)
    (hold : ofJson? outer value = some old) (hcovers : new.Covers old)
    (hdated : new.record.IsDated) : ofJson? outer (value.mergePatch new.toJson) = some new := by
  cases value with
  | null | bool _ | number _ | string _ | array _ | unreadable => exact nomatch hold
  | object stored =>
      obtain ⟨hown, hwhole, hrecord, hproject⟩ := ofJson?_object.1 hold
      obtain ⟨hsingle, hread⟩ := Status.ofJson?_object.1 hrecord
      obtain ⟨hprojectId, hothers⟩ := new.lookup_members
      have hplain := new.arePlain_members
      have hwritten : ∀ m ∈ new.members, Json.IsSingle m.1 stored := fun m hm => by
        have hname := new.map_fst_members.subset (List.mem_map_of_mem hm)
        rcases List.mem_append.1 hname with hname | hname
        · exact hsingle m.1 hname
        · exact List.mem_singleton.1 hname ▸ hown
      have hlookup := Json.lookup_mergeMembers hplain hwritten
      rw [toJson, ← members, Json.mergePatch]
      refine ofJson?_object.2 ⟨Json.isSingle_mergeMembers hplain hown, ?_, ?_, ?_⟩
      · intro m hm hne
        rcases Json.mem_mergeMembers hplain hm with hm | hm
        · exact hwhole m hm hne
        · rcases List.mem_append.1 hm with hm | hm
          · exact isWhole_members new.record houter m hm
          · have hname := (Json.map_fst_member? ..).subset (List.mem_map_of_mem hm)
            exact absurd (List.mem_singleton.1 hname) hne
      · refine Status.ofJson?_object.2 ⟨fun name hname => ?_, ?_⟩
        · exact Json.isSingle_mergeMembers hplain (hsingle name hname)
        · refine hread.patched hcovers.record hdated fun name hname => ?_
          rw [← hothers name hname]
          exact hlookup name
      · exact Json.optional_merged (hlookup "projectID") hprojectId hproject hcovers.projectId
          fun _ _ => rfl

end VolumeStatus

end CloudReconciler
