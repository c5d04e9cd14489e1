import CloudReconciler.Proofs.Json.Members
import CloudReconciler.Proofs.Json.Tree
import Mathlib.Data.List.Forall2

/-! # What records tell — decoders as relations

    What a document says is told without decoding it: `IsRecord` gives the
    members that count, `Tells` what the member of a name says, or what
    follows from its absence, and `IsText`, `IsInteger`, `IsList` and so on
    what a single value says.  `Decodes` ties a decoder to what it finds.
    The order of the members and all members of other names drop out here,
    so the decoder of a record is said by one clause for each member.

    A body is decoded to what the document that it spells says, whatever
    stands between its tokens (`IsSpelledBy`). -/

namespace CloudReconciler.Json

variable {α : Type} {decode : Json → Option α} {Is : α → Json → Prop} {a default : α}
  {j value : Json} {name : String} {members : Members} {names : List String} {atLeast : Nat}
  {IsTold : Json → Prop} {absent : Prop}

/-- The decoder finds the values that a document says. -/
def Decodes (decode : Json → Option α) (Is : α → Json → Prop) : Prop :=
  ∀ a value, decode value = some a ↔ Is a value

/-! ## The members of a record -/

/-- The members that a record is read from. -/
inductive IsRecord (names : List String) (atLeast : Nat) : Json → Members → Prop
  /-- An object that repeats no known name; members of other names do not count. -/
  | named {members : Members} : (∀ name ∈ names, IsSingle name members) →
      IsRecord names atLeast (.object members) (members.filter fun m => m.1 ∈ names)
  /-- The values of the first members in a row. -/
  | listed {items : List Json} : atLeast ≤ items.length → items.length ≤ names.length →
      IsRecord names atLeast (.array items) (names.zip items)

theorem record?_eq_some_iff : j.record? names atLeast = some members ↔
    IsRecord names atLeast j members := by
  constructor
  · intro h
    cases j with
    | object known =>
        obtain ⟨hsingle, rfl⟩ := record?_object.1 h
        exact .named hsingle
    | array items =>
        obtain ⟨⟨hleast, hmost⟩, heq⟩ := Option.ite_none_right_eq_some.1 h
        cases heq
        exact .listed hleast hmost
    | null | bool _ | number _ | string _ | unreadable => exact nomatch h
  · intro h
    cases h with
    | named hsingle => exact record?_object.2 ⟨hsingle, rfl⟩
    | listed hleast hmost => exact if_pos ⟨hleast, hmost⟩

theorem isSingle_of_nodup (h : (members.map Prod.fst).Nodup) (name : String) :
    IsSingle name members :=
  List.nodup_iff_count_le_one.1 h name

/-- All members of an object count if they are known ones, each under a name of its own. -/
theorem IsRecord.of_sublist (h : (members.map Prod.fst).Sublist names) (hnames : names.Nodup) :
    IsRecord names atLeast (.object members) members := by
  have hsingle := isSingle_of_nodup (hnames.sublist h)
  refine record?_eq_some_iff.1 (record?_object.2 ⟨fun name _ => hsingle name, ?_⟩)
  exact List.filter_eq_self.2 fun m hm => decide_eq_true (h.subset (List.mem_map_of_mem hm))

/-- No name counts twice. -/
theorem IsRecord.isSingle (h : IsRecord names atLeast j members) (hnames : names.Nodup)
    (name : String) : IsSingle name members := by
  refine isSingle_of_nodup ?_ name
  cases h with
  | named hsingle => exact nodup_known.2 hsingle
  | @listed items _ hmost =>
      rw [List.zip_eq_zip_take_min, List.map_fst_zip (by simp only [List.length_take]; omega)]
      exact hnames.sublist (List.take_sublist ..)

/-- The document is a record of which the members give the value. -/
def IsRecordOf (names : List String) (atLeast : Nat) (Given : α → Members → Prop) (a : α)
    (j : Json) : Prop :=
  ∃ members, IsRecord names atLeast j members ∧ Given a members

/-- A decoder of records is told by what it makes of the members. -/
theorem decodes_record {read : Members → Option α} {Given : α → Members → Prop}
    (hnames : names.Nodup)
    (h : ∀ members, (∀ name, IsSingle name members) →
      ∀ a, read members = some a ↔ Given a members) :
    Decodes (fun j => (j.record? names atLeast).bind read) (IsRecordOf names atLeast Given) := by
  intro a j
  show (j.record? names atLeast).bind read = some a ↔ _
  simp only [Option.bind_eq_some_iff, record?_eq_some_iff]
  exact exists_congr fun members => and_congr_right fun hrecord =>
    h members (hrecord.isSingle hnames) a

/-- An object of known members, each under a name of its own, is a record of what they give. -/
theorem isRecordOf_object {Given : α → Members → Prop} (h : (members.map Prod.fst).Sublist names)
    (hnames : names.Nodup) (hgiven : (∀ name, IsSingle name members) → Given a members) :
    IsRecordOf names atLeast Given a (.object members) :=
  ⟨members, .of_sublist h hnames, hgiven (isSingle_of_nodup (hnames.sublist h))⟩

/-! ## Members by name -/

theorem lookup_eq_some_iff (h : IsSingle name members) :
    lookup name members = some value ↔ (name, value) ∈ members := by
  induction members with
  | nil => exact ⟨(fun heq => nomatch heq), fun hmem => nomatch hmem⟩
  | cons m rest ih =>
      obtain ⟨key, first⟩ := m
      rw [IsSingle, List.map_cons, List.count_cons] at h
      have hrest : IsSingle name rest := Nat.le_trans (Nat.le_add_right _ _) h
      rw [lookup_cons, List.mem_cons]
      by_cases hname : key = name
      · -- the name does not stand behind its first member
        have hnone : name ∉ rest.map Prod.fst := by
          rw [if_pos (beq_iff_eq.2 hname)] at h
          exact List.count_eq_zero.1 (by omega)
        have hnot : (name, value) ∉ rest := fun hmem => hnone (List.mem_map.2 ⟨_, hmem, rfl⟩)
        rw [lookup_eq_none hnone, if_pos hname, Option.none_or, or_iff_left hnot, hname,
          Option.some.injEq, Prod.mk.injEq, eq_self, true_and, eq_comm]
      · have hne : (name, value) ≠ (key, first) := fun heq => hname (congrArg Prod.fst heq).symm
        rw [if_neg hname, Option.or_none, ih hrest, or_iff_right hne]

/-- What the member of a name says; `absent` is what its absence says. -/
structure Tells (members : Members) (name : String) (IsTold : Json → Prop) (absent : Prop) :
    Prop where
  told : ∀ value, (name, value) ∈ members → IsTold value
  absent : (∀ value, (name, value) ∉ members) → absent

theorem Tells.present_or_absent (h : Tells members name IsTold absent) :
    (∃ value, IsTold value) ∨ absent := by
  by_cases hmem : ∃ value, (name, value) ∈ members
  · obtain ⟨value, hmem⟩ := hmem
    exact .inl ⟨value, h.told value hmem⟩
  · exact .inr (h.absent (not_exists.1 hmem))

theorem tells_of_lookup_some (h : IsSingle name members)
    (hlookup : lookup name members = some value) (htold : IsTold value) :
    Tells members name IsTold absent := by
  have hmem := (lookup_eq_some_iff h).1 hlookup
  refine ⟨fun v hv => ?_, fun hnot => absurd hmem (hnot value)⟩
  cases hlookup.symm.trans ((lookup_eq_some_iff h).2 hv)
  exact htold

theorem tells_of_lookup_none (h : IsSingle name members) (hlookup : lookup name members = none)
    (habsent : absent) : Tells members name IsTold absent := by
  refine ⟨fun v hv => ?_, fun _ => habsent⟩
  exact nomatch hlookup.symm.trans ((lookup_eq_some_iff h).2 hv)

theorem tells_iff (h : IsSingle name members) :
    Tells members name IsTold absent ↔
      match lookup name members with
      | none => absent
      | some value => IsTold value := by
  cases hlookup : lookup name members with
  | none =>
      refine ⟨fun htells => htells.absent fun v hv => ?_, tells_of_lookup_none h hlookup⟩
      exact nomatch hlookup.symm.trans ((lookup_eq_some_iff h).2 hv)
  | some value =>
      have hmem := (lookup_eq_some_iff h).1 hlookup
      exact ⟨fun htells => htells.told value hmem, tells_of_lookup_some h hlookup⟩

/-- A member that stands for a default when it is absent. -/
theorem Decodes.defaulted_iff (hdecode : Decodes decode Is) (h : IsSingle name members) :
    defaulted decode default name members = some a ↔
      Tells members name (Is a) (a = default) := by
  rw [tells_iff h, defaulted]
  cases lookup name members with
  | none => exact Option.some_inj.trans eq_comm
  | some value => exact hdecode a value

/-- A member that must be there. -/
theorem Decodes.needed_iff (hdecode : Decodes decode Is) (h : IsSingle name members) :
    needed decode name members = some a ↔ Tells members name (Is a) False := by
  rw [tells_iff h, needed]
  cases lookup name members with
  | none => exact ⟨(fun heq => nomatch heq), False.elim⟩
  | some value => exact hdecode a value

/-- A value, or null for none. -/
inductive IsOption (Is : α → Json → Prop) : Option α → Json → Prop
  | none : IsOption Is none .null
  | some {a : α} {j : Json} : j ≠ .null → Is a j → IsOption Is (some a) j

theorem Decodes.nullable (hdecode : Decodes decode Is) :
    Decodes (nullable decode) (IsOption Is) := by
  intro a value
  by_cases hnull : value = .null
  · subst hnull
    constructor
    · intro h
      cases h
      exact .none
    · intro h
      cases h with
      | none => rfl
      | some hne _ => exact absurd rfl hne
  · have hsome : Json.nullable decode value = (decode value).map some := by
      cases value with
      | null => exact absurd rfl hnull
      | bool _ | number _ | string _ | array _ | object _ | unreadable => rfl
    rw [hsome, Option.map_eq_some_iff]
    constructor
    · rintro ⟨b, hb, rfl⟩
      exact .some hnull ((hdecode b value).1 hb)
    · intro h
      cases h with
      | none => exact absurd rfl hnull
      | some _ hb => exact ⟨_, (hdecode _ value).2 hb, rfl⟩

/-- A member that may be absent or null. -/
theorem Decodes.optional_iff (hdecode : Decodes decode Is) {a : Option α}
    (h : IsSingle name members) :
    optional decode name members = some a ↔ Tells members name (IsOption Is a) (a = none) :=
  hdecode.nullable.defaulted_iff h

/-! ## Values -/

/-- The document is the text. -/
def IsText (s : String) (j : Json) : Prop := j = .string s

theorem decodes_string : Decodes string? IsText := by
  intro s j
  cases j with
  | string text => exact Option.some_inj.trans (Json.string.injEq ..).symm.to_iff
  | null | bool _ | number _ | array _ | object _ | unreadable =>
      exact ⟨(fun heq => nomatch heq), fun heq => nomatch heq⟩

/-- The document is the truth value. -/
def IsFlag (b : Bool) (j : Json) : Prop := j = .bool b

theorem decodes_bool : Decodes bool? IsFlag := by
  intro b j
  cases j with
  | bool _ => exact Option.some_inj.trans (Json.bool.injEq ..).symm.to_iff
  | null | string _ | number _ | array _ | object _ | unreadable =>
      exact ⟨(fun heq => nomatch heq), fun heq => nomatch heq⟩

/-- The document is an integer, written without fraction and exponent. -/
def IsInteger (i : Int) (j : Json) : Prop := ∃ n : Number, j = .number n ∧ n.int? = some i

theorem isInteger_int (i : Int) : IsInteger i (.int i) := ⟨_, rfl, Number.int?_ofInt i⟩

theorem decodes_intWithin (least greatest : Int) :
    Decodes (intWithin? least greatest)
      fun i j => IsInteger i j ∧ least ≤ i ∧ i ≤ greatest := by
  intro i j
  constructor
  · intro h
    cases j with
    | number n =>
        rw [intWithin?] at h
        cases hn : n.int? with
        | none => exact nomatch hn ▸ h
        | some i' =>
            rw [hn] at h
            obtain ⟨hwithin, heq⟩ := Option.ite_none_right_eq_some.1 h
            cases heq
            exact ⟨⟨n, rfl, hn⟩, hwithin⟩
    | null | bool _ | string _ | array _ | object _ | unreadable => exact nomatch h
  · rintro ⟨⟨n, rfl, hn⟩, hwithin⟩
    rw [intWithin?, hn]
    exact if_pos hwithin

/-- Integers of a type that holds exactly those between the bounds. -/
theorem decodes_bounded {β : Type} {ofInt : Int → β} {toInt : β → Int} {least greatest : Int}
    (hofInt : ∀ i, least ≤ i → i ≤ greatest → toInt (ofInt i) = i)
    (htoInt : ∀ b, ofInt (toInt b) = b ∧ least ≤ toInt b ∧ toInt b ≤ greatest) :
    Decodes (fun j => (j.intWithin? least greatest).map ofInt) fun b => IsInteger (toInt b) := by
  intro b j
  show (j.intWithin? least greatest).map ofInt = some b ↔ _
  rw [Option.map_eq_some_iff]
  constructor
  · rintro ⟨i, hi, rfl⟩
    obtain ⟨hinteger, hleast, hmost⟩ := (decodes_intWithin ..).1 hi
    rw [hofInt i hleast hmost]
    exact hinteger
  · intro h
    exact ⟨toInt b, (decodes_intWithin ..).2 ⟨h, (htoInt b).2⟩, (htoInt b).1⟩

theorem decodes_uint16 : Decodes uint16? fun u => IsInteger u.toNat := by
  have hsize : UInt16.size = 65536 := rfl
  refine decodes_bounded (fun i hleast hmost => ?_) fun u => ⟨?_, ?_, ?_⟩
  · rw [UInt16.toNat_ofNat', Nat.mod_eq_of_lt (by omega), Int.toNat_of_nonneg hleast]
  · rw [Int.toNat_natCast, UInt16.ofNat_toNat]
  · exact Int.natCast_nonneg _
  · have hlt := u.toNat_lt
    omega

theorem decodes_int64 : Decodes int64? fun i => IsInteger i.toInt := by
  have hleast : Int64.minValue.toInt = -2 ^ 63 := rfl
  have hmost : Int64.maxValue.toInt = 2 ^ 63 - 1 := rfl
  refine decodes_bounded (fun i hi hi' => ?_) fun i => ⟨Int64.ofInt_toInt i, ?_, ?_⟩
  · exact Int64.toInt_ofInt_of_le (hleast ▸ hi) (by omega)
  · exact Int64.le_iff_toInt_le.1 (Int64.minValue_le i)
  · exact Int64.le_iff_toInt_le.1 (Int64.le_maxValue i)

theorem decodes_int32 : Decodes int32? fun i => IsInteger i.toInt := by
  have hleast : Int32.minValue.toInt = -2 ^ 31 := rfl
  have hmost : Int32.maxValue.toInt = 2 ^ 31 - 1 := rfl
  refine decodes_bounded (fun i hi hi' => ?_) fun i => ⟨Int32.ofInt_toInt i, ?_, ?_⟩
  · exact Int32.toInt_ofInt_of_le (hleast ▸ hi) (by omega)
  · exact Int32.le_iff_toInt_le.1 (Int32.minValue_le i)
  · exact Int32.le_iff_toInt_le.1 (Int32.le_maxValue i)

/-- The document is a list of the values. -/
def IsList (Is : α → Json → Prop) (as : List α) (j : Json) : Prop :=
  ∃ items, j = .array items ∧ List.Forall₂ Is as items

theorem IsList.exists_of_mem {as : List α} (h : IsList Is as j) : ∀ a ∈ as, ∃ item, Is a item := by
  obtain ⟨items, -, hitems⟩ := h
  induction hitems with
  | nil => exact fun a ha => nomatch ha
  | cons hitem _ ih => exact List.forall_mem_cons.2 ⟨⟨_, hitem⟩, ih⟩

theorem Decodes.each?_iff (hdecode : Decodes decode Is) {as : List α} {items : List Json} :
    each? decode items = some as ↔ List.Forall₂ Is as items := by
  induction items generalizing as with
  | nil => rw [each?, Option.some.injEq, List.forall₂_nil_right_iff, eq_comm]
  | cons item rest ih =>
      rw [each?, List.forall₂_cons_right_iff]
      constructor
      · intro h
        split at h
        · next a as' ha has =>
          cases h
          exact ⟨a, as', (hdecode _ _).1 ha, ih.1 has, rfl⟩
        · exact nomatch h
      · rintro ⟨a, as', ha, has, rfl⟩
        rw [(hdecode _ _).2 ha, ih.2 has]

theorem Decodes.list (hdecode : Decodes decode Is) : Decodes (list? decode) (IsList Is) := by
  intro as j
  constructor
  · intro h
    cases j with
    | array items => exact ⟨items, rfl, hdecode.each?_iff.1 h⟩
    | null | bool _ | number _ | string _ | object _ | unreadable => exact nomatch h
  · rintro ⟨items, rfl, hitems⟩
    exact hdecode.each?_iff.2 hitems

/-- The document is the name of a case, alone or with nothing in it. -/
def IsCase (isNothing : Json → Bool) (name : String) (j : Json) : Prop :=
  j = .string name ∨ ∃ content, isNothing content = true ∧ j = .object [(name, content)]

theorem decodes_case (isNothing : Json → Bool) : Decodes (case? isNothing) (IsCase isNothing) := by
  intro name j
  constructor
  · intro h
    unfold case? at h
    split at h
    · cases h
      exact .inl rfl
    · next key content =>
      obtain ⟨hnothing, heq⟩ := Option.ite_none_right_eq_some.1 h
      cases heq
      exact .inr ⟨content, hnothing, rfl⟩
    · exact nomatch h
  · rintro (rfl | ⟨content, hnothing, rfl⟩)
    · rfl
    · exact if_pos hnothing

/-! ## Bodies -/

/-- The body is a layout of a document that says the value. -/
def IsSpelledBy (Is : α → Json → Prop) (a : α) (body : List UInt8) : Prop :=
  ∃ tree : Tree, Token.Layout tree.tokens body ∧ Is a tree.value

theorem Decodes.ofBytes_iff (hdecode : Decodes decode Is) {body : List UInt8} :
    (ofBytes? body).bind decode = some a ↔ IsSpelledBy Is a body := by
  rw [Option.bind_eq_some_iff]
  simp only [ofBytes?_eq_some_iff, hdecode _ _]
  constructor
  · rintro ⟨_, ⟨tree, hlayout, rfl⟩, htold⟩
    exact ⟨tree, hlayout, htold⟩
  · rintro ⟨tree, hlayout, htold⟩
    exact ⟨_, ⟨tree, hlayout, rfl⟩, htold⟩

end CloudReconciler.Json
