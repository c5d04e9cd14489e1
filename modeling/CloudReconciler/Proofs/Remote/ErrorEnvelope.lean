import CloudReconciler.Proofs.Json.Written
import CloudReconciler.Remote.Problem

/-! # Error envelopes — which bodies report which problem

    A body is an envelope of a problem when it is the layout of a tree whose
    value tells the problem: members in any order, defaults left out, other
    members of any kind, blanks between all tokens.  The status of the reply
    replaces the one in the body, and a body that is no envelope says
    nothing (`Problem.error_envelope`). -/

namespace CloudReconciler

open Json

/-! ## Messages about fields -/

namespace FieldProblem

variable {p : FieldProblem} {members : Members} {j : Json}

/-- The members of a message. -/
def names : List String := ["field", "message"]

/-- The members give the message. -/
structure IsGivenBy (p : FieldProblem) (members : Members) : Prop where
  field : Tells members "field" (IsText p.field) (p.field = "")
  message : Tells members "message" (IsText p.message) (p.message = "")

/-- The document tells the message. -/
def IsToldBy : FieldProblem → Json → Prop := IsRecordOf names 0 IsGivenBy

theorem decodes : Decodes ofJson? IsToldBy := by
  refine decodes_record (by decide) fun members hsingle p => ?_
  simp only [Option.bind_eq_bind, Option.bind_eq_some_iff, decodes_string.defaulted_iff (hsingle _)]
  obtain ⟨field, message⟩ := p
  constructor
  · rintro ⟨_, hfield, _, hmessage, ⟨⟩⟩
    exact ⟨hfield, hmessage⟩
  · rintro ⟨hfield, hmessage⟩
    exact ⟨_, hfield, _, hmessage, rfl⟩

theorem isToldBy_toJson (p : FieldProblem) : p.IsToldBy p.toJson := by
  refine isRecordOf_object (.refl _) (by decide) fun hsingle => ?_
  exact ⟨tells_of_lookup_some (hsingle _) rfl rfl, tells_of_lookup_some (hsingle _) rfl rfl⟩

end FieldProblem

/-! ## Problems -/

namespace Problem

variable {p : Problem} {members : Members} {j : Json} {body : List UInt8} {status : UInt16}

/-- The members of a problem. -/
def names : List String := ["type", "title", "status", "errors", "traceId", "parentId"]

/-- The members give the problem. -/
structure IsGivenBy (p : Problem) (members : Members) : Prop where
  kind : Tells members "type" (IsText p.kind) (p.kind = "")
  title : Tells members "title" (IsText p.title) (p.title = "")
  status : Tells members "status" (IsInteger p.status.toNat) (p.status = 0)
  errors : Tells members "errors" (IsList FieldProblem.IsToldBy p.errors) (p.errors = [])
  traceId : Tells members "traceId" (IsText p.traceId) (p.traceId = "")
  parentId : Tells members "parentId" (IsText p.parentId) (p.parentId = "")

/-- The document tells the problem. -/
def IsToldBy : Problem → Json → Prop := IsRecordOf names 0 IsGivenBy

theorem decodes : Decodes ofJson? IsToldBy := by
  refine decodes_record (by decide) fun members hsingle p => ?_
  simp only [Option.bind_eq_bind, Option.bind_eq_some_iff, decodes_string.defaulted_iff (hsingle _),
    decodes_uint16.defaulted_iff (hsingle _), FieldProblem.decodes.list.defaulted_iff (hsingle _)]
  obtain ⟨kind, title, status, errors, traceId, parentId⟩ := p
  constructor
  · rintro ⟨_, hkind, _, htitle, _, hstatus, _, herrors, _, htrace, _, hparent, ⟨⟩⟩
    exact ⟨hkind, htitle, hstatus, herrors, htrace, hparent⟩
  · rintro ⟨hkind, htitle, hstatus, herrors, htrace, hparent⟩
    exact ⟨_, hkind, _, htitle, _, hstatus, _, herrors, _, htrace, _, hparent, rfl⟩

/-! ## Bodies -/

/-- The body spells a document that tells the problem. -/
def IsEnvelope : Problem → List UInt8 → Prop := IsSpelledBy IsToldBy

theorem isEnvelope_iff : p.IsEnvelope body ↔ (ofBytes? body).bind ofJson? = some p :=
  decodes.ofBytes_iff.symm

/-! ### Blank bodies -/

/-- The body holds nothing but ASCII blanks. -/
def IsBlankBody (body : List UInt8) : Prop := ∀ b ∈ body, b ∈ [0x20, 0x09, 0x0A, 0x0C, 0x0D]

theorem all_isBlankByte_iff : body.all Text.isBlankByte = true ↔ IsBlankBody body := by
  rw [List.all_eq_true]
  refine forall₂_congr fun b _ => ?_
  simp only [Text.isBlankByte, Bool.or_eq_true, beq_iff_eq, List.mem_cons, List.not_mem_nil,
    or_false, or_assoc]

/-- The characters of ASCII blanks. -/
def blanks : List Char := [' ', '\t', '\n', '\x0c', '\r']

/-- A token is no run of blanks. -/
theorem exists_not_mem_blanks {t : Token} {bs : List UInt8} (h : Token.Lexeme t bs) :
    ∃ c ∈ bs.map Token.charOf, c ∉ blanks := by
  cases h with
  | mark hmark =>
      have hmarks : ∀ m ∈ Token.marks, m.1 ∉ blanks := by decide
      exact ⟨_, List.mem_singleton_self _, hmarks _ hmark⟩
  | word hword hbs =>
      have hwords : ∀ w ∈ Token.words, (w.1.toList.any fun c => decide (c ∉ blanks)) = true := by
        decide
      obtain ⟨c, hc, hnot⟩ := List.any_eq_true.1 (hwords _ hword)
      exact ⟨c, hbs ▸ hc, of_decide_eq_true hnot⟩
  | number hspells =>
      obtain ⟨c, tail, hcs, hfirst⟩ := hspells.exists_cons
      have hblanks : (blanks.all fun c => !(c == '-' || c.isDigit)) = true := by decide
      refine ⟨c, hcs ▸ List.mem_cons_self .., fun hmem => ?_⟩
      have hblank := List.all_eq_true.1 hblanks c hmem
      rw [hfirst] at hblank
      exact Bool.false_ne_true hblank
  | @text before _ _ _ hquote _ _ =>
      have hnot : '"' ∉ blanks := by decide
      exact ⟨Token.charOf before, List.mem_cons_self .., hquote ▸ hnot⟩

theorem charOf_mem_blanks (h : IsBlankBody body) : ∀ c ∈ body.map Token.charOf, c ∈ blanks := by
  intro c hc
  obtain ⟨b, hb, rfl⟩ := List.mem_map.1 hc
  have hchars : ([0x20, 0x09, 0x0A, 0x0C, 0x0D].all fun b => decide (Token.charOf b ∈ blanks)) =
      true := by decide
  exact of_decide_eq_true (List.all_eq_true.1 hchars b (h b hb))

theorem not_isEnvelope_of_isBlankBody (h : IsBlankBody body) : ¬ p.IsEnvelope body := by
  rintro ⟨tree, hlayout, -⟩
  have hne := tree.tokens_ne_nil
  generalize tree.tokens = ts at hlayout hne
  cases hlayout with
  | blank _ => exact hne rfl
  | next _ hlexeme _ =>
      obtain ⟨c, hc, hnot⟩ := exists_not_mem_blanks hlexeme
      refine hnot (charOf_mem_blanks h c ?_)
      rw [List.map_append, List.map_append]
      exact List.mem_append_right _ (List.mem_append_left _ hc)

/-! ### Written problems -/

theorem isExact_toJson (p : Problem) : p.toJson.IsExact := by
  have hstatus := p.status.toNat_lt
  have herrors : ∀ j ∈ p.errors.map FieldProblem.toJson, j.IsExact := by
    intro j hj
    obtain ⟨e, -, rfl⟩ := List.mem_map.1 hj
    exact .object (List.forall_mem_cons.2 ⟨.string, List.forall_mem_singleton.2 .string⟩)
  refine .object ?_
  simp only [List.forall_mem_cons]
  exact ⟨.string, .string, .number (Nat.le_trans (Nat.le_of_lt hstatus) (by decide)),
    .array herrors, .string, .string, nofun⟩

theorem isToldBy_toJson (p : Problem) : p.IsToldBy p.toJson := by
  refine isRecordOf_object (.refl _) (by decide) fun hsingle => ?_
  refine ⟨?_, ?_, ?_, ?_, ?_, ?_⟩
  · exact tells_of_lookup_some (hsingle _) rfl rfl
  · exact tells_of_lookup_some (hsingle _) rfl rfl
  · exact tells_of_lookup_some (hsingle _) rfl ⟨_, rfl, rfl⟩
  · refine tells_of_lookup_some (hsingle _) rfl ⟨_, rfl, ?_⟩
    rw [List.forall₂_map_right_iff, List.forall₂_same]
    exact fun e _ => e.isToldBy_toJson
  · exact tells_of_lookup_some (hsingle _) rfl rfl
  · exact tells_of_lookup_some (hsingle _) rfl rfl

/-- What is written for a problem is an envelope of it. -/
theorem isEnvelope_written (p : Problem) : p.IsEnvelope p.toJson.written :=
  isSpelledBy_written (isExact_toJson p) (isToldBy_toJson p)

/-! ### Replies -/

/-- The status of the reply replaces the one in the body. -/
theorem ofBody_of_isEnvelope (h : p.IsEnvelope body) (status : UInt16) :
    ofBody status body = { p with status } := by
  have hnot : ¬ body.all Text.isBlankByte = true := fun hblank =>
    not_isEnvelope_of_isBlankBody (all_isBlankByte_iff.1 hblank) h
  rw [ofBody, if_neg hnot, isEnvelope_iff.1 h]

/-- A body that is no envelope says nothing. -/
theorem ofBody_of_forall_not (h : ∀ p : Problem, ¬ p.IsEnvelope body) (status : UInt16) :
    ofBody status body = minimal status := by
  have hnone : (ofBytes? body).bind ofJson? = none :=
    Option.eq_none_iff_forall_ne_some.2 fun p hp => h p (isEnvelope_iff.2 hp)
  rw [ofBody, hnone, ite_id]

/-- The problem of a reply.  Every body gives one with the status of the reply; an envelope gives
    what it tells, whatever status it has itself, and so does what is written for a problem; a body
    that is blank or no envelope gives the minimal problem. -/
theorem error_envelope (status : UInt16) :
    (∀ body, (ofBody status body).status = status) ∧
    (∀ (p : Problem) own body, { p with status := own }.IsEnvelope body →
      ofBody status body = { p with status }) ∧
    (∀ p : Problem, ofBody status p.toJson.written = { p with status }) ∧
    (∀ body, (∀ p : Problem, ¬ p.IsEnvelope body) → ofBody status body = minimal status) ∧
    ∀ body, IsBlankBody body → ofBody status body = minimal status := by
  refine ⟨status_ofBody status, fun p own body h => ?_, fun p => ?_, fun body h => ?_,
    fun body h => ?_⟩
  · exact ofBody_of_isEnvelope h status
  · exact ofBody_of_isEnvelope (isEnvelope_written p) status
  · exact ofBody_of_forall_not h status
  · exact ofBody_of_forall_not (fun p => not_isEnvelope_of_isBlankBody h) status

/-- A problem with a message that names no field. -/
def oversized : Problem := ⟨"", "Invalid", 400, [⟨"", "too large"⟩], "t-1", ""⟩

/-- An envelope out of order, with an escape and a member of another name; the parent and the field
    are left out. -/
def oversizedBody : List UInt8 :=
  Utf8.encode ("\x7b\"traceId\" : \"t-1\",\n \"debug\": [1.5e3, \x7b\"a\": null\x7d],\t" ++
    "\"status\":400, \"errors\": [\x7b\"message\": \"too \\u006carge\"\x7d], " ++
    "\"title\": \"Invalid\", \"type\": \"\"\x7d\r\n")

theorem error_envelope_oversized :
    oversized.IsEnvelope oversizedBody ∧
      ofBody 422 oversizedBody = { oversized with status := 422 } ∧
      IsBlankBody [0x20, 0x0A] ∧ ofBody 502 [0x20, 0x0A] = minimal 502 ∧
      (∀ p : Problem, ¬ p.IsEnvelope (Utf8.encode "<html>")) ∧
      ofBody 502 (Utf8.encode "<html>") = minimal 502 := by
  have hread : (ofBytes? oversizedBody).bind ofJson? = some oversized := by decide +kernel
  have henvelope := isEnvelope_iff.2 hread
  have hblank : IsBlankBody [0x20, 0x0A] := all_isBlankByte_iff.1 rfl
  have hnone : ∀ p : Problem, ¬ p.IsEnvelope (Utf8.encode "<html>") := by
    intro p hp
    have hrefused : (ofBytes? (Utf8.encode "<html>")).bind ofJson? = none := by decide +kernel
    exact nomatch hrefused.symm.trans (isEnvelope_iff.1 hp)
  obtain ⟨-, htold, -, -, -⟩ := error_envelope 422
  obtain ⟨-, -, -, hother, hempty⟩ := error_envelope 502
  exact ⟨henvelope, htold oversized 400 oversizedBody henvelope, hblank, hempty _ hblank, hnone,
    hother _ hnone⟩

end Problem

end CloudReconciler
