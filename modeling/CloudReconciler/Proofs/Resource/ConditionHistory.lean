import CloudReconciler.Resource.Status
import Mathlib.Data.List.Induction
import Mathlib.Data.List.Nodup

/-! # Condition histories — what a sequence of conditions leaves in a status

    The condition of a kind takes the place of the one before it, and its
    time stays while its verdict does.  So what a status says about a kind
    is told by the conditions of that kind alone, in the order in which
    they were set:

    * `Status.seen`: the conditions of a kind, the oldest first;
    * `Condition.TellsOf`: a condition has the contents of the last of them,
      and the time at which its verdict was taken up for good;
    * `condition_history`: this holds after any sequence, whatever other
      kinds are set in between. -/

namespace CloudReconciler

namespace Condition

/-- The condition that takes the place of an old one: its time stays with its verdict. -/
def replacing (c old : Condition) : Condition :=
  if old.verdict = c.verdict then { c with since := old.since } else c

variable {c old last : Condition} {history : List Condition}

theorem replacing_same (h : old.verdict = c.verdict) :
    c.replacing old = { c with since := old.since } := if_pos h

theorem replacing_other (h : old.verdict ≠ c.verdict) : c.replacing old = c := if_neg h

/-- Only the time depends on the old condition. -/
theorem replacing_spec (c old : Condition) :
    (c.replacing old).kind = c.kind ∧ (c.replacing old).verdict = c.verdict ∧
      (c.replacing old).message = c.message := by
  by_cases h : old.verdict = c.verdict
  · rw [replacing_same h]
    exact ⟨rfl, rfl, rfl⟩
  · rw [replacing_other h]
    exact ⟨rfl, rfl, rfl⟩

/-- What a condition says apart from its time. -/
def contents (c : Condition) : String × Verdict × String × String :=
  (c.kind, c.verdict, c.reason, c.message)

theorem contents_replacing (c old : Condition) : (c.replacing old).contents = c.contents := by
  by_cases h : old.verdict = c.verdict
  · rw [replacing_same h]
    rfl
  · rw [replacing_other h]

/-- The condition has the contents of the last one of the history, and the time of the first one
    of the longest ending of the history that has its verdict throughout. -/
structure TellsOf (c : Condition) (history : List Condition) : Prop where
  contents : history.getLast?.map Condition.contents = some c.contents
  since : ∃ before first steady, history = before ++ first :: steady ∧
    (∀ e ∈ first :: steady, e.verdict = c.verdict) ∧
    (∀ e ∈ before.getLast?, e.verdict ≠ c.verdict) ∧ c.since = first.since

theorem TellsOf.verdict (h : c.TellsOf history) :
    ∀ e ∈ history.getLast?, e.verdict = c.verdict := by
  intro e he
  have hcontents := h.contents
  rw [Option.mem_def.1 he] at hcontents
  have hpair : e.contents = c.contents := Option.some.inj hcontents
  exact congrArg (fun p => p.2.1) hpair

/-- A condition tells of itself where there was none of its kind before. -/
theorem tellsOf_singleton (c : Condition) : c.TellsOf [c] where
  contents := rfl
  since := ⟨[], c, [], rfl, List.forall_mem_singleton.2 rfl, nofun, rfl⟩

/-- What takes the place of a condition tells of one more. -/
theorem TellsOf.replacing (h : old.TellsOf history) (c : Condition) :
    (c.replacing old).TellsOf (history ++ [c]) := by
  have hlast : (history ++ [c]).getLast?.map Condition.contents =
      some (c.replacing old).contents := by
    rw [List.getLast?_concat, contents_replacing]
    rfl
  refine ⟨hlast, ?_⟩
  by_cases hv : old.verdict = c.verdict
  · -- the verdict stays, and the longest ending grows by the new condition
    obtain ⟨before, first, steady, rfl, hsteady, hbefore, hsince⟩ := h.since
    rw [replacing_same hv]
    refine ⟨before, first, steady ++ [c], by simp, ?_, ?_, hsince⟩
    · intro e he
      rcases List.mem_append.1 (List.cons_append ▸ he) with he | he
      · exact (hsteady e he).trans hv
      · rw [List.mem_singleton.1 he]
    · exact fun e he heq => hbefore e he (heq.trans hv.symm)
  · -- the verdict changes, and the longest ending is the new condition
    rw [replacing_other hv]
    refine ⟨history, c, [], rfl, List.forall_mem_singleton.2 rfl, ?_, rfl⟩
    exact fun e he heq => hv ((h.verdict e he).symm.trans heq)

end Condition

namespace Status

variable {c old : Condition} {cs calls : List Condition} {kind : String} {s : Status}

/-! ## One condition -/

theorem upsert_cons_same (h : old.kind = c.kind) :
    upsert c (old :: cs) = c.replacing old :: cs := if_pos h

theorem upsert_cons_other (h : old.kind ≠ c.kind) : upsert c (old :: cs) = old :: upsert c cs :=
  if_neg h

/-- A kind that is there keeps its place, and a new one comes last. -/
theorem map_kind_upsert (c : Condition) (cs : List Condition) :
    (upsert c cs).map Condition.kind =
      if c.kind ∈ cs.map Condition.kind then cs.map Condition.kind
      else cs.map Condition.kind ++ [c.kind] := by
  induction cs with
  | nil => rfl
  | cons old cs ih =>
      by_cases hkind : old.kind = c.kind
      · have hreplaced : (c.replacing old).kind = c.kind := (c.replacing_spec old).1
        rw [upsert_cons_same hkind, List.map_cons, List.map_cons, hreplaced, hkind,
          if_pos (List.mem_cons_self ..)]
      · rw [upsert_cons_other hkind, List.map_cons, ih, List.map_cons]
        simp only [List.mem_cons, Ne.symm hkind, false_or]
        split
        all_goals rfl

theorem nodup_map_kind_upsert (h : (cs.map Condition.kind).Nodup) :
    ((upsert c cs).map Condition.kind).Nodup := by
  rw [map_kind_upsert]
  split
  · exact h
  · next hnew => exact (List.nodup_append_comm.1 (List.nodup_cons.2 ⟨hnew, h⟩))

theorem find?_kind_cons (kind : String) (old : Condition) (cs : List Condition) :
    (old :: cs).find? (·.kind == kind) =
      if old.kind = kind then some old else cs.find? (·.kind == kind) := by
  rw [List.find?_cons]
  by_cases h : old.kind = kind
  · rw [if_pos h, beq_iff_eq.2 h]
  · rw [if_neg h, beq_eq_false_iff_ne.2 h]

/-- The condition replaces the one of its kind, if there is one. -/
theorem condition?_setCondition_self (s : Status) (c : Condition) :
    (s.setCondition c).condition? c.kind =
      some (((s.condition? c.kind).map c.replacing).getD c) := by
  show (upsert c s.conditions).find? (·.kind == c.kind) =
    some (((s.conditions.find? (·.kind == c.kind)).map c.replacing).getD c)
  induction s.conditions with
  | nil => exact (find?_kind_cons ..).trans (if_pos rfl)
  | cons old cs ih =>
      by_cases hkind : old.kind = c.kind
      · have hreplaced : (c.replacing old).kind = c.kind := (c.replacing_spec old).1
        rw [upsert_cons_same hkind, find?_kind_cons, if_pos hreplaced, find?_kind_cons,
          if_pos hkind]
        rfl
      · rw [upsert_cons_other hkind, find?_kind_cons, if_neg hkind, find?_kind_cons, if_neg hkind]
        exact ih

/-- Other kinds are left alone. -/
theorem condition?_setCondition_of_ne (h : c.kind ≠ kind) :
    (s.setCondition c).condition? kind = s.condition? kind := by
  show (upsert c s.conditions).find? (·.kind == kind) = s.conditions.find? (·.kind == kind)
  induction s.conditions with
  | nil => exact (find?_kind_cons ..).trans (if_neg h)
  | cons old cs ih =>
      by_cases hkind : old.kind = c.kind
      · have hreplaced : (c.replacing old).kind ≠ kind := by
          rw [(c.replacing_spec old).1]
          exact h
        have hold : old.kind ≠ kind := by
          rw [hkind]
          exact h
        rw [upsert_cons_same hkind, find?_kind_cons, if_neg hreplaced, find?_kind_cons,
          if_neg hold]
      · rw [upsert_cons_other hkind, find?_kind_cons, find?_kind_cons, ih]

/-! ## Sequences of conditions -/

/-- The conditions of a kind, the oldest first: the one that the status starts with, and those that
    are set. -/
def seen (s : Status) (kind : String) (calls : List Condition) : List Condition :=
  (s.condition? kind).toList ++ calls.filter (·.kind = kind)

/-- The kinds that a sequence adds to a status, in the order in which they come up first. -/
def newKinds (s : Status) (calls : List Condition) : List String :=
  ((calls.map Condition.kind).filter (· ∉ s.conditions.map Condition.kind)).eraseDups

theorem seen_concat_self (s : Status) (calls : List Condition) (c : Condition) :
    s.seen c.kind (calls ++ [c]) = s.seen c.kind calls ++ [c] := by
  have hc : [c].filter (fun e => decide (e.kind = c.kind)) = [c] :=
    List.filter_cons_of_pos (decide_eq_true rfl)
  rw [seen, seen, List.filter_append, hc, List.append_assoc]

theorem seen_concat_of_ne (h : c.kind ≠ kind) :
    s.seen kind (calls ++ [c]) = s.seen kind calls := by
  have hc : [c].filter (fun e => decide (e.kind = kind)) = [] :=
    List.filter_cons_of_neg (mt of_decide_eq_true h)
  rw [seen, seen, List.filter_append, hc, List.append_nil]

/-- A kind is new only where it comes up first. -/
theorem newKinds_concat (s : Status) (calls : List Condition) (c : Condition) :
    s.newKinds (calls ++ [c]) =
      if c.kind ∈ s.conditions.map Condition.kind ++ s.newKinds calls then s.newKinds calls
      else s.newKinds calls ++ [c.kind] := by
  rw [newKinds, List.map_append, List.filter_append, List.eraseDups_append, ← newKinds]
  by_cases hold : c.kind ∈ s.conditions.map Condition.kind
  · have hnone : ([c].map Condition.kind).filter
        (fun k => decide (k ∉ s.conditions.map Condition.kind)) = [] :=
      List.filter_cons_of_neg (mt of_decide_eq_true (not_not.2 hold))
    rw [if_pos (List.mem_append_left _ hold), hnone]
    exact List.append_nil _
  · have hone : ([c].map Condition.kind).filter
        (fun k => decide (k ∉ s.conditions.map Condition.kind)) = [c.kind] :=
      List.filter_cons_of_pos (decide_eq_true hold)
    rw [hone]
    by_cases hnew : c.kind ∈ s.newKinds calls
    · have hmem := List.mem_eraseDups.1 hnew
      rw [if_pos (List.mem_append_right _ hnew), List.removeAll, List.filter_cons_of_neg]
      · exact List.append_nil _
      · rw [Bool.not_eq_true', Bool.not_eq_false, List.elem_iff]
        exact hmem
    · have hmem := mt List.mem_eraseDups.2 hnew
      have hnowhere : c.kind ∉ s.conditions.map Condition.kind ++ s.newKinds calls :=
        fun h => (List.mem_append.1 h).elim hold hnew
      rw [if_neg hnowhere, List.removeAll, List.filter_cons_of_pos]
      · rfl
      · rw [Bool.not_eq_true', ← Bool.not_eq_true, List.elem_iff]
        exact hmem

/-- After a sequence the kinds stand as before, followed by the new ones. -/
theorem map_kind_foldl_setCondition (s : Status) (calls : List Condition) :
    (calls.foldl setCondition s).conditions.map Condition.kind =
      s.conditions.map Condition.kind ++ s.newKinds calls := by
  induction calls using List.reverseRecOn with
  | nil => exact (List.append_nil _).symm
  | append_singleton calls c ih =>
      rw [List.foldl_concat]
      show (upsert c _).map _ = _
      rw [map_kind_upsert, ih, newKinds_concat]
      split
      · rfl
      · rw [List.append_assoc]

theorem nodup_foldl_setCondition (h : (s.conditions.map Condition.kind).Nodup) :
    ((calls.foldl setCondition s).conditions.map Condition.kind).Nodup := by
  induction calls using List.reverseRecOn with
  | nil => exact h
  | append_singleton calls c ih =>
      rw [List.foldl_concat]
      exact nodup_map_kind_upsert ih

/-- The initial condition of a kind and the ones that were set tell what the status says. -/
theorem condition?_foldl_setCondition (s : Status) (calls : List Condition) (kind : String) :
    (s.seen kind calls = [] ∧ (calls.foldl setCondition s).condition? kind = none) ∨
      ∃ c, (calls.foldl setCondition s).condition? kind = some c ∧
        c.TellsOf (s.seen kind calls) := by
  induction calls using List.reverseRecOn with
  | nil =>
      rw [seen, List.filter_nil, List.append_nil, List.foldl_nil]
      cases hc : s.condition? kind with
      | none => exact .inl ⟨rfl, rfl⟩
      | some c => exact .inr ⟨c, rfl, c.tellsOf_singleton⟩
  | append_singleton calls c ih =>
      rw [List.foldl_concat]
      by_cases hkind : c.kind = kind
      · subst hkind
        rw [seen_concat_self, condition?_setCondition_self]
        refine .inr ⟨_, rfl, ?_⟩
        rcases ih with ⟨hseen, hnone⟩ | ⟨old, hold, htells⟩
        · rw [hseen, hnone]
          exact c.tellsOf_singleton
        · rw [hold]
          exact htells.replacing c
      · rw [seen_concat_of_ne hkind, condition?_setCondition_of_ne hkind]
        exact ih

/-- A sequence of conditions changes nothing but the conditions. -/
theorem foldl_setCondition_eq (s : Status) (calls : List Condition) :
    ∃ cs, calls.foldl setCondition s = { s with conditions := cs } := by
  induction calls using List.reverseRecOn with
  | nil => exact ⟨s.conditions, rfl⟩
  | append_singleton calls c ih =>
      obtain ⟨cs, hcs⟩ := ih
      rw [List.foldl_concat, hcs]
      exact ⟨upsert c cs, rfl⟩

end Status

/-- After any sequence of conditions, set on a status that has at most one of each kind: there is
    still at most one of each kind; the kinds keep their places, and new ones follow in the order
    in which they came up; what the status says of a kind tells of all conditions of the kind that
    it has seen; and nothing but the conditions has changed. -/
theorem condition_history (s : Status) (calls : List Condition)
    (h : (s.conditions.map Condition.kind).Nodup) :
    ((calls.foldl Status.setCondition s).conditions.map Condition.kind).Nodup ∧
      (calls.foldl Status.setCondition s).conditions.map Condition.kind =
        s.conditions.map Condition.kind ++ s.newKinds calls ∧
      (∀ kind,
        (s.seen kind calls = [] ∧ (calls.foldl Status.setCondition s).condition? kind = none) ∨
        ∃ c, (calls.foldl Status.setCondition s).condition? kind = some c ∧
          c.TellsOf (s.seen kind calls)) ∧
      ∃ cs, calls.foldl Status.setCondition s = { s with conditions := cs } :=
  ⟨Status.nodup_foldl_setCondition h, s.map_kind_foldl_setCondition calls,
    s.condition?_foldl_setCondition calls, s.foldl_setCondition_eq calls⟩

/-- A status that has been provisioned for a while. -/
def Status.provisioned : Status where
  phase := .provisioning
  resourceId := some "vol-9"
  conditions := [⟨"Synchronized", .fails, "Provisioning", "being provisioned", ⟨0, 0⟩⟩]

/-- What is set on it: a retry, another kind, a success, a retry of the other kind, an update. -/
def Condition.later : List Condition :=
  [⟨"Synchronized", .fails, "ServerError", "unavailable", ⟨20, 0⟩⟩,
    ⟨"Attached", .unknown, "NotAsked", "", ⟨20, 0⟩⟩,
    ⟨"Synchronized", .holds, "Created", "created", ⟨40, 0⟩⟩,
    ⟨"Attached", .holds, "Attached", "attached", ⟨50, 0⟩⟩,
    ⟨"Synchronized", .holds, "Updated", "updated", ⟨60, 0⟩⟩]

/-- The time of the engine's condition is the one of the success, and the other kind stands behind
    it. -/
theorem condition_history_story :
    (Status.provisioned.conditions.map Condition.kind).Nodup ∧
      (Condition.later.foldl Status.setCondition .provisioned).conditions.map Condition.kind =
        ["Synchronized", "Attached"] ∧
      (∃ c, (Condition.later.foldl Status.setCondition .provisioned).condition? "Synchronized" =
          some c ∧
        c.TellsOf (Status.provisioned.seen "Synchronized" Condition.later) ∧ c.since = ⟨40, 0⟩ ∧
        c.reason = "Updated") ∧
      ∃ cs, Condition.later.foldl Status.setCondition .provisioned =
        { Status.provisioned with conditions := cs } := by
  have hnodup : (Status.provisioned.conditions.map Condition.kind).Nodup := by decide
  obtain ⟨-, hkinds, htold, hrest⟩ := condition_history .provisioned Condition.later hnodup
  refine ⟨hnodup, hkinds.trans (by decide), ?_, hrest⟩
  rcases htold "Synchronized" with ⟨hseen, -⟩ | ⟨c, hc, htells⟩
  · exact absurd hseen (by decide)
  · have hvalue : (Condition.later.foldl Status.setCondition .provisioned).condition?
        "Synchronized" = some ⟨"Synchronized", .holds, "Updated", "updated", ⟨40, 0⟩⟩ := by decide
    obtain rfl := Option.some.inj (hc.symm.trans hvalue)
    exact ⟨_, hc, htells, rfl, rfl⟩

end CloudReconciler
