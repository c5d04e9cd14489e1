import CloudReconciler.Json.MergePatch
import CloudReconciler.Json.Record
import Mathlib.Data.List.Nodup

/-! # Members by name — what a merge patch does to the members of an object

    A record is read by the names of its members, which occur at most once
    (`Json.IsSingle`).  A patch of plain values, which are neither null nor
    objects themselves, puts its members in the place of those of the same
    names and leaves all others (`Json.lookup_mergeMembers`).  So what is
    read from a merged object is said by the two lookups. -/

namespace CloudReconciler.Json

/-- The members of an object, in order. -/
abbrev Members := List (String × Json)

variable {name other : String} {value change : Json} {members changes : Members}

/-- At most one member has the name. -/
def IsSingle (name : String) (members : Members) : Prop := (members.map Prod.fst).count name ≤ 1

/-! ## Lookups -/

@[simp] theorem lookup_nil (name : String) : lookup name [] = none := rfl

/-- Of two lists of members, the second one counts. -/
theorem lookup_append (name : String) (members rest : Members) :
    lookup name (members ++ rest) = (lookup name rest).or (lookup name members) := by
  have hfold : ∀ (found : Option Json) (rest : Members),
      rest.foldl (fun found m => if m.1 = name then some m.2 else found) found =
        (lookup name rest).or found := by
    intro found rest
    induction rest generalizing found with
    | nil => rfl
    | cons m rest ih =>
        obtain ⟨key, value⟩ := m
        have hlookup : lookup name ((key, value) :: rest) =
            (lookup name rest).or (if key = name then some value else none) := ih _
        rw [hlookup, List.foldl_cons, ih, Option.or_assoc]
        congr 1
        by_cases hkey : key = name
        · simp only [hkey, if_true, Option.some_or]
        · simp only [hkey, if_false, Option.none_or]
  rw [lookup, List.foldl_append]
  exact hfold _ rest

theorem lookup_cons (name key : String) (value : Json) (rest : Members) :
    lookup name ((key, value) :: rest) =
      (lookup name rest).or (if key = name then some value else none) :=
  lookup_append name [(key, value)] rest

theorem lookup_eq_none (h : name ∉ members.map Prod.fst) : lookup name members = none := by
  induction members with
  | nil => rfl
  | cons m rest ih =>
      obtain ⟨key, value⟩ := m
      rw [List.map_cons, List.mem_cons, not_or] at h
      rw [lookup_cons, ih h.2, if_neg (Ne.symm h.1)]
      rfl

/-- Other members do not matter to a lookup. -/
theorem lookup_filter {p : String → Bool} (h : p name = true) :
    lookup name (members.filter fun m => p m.1) = lookup name members := by
  induction members with
  | nil => rfl
  | cons m rest ih =>
      obtain ⟨key, value⟩ := m
      rw [List.filter_cons]
      split
      · rw [lookup_cons, lookup_cons, ih]
      · next hp =>
        rw [lookup_cons, ih, if_neg, Option.or_none]
        rintro rfl
        exact hp h

theorem isSingle_filter {p : String → Bool} (h : p name = true) :
    IsSingle name (members.filter fun m => p m.1) ↔ IsSingle name members := by
  have hmap : (members.filter fun m => p m.1).map Prod.fst = (members.map Prod.fst).filter p := by
    rw [List.filter_map]
    rfl
  rw [IsSingle, IsSingle, hmap, List.count_filter h]

/-! ## Putting a member -/

theorem lookup_put_self (h : IsSingle name members) :
    lookup name (put name value members) = some value := by
  induction members with
  | nil =>
      rw [put, lookup_cons, if_pos rfl]
      rfl
  | cons m rest ih =>
      obtain ⟨key, old⟩ := m
      rw [IsSingle, List.map_cons, List.count_cons] at h
      rw [put]
      split
      · next hkey =>
        -- the member that is replaced is the only one
        have hnone : lookup name rest = none := by
          refine lookup_eq_none fun hmem => ?_
          have hpos := List.count_pos_iff.2 hmem
          rw [if_pos (beq_iff_eq.2 hkey)] at h
          omega
        rw [lookup_cons, hnone, if_pos rfl]
        rfl
      · rw [lookup_cons, ih (Nat.le_trans (Nat.le_add_right _ _) h)]
        rfl

theorem lookup_put_of_ne (h : other ≠ name) :
    lookup other (put name value members) = lookup other members := by
  induction members with
  | nil => rw [put, lookup_cons, if_neg h.symm, lookup_nil, Option.or_none]
  | cons m rest ih =>
      obtain ⟨key, old⟩ := m
      rw [put]
      split
      · next hkey =>
        subst hkey
        rw [lookup_cons, lookup_cons, if_neg h.symm, if_neg h.symm]
      · rw [lookup_cons, lookup_cons, ih]

/-- A new name comes last. -/
theorem map_fst_put (name : String) (value : Json) (members : Members) :
    (put name value members).map Prod.fst =
      if name ∈ members.map Prod.fst then members.map Prod.fst
      else members.map Prod.fst ++ [name] := by
  induction members with
  | nil => rfl
  | cons m rest ih =>
      obtain ⟨key, old⟩ := m
      rw [put]
      split
      · next hkey =>
        rw [List.map_cons, List.map_cons, hkey, if_pos (List.mem_cons_self ..)]
      · next hkey =>
        rw [List.map_cons, ih, List.map_cons]
        simp only [List.mem_cons, Ne.symm hkey, false_or]
        split <;> rfl

theorem isSingle_put (h : IsSingle other members) : IsSingle other (put name value members) := by
  rw [IsSingle, map_fst_put]
  split
  · exact h
  · next hname =>
    rw [List.count_append, List.count_singleton]
    split
    · next heq =>
      rw [beq_iff_eq.1 heq] at hname
      exact Nat.le_of_eq (congrArg (· + 1) (List.count_eq_zero.2 hname))
    · exact h

theorem mem_put {m : String × Json} (h : m ∈ put name value members) :
    m = (name, value) ∨ m ∈ members := by
  induction members with
  | nil => exact .inl (List.mem_singleton.1 h)
  | cons old rest ih =>
      obtain ⟨key, previous⟩ := old
      rw [put] at h
      split at h
      · exact (List.mem_cons.1 h).imp id (List.mem_cons_of_mem _)
      · rcases List.mem_cons.1 h with rfl | h
        · exact .inr (List.mem_cons_self ..)
        · exact (ih h).imp id (List.mem_cons_of_mem _)

/-! ## Merging plain values -/

/-- The value takes the place of what it is merged into. -/
def IsPlain : Json → Prop
  | .null | .object _ => False
  | _ => True

theorem IsPlain.mergePatch_eq (h : change.IsPlain) (target : Json) :
    target.mergePatch change = change := by
  cases change with
  | null | object _ => exact h.elim
  | bool _ | number _ | string _ | array _ | unreadable =>
      rw [mergePatch]
      exact fun _ heq => nomatch heq

theorem IsPlain.mergeMembers_cons (h : change.IsPlain) (members rest : Members) :
    mergeMembers members ((name, change) :: rest) =
      mergeMembers (put name change members) rest := by
  have hchange := h.mergePatch_eq ((lookup name members).getD .null)
  cases change with
  | null | object _ => exact h.elim
  | bool _ | number _ | string _ | array _ | unreadable =>
      rw [mergeMembers, hchange]
      exact fun heq => nomatch heq

/-- Every change is a plain value under a name of its own. -/
structure ArePlain (changes : Members) : Prop where
  plain : ∀ m ∈ changes, m.2.IsPlain
  nodup : (changes.map Prod.fst).Nodup

theorem ArePlain.of_cons (h : ArePlain ((name, change) :: changes)) :
    change.IsPlain ∧ name ∉ changes.map Prod.fst ∧ ArePlain changes := by
  obtain ⟨hplain, hnodup⟩ := h
  obtain ⟨hchange, hplain⟩ := List.forall_mem_cons.1 hplain
  obtain ⟨hname, hnodup⟩ := List.nodup_cons.1 hnodup
  exact ⟨hchange, hname, hplain, hnodup⟩

/-- A merged object has the changes, and what it had under other names. -/
theorem lookup_mergeMembers (h : ArePlain changes)
    (hsingle : ∀ m ∈ changes, IsSingle m.1 members) (name : String) :
    lookup name (mergeMembers members changes) =
      (lookup name changes).or (lookup name members) := by
  induction changes generalizing members with
  | nil => rw [mergeMembers, lookup_nil, Option.none_or]
  | cons m rest ih =>
      obtain ⟨key, change⟩ := m
      obtain ⟨hplain, hkey, hrest⟩ := h.of_cons
      obtain ⟨hself, hothers⟩ := List.forall_mem_cons.1 hsingle
      rw [hplain.mergeMembers_cons, ih hrest fun m hm => isSingle_put (hothers m hm), lookup_cons]
      by_cases hname : key = name
      · subst hname
        rw [lookup_eq_none hkey, lookup_put_self hself, if_pos rfl]
        rfl
      · rw [lookup_put_of_ne (Ne.symm hname), if_neg hname, Option.or_none]

theorem isSingle_mergeMembers (h : ArePlain changes) (hsingle : IsSingle name members) :
    IsSingle name (mergeMembers members changes) := by
  induction changes generalizing members with
  | nil =>
      rw [mergeMembers]
      exact hsingle
  | cons m rest ih =>
      obtain ⟨hplain, -, hrest⟩ := h.of_cons
      rw [hplain.mergeMembers_cons]
      exact ih hrest (isSingle_put hsingle)

theorem mem_mergeMembers {m : String × Json} (h : ArePlain changes)
    (hm : m ∈ mergeMembers members changes) : m ∈ members ∨ m ∈ changes := by
  induction changes generalizing members with
  | nil =>
      rw [mergeMembers] at hm
      exact .inl hm
  | cons c rest ih =>
      obtain ⟨hplain, -, hrest⟩ := h.of_cons
      rw [hplain.mergeMembers_cons] at hm
      rcases ih hrest hm with hm | hm
      · rcases mem_put hm with rfl | hm
        · exact .inr (List.mem_cons_self ..)
        · exact .inl hm
      · exact .inr (List.mem_cons_of_mem _ hm)

/-! ## Records -/

section

variable {names : List String}

theorem lookup_known (h : name ∈ names) :
    lookup name (members.filter fun m => m.1 ∈ names) = lookup name members :=
  lookup_filter (p := fun key => decide (key ∈ names)) (decide_eq_true h)

theorem isSingle_known (h : name ∈ names) :
    IsSingle name (members.filter fun m => m.1 ∈ names) ↔ IsSingle name members :=
  isSingle_filter (p := fun key => decide (key ∈ names)) (decide_eq_true h)

/-- No known member is repeated exactly if each of the known names occurs at most once. -/
theorem nodup_known :
    ((members.filter fun m => m.1 ∈ names).map Prod.fst).Nodup ↔
      ∀ name ∈ names, IsSingle name members := by
  rw [List.nodup_iff_count_le_one]
  constructor
  · exact fun h name hname => (isSingle_known hname).1 (h name)
  · intro h name
    by_cases hname : name ∈ names
    · exact (isSingle_known hname).2 (h name hname)
    · refine Nat.le_trans (Nat.le_of_eq (List.count_eq_zero.2 fun hmem => ?_)) (Nat.zero_le 1)
      obtain ⟨m, hm, rfl⟩ := List.mem_map.1 hmem
      exact hname (of_decide_eq_true (List.mem_filter.1 hm).2)

theorem record?_object {atLeast : Nat} {known : Members} :
    record? names atLeast (.object members) = some known ↔
      (∀ name ∈ names, IsSingle name members) ∧ members.filter (fun m => m.1 ∈ names) = known := by
  rw [← nodup_known]
  show (if _ then some _ else none) = some known ↔ _
  split
  · next h =>
    rw [Option.some.injEq]
    exact ⟨fun heq => ⟨h, heq⟩, And.right⟩
  · next h => exact ⟨(fun heq => nomatch heq), fun heq => absurd heq.1 h⟩

end

end CloudReconciler.Json
