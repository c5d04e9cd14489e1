import CloudReconciler.Text.Blank
import Mathlib.Data.List.DropRight
import Mathlib.Data.List.TakeWhile

/-! # Trimmed texts — what is left between the ends

    Settings lose the blanks around them, addresses the slashes.  For either
    the question is when anything is left, and what the ends of the rest
    look like:

    * `HoldsOnly`: nothing but one kind of character, so that nothing is
      left;
    * `IsTrimmed`: a text that neither begins nor ends with a blank. -/

namespace CloudReconciler.Text

/-- The text consists of the character alone, repeated any number of times. -/
def HoldsOnly (c : Char) (s : String) : Prop := ∀ d ∈ s.toList, d = c

instance (c : Char) (s : String) : Decidable (HoldsOnly c s) :=
  inferInstanceAs (Decidable (∀ d ∈ s.toList, d = c))

/-- The text is not empty, and neither end of it is a blank. -/
structure IsTrimmed (s : String) : Prop where
  nonempty : s ≠ ""
  first : ∀ c, s.toList.head? = some c → isBlank c = false
  last : ∀ c, s.toList.getLast? = some c → isBlank c = false

/-! ## Characters dropped at the ends -/

section

variable (p : Char → Bool) (cs : List Char)

theorem dropEnd_eq_rdropWhile : dropEnd p cs = cs.rdropWhile p := rfl

/-- Nothing is left of characters that are all dropped, and of no others. -/
theorem dropEnd_eq_nil_iff : dropEnd p cs = [] ↔ ∀ c ∈ cs, p c = true :=
  List.rdropWhile_eq_nil_iff

/-- Dropping at the start first makes no difference to that. -/
theorem dropEnd_dropWhile_eq_nil_iff :
    dropEnd p (cs.dropWhile p) = [] ↔ ∀ c ∈ cs, p c = true := by
  rw [dropEnd_eq_nil_iff]
  constructor
  · intro h
    -- the first character that is kept would have to be one that is dropped
    have hnone : cs.dropWhile p = [] := by
      by_contra hne
      have hpos : 0 < (cs.dropWhile p).length := List.length_pos_iff.2 hne
      exact List.dropWhile_get_zero_not p cs hpos (h _ (List.get_mem ..))
    exact List.dropWhile_eq_nil_iff.1 hnone
  · intro h c hc
    exact h c ((List.dropWhile_suffix p).subset hc)

variable {p cs}

/-- The last character that is kept is not one to be dropped. -/
theorem getLast?_dropEnd {c : Char} (h : (dropEnd p cs).getLast? = some c) : p c = false := by
  have hne : cs.rdropWhile p ≠ [] := by
    intro hnil
    rw [dropEnd_eq_rdropWhile, hnil] at h
    exact nomatch h
  rw [dropEnd_eq_rdropWhile, List.getLast?_eq_some_getLast hne] at h
  have hlast := List.rdropWhile_last_not p cs hne
  rw [Option.some.inj h] at hlast
  exact Bool.eq_false_iff.2 hlast

/-- Characters dropped at the end leave the start alone. -/
theorem head?_dropEnd {c : Char} (h : (dropEnd p cs).head? = some c) : cs.head? = some c := by
  obtain ⟨dropped, hcs⟩ := List.rdropWhile_prefix p (l := cs)
  rw [← dropEnd_eq_rdropWhile] at hcs
  rw [← hcs, List.head?_append, h, Option.some_or]

/-- The first character that is kept is not one to be dropped. -/
theorem head?_dropWhile {c : Char} (h : (cs.dropWhile p).head? = some c) : p c = false := by
  have hpos : 0 < (cs.dropWhile p).length := by
    refine List.length_pos_iff.2 fun hnil => ?_
    rw [hnil] at h
    exact nomatch h
  have hfirst := List.dropWhile_get_zero_not p cs hpos
  rw [List.head?_eq_getElem?, List.getElem?_eq_getElem hpos] at h
  rw [List.get_eq_getElem, Option.some.inj h] at hfirst
  exact Bool.eq_false_iff.2 hfirst

end

/-! ## Texts -/

/-- Nothing but blanks is left out entirely. -/
theorem trim_eq_empty_iff {s : String} : trim s = "" ↔ ∀ c ∈ s.toList, isBlank c = true :=
  String.ofList_eq_empty_iff.trans (dropEnd_dropWhile_eq_nil_iff isBlank s.toList)

/-- Whatever is left has no blanks at its ends. -/
theorem isTrimmed_trim {s : String} (h : trim s ≠ "") : IsTrimmed (trim s) where
  nonempty := h
  first c hc := by
    rw [trim, String.toList_ofList] at hc
    exact head?_dropWhile (head?_dropEnd hc)
  last c hc := by
    rw [trim, String.toList_ofList] at hc
    exact getLast?_dropEnd hc

theorem holdsOnly_iff {c : Char} {s : String} :
    HoldsOnly c s ↔ ∀ d ∈ s.toList, (d == c) = true :=
  forall₂_congr fun _ _ => beq_iff_eq.symm

/-- Nothing is left of a text without one character at its end if it holds no other. -/
theorem trimEndOf_eq_empty_iff {c : Char} {s : String} : trimEndOf c s = "" ↔ HoldsOnly c s :=
  (String.ofList_eq_empty_iff.trans (dropEnd_eq_nil_iff _ _)).trans holdsOnly_iff.symm

/-- The same holds where the character is dropped at both ends. -/
theorem trimOf_eq_empty_iff {c : Char} {s : String} : trimOf c s = "" ↔ HoldsOnly c s :=
  (String.ofList_eq_empty_iff.trans (dropEnd_dropWhile_eq_nil_iff _ _)).trans holdsOnly_iff.symm

theorem IsTrimmed.of_ends {s : String} {c d : Char} (hfirst : s.toList.head? = some c)
    (hlast : s.toList.getLast? = some d) (hc : isBlank c = false) (hd : isBlank d = false) :
    IsTrimmed s where
  nonempty h := by
    rw [h] at hfirst
    exact nomatch hfirst
  first e he := by
    cases hfirst.symm.trans he
    exact hc
  last e he := by
    cases hlast.symm.trans he
    exact hd

/-- A text between two others has no say in what the ends look like. -/
theorem IsTrimmed.append {s t : String} (hs : IsTrimmed s) (between : String) (ht : IsTrimmed t) :
    IsTrimmed (s ++ between ++ t) where
  nonempty h := ht.nonempty (String.append_eq_empty_iff.1 h).2
  first c hc := by
    have hne : s.toList ≠ [] := fun h => hs.nonempty (String.toList_eq_nil_iff.1 h)
    rw [String.append_assoc, String.toList_append, List.head?_append_of_ne_nil _ hne] at hc
    exact hs.first c hc
  last c hc := by
    have hne : t.toList ≠ [] := fun h => ht.nonempty (String.toList_eq_nil_iff.1 h)
    rw [String.toList_append, List.getLast?_append_of_ne_nil _ hne] at hc
    exact ht.last c hc

/-- What follows a trimmed text may begin where some character was dropped at the end of it. -/
theorem IsTrimmed.trimEndOf_append {s t : String} (hs : IsTrimmed s) (ht : IsTrimmed t)
    (c : Char) : IsTrimmed (trimEndOf c s ++ t) where
  nonempty h := ht.nonempty (String.append_eq_empty_iff.1 h).2
  first d hd := by
    rw [String.toList_append, List.head?_append, trimEndOf, String.toList_ofList] at hd
    cases hfirst : (dropEnd (· == c) s.toList).head? with
    | none =>
        rw [hfirst, Option.none_or] at hd
        exact ht.first d hd
    | some first =>
        rw [hfirst, Option.some_or] at hd
        exact hs.first d (head?_dropEnd (hfirst.trans hd))
  last d hd := by
    have hne : t.toList ≠ [] := fun h => ht.nonempty (String.toList_eq_nil_iff.1 h)
    rw [String.toList_append, List.getLast?_append_of_ne_nil _ hne] at hd
    exact ht.last d hd

end CloudReconciler.Text
