import CloudReconciler.Proofs.Time.Calendar
import CloudReconciler.Time.Rfc3339
import Mathlib.Algebra.Group.Nat.Defs
import Mathlib.Data.List.Induction

/-! # RFC 3339, read back — the text of an instant names it

    Every part of the text has a reader that takes it off the front of
    whatever follows: a padded number, a year, a fraction.  Put together,
    the reader of an instant finds the instant that was written, if a clock
    can show it (`Instant.IsShown`). -/

namespace CloudReconciler

/-- A clock can show the instant: its date can be held, and a leap second ends a minute. -/
def Instant.IsShown (t : Instant) : Prop :=
  t.isHeld = true ∧ (t.nanos < Duration.nanosPerSecond ∨
    t.nanos < 2 * Duration.nanosPerSecond ∧ t.seconds % 60 = 59)

instance (t : Instant) : Decidable t.IsShown := inferInstanceAs (Decidable (_ ∧ _))

namespace Rfc3339

/-! ## Digits -/

theorem digitsValue_eq (ds : List Char) : digitsValue ds = Nat.ofDigitChars 10 ds 0 := by
  rw [Nat.ofDigitChars_eq_foldl, digitsValue]
  congr 1
  funext n c
  rw [Nat.mul_comm]

theorem isBlank_of_isDigit {c : Char} (h : c.isDigit = true) : Text.isBlank c = false := by
  simp only [Char.isDigit, Bool.and_eq_true, decide_eq_true_eq, UInt32.le_iff_toNat_le] at h
  have hlow : 48 ≤ c.toNat := h.1
  have hhigh : c.toNat ≤ 57 := h.2
  simp only [Text.isBlank, Bool.or_eq_false_iff, Bool.and_eq_false_iff, decide_eq_false_iff_not,
    beq_eq_false_iff_ne]
  omega

section

variable {width n : Nat} {rest : List Char}

theorem padded_eq (width n : Nat) :
    padded width n =
      List.replicate (width - (Nat.toDigits 10 n).length) '0' ++ Nat.toDigits 10 n := by
  rw [padded, Nat.toString_eq_ofList_toDigits, String.toList_ofList]

theorem padded_ne_nil (width n : Nat) : padded width n ≠ [] := by
  rw [padded_eq]
  exact List.append_ne_nil_of_right_ne_nil _ Nat.toDigits_ne_nil

theorem isDigit_of_mem_padded : ∀ c ∈ padded width n, c.isDigit = true := by
  intro c hc
  rw [padded_eq] at hc
  rcases List.mem_append.1 hc with hc | hc
  · rw [List.eq_of_mem_replicate hc]
    rfl
  · exact Nat.isDigit_of_mem_toDigits (by decide) (by decide) hc

@[simp] theorem digitsValue_padded : digitsValue (padded width n) = n := by
  rw [digitsValue_eq, padded_eq, Nat.ofDigitChars_append, Nat.ofDigitChars_replicate_zero,
    Nat.mul_zero, Nat.ofDigitChars_ten_toDigits]

theorem length_padded (hwidth : 0 < width) (h : n < 10 ^ width) :
    (padded width n).length = width := by
  have hlength := (Nat.length_toDigits_le_iff (by decide) hwidth).2 h
  rw [padded_eq, List.length_append, List.length_replicate]
  omega

theorem exists_padded (width n : Nat) : ∃ c ds, padded width n = c :: ds ∧ c.isDigit = true := by
  obtain ⟨c, ds, h⟩ := List.exists_cons_of_ne_nil (padded_ne_nil width n)
  exact ⟨c, ds, h, isDigit_of_mem_padded c (h ▸ List.mem_cons_self ..)⟩

/-- Digits are taken up to the first other character, or up to the limit. -/
theorem leadingDigits_append {most : Nat} {ds : List Char} (hds : ∀ c ∈ ds, c.isDigit = true)
    (hmost : ds.length ≤ most)
    (hrest : ds.length = most ∨ ∀ c ∈ rest.head?, c.isDigit = false) :
    leadingDigits most (ds ++ rest) = ds := by
  induction ds generalizing most with
  | nil =>
      cases most with
      | zero => rfl
      | succ most =>
          rcases hrest with hrest | hrest
          · exact nomatch hrest
          · cases rest with
            | nil => rfl
            | cons c rest =>
                have hc : c.isDigit = false := hrest c rfl
                rw [List.nil_append, leadingDigits, hc]
                rfl
  | cons d ds ih =>
      obtain ⟨hd, hds⟩ := List.forall_mem_cons.1 hds
      cases most with
      | zero => exact absurd hmost (Nat.not_succ_le_zero _)
      | succ most =>
          rw [List.cons_append, leadingDigits, if_pos hd,
            ih hds (Nat.le_of_succ_le_succ hmost) (hrest.imp Nat.succ.inj id)]

/-! ## Parts of the text -/

theorem skipBlanks_cons {c : Char} (h : Text.isBlank c = false) :
    skipBlanks (c :: rest) = c :: rest := by
  rw [skipBlanks, List.dropWhile_cons, h]
  rfl

theorem skipBlanks_padded : skipBlanks (padded width n ++ rest) = padded width n ++ rest := by
  obtain ⟨c, ds, h, hc⟩ := exists_padded width n
  rw [h, List.cons_append]
  exact skipBlanks_cons (isBlank_of_isDigit hc)

/-- A padded number of full width is read whatever follows it. -/
theorem number?_padded (hwidth : 0 < width) (h : n < 10 ^ width) :
    number? width (padded width n ++ rest) = some (n, rest) := by
  have hlength := length_padded hwidth h
  have hdigits : leadingDigits width (padded width n ++ rest) = padded width n :=
    leadingDigits_append isDigit_of_mem_padded (Nat.le_of_eq hlength) (.inl hlength)
  rw [number?, skipBlanks_padded, hdigits]
  obtain ⟨c, ds, hpadded, -⟩ := exists_padded width n
  simp only [hpadded]
  rw [← hpadded, digitsValue_padded, List.drop_left]

theorem year?_signed (sign : Int) :
    year?.signed sign (padded width n ++ '-' :: rest) = some (sign * n, '-' :: rest) := by
  have hdigits : leadingDigits (padded width n ++ '-' :: rest).length
      (padded width n ++ '-' :: rest) = padded width n := by
    refine leadingDigits_append isDigit_of_mem_padded ?_ (.inr ?_)
    · rw [List.length_append]
      exact Nat.le_add_right _ _
    · rintro c ⟨⟩
      rfl
  rw [year?.signed, hdigits]
  obtain ⟨c, ds, hpadded, -⟩ := exists_padded width n
  simp only [hpadded]
  rw [← hpadded, digitsValue_padded, List.drop_left]

theorem year?_yearText (y : Int) :
    year? (yearText y ++ '-' :: rest) = some (y, '-' :: rest) := by
  rw [yearText]
  split
  · next hy =>
    have hsmall : y.toNat < 10 ^ 4 := by omega
    have hnumber : number? 4 (padded 4 y.toNat ++ '-' :: rest) = some (y.toNat, '-' :: rest) :=
      number?_padded (by decide) hsmall
    obtain ⟨c, ds, hpadded, hc⟩ := exists_padded 4 y.toNat
    rw [year?, skipBlanks_padded]
    rw [hpadded, List.cons_append] at hnumber ⊢
    split
    · next heq =>
      cases heq
      exact nomatch hc
    · next heq =>
      cases heq
      exact nomatch hc
    · rw [hnumber, Option.map_some]
      simp only [Option.some.injEq, Prod.mk.injEq, and_true]
      omega
  · next hy =>
    by_cases hneg : y < 0
    · rw [if_pos hneg, List.cons_append, year?, skipBlanks_cons rfl]
      show year?.signed (-1) _ = _
      rw [year?_signed]
      simp only [Option.some.injEq, Prod.mk.injEq, and_true]
      omega
    · rw [if_neg hneg, List.cons_append, year?, skipBlanks_cons rfl]
      show year?.signed 1 _ = _
      rw [year?_signed]
      simp only [Option.some.injEq, Prod.mk.injEq, and_true]
      omega

theorem fraction?_padded (hwidth : 0 < width) (hnine : width ≤ 9) (h : n < 10 ^ width) :
    fraction? ('.' :: padded width n ++ 'Z' :: rest) =
      some (n * 10 ^ (9 - width), 'Z' :: rest) := by
  have hlength := length_padded hwidth h
  have hdigits : leadingDigits 9 (padded width n ++ 'Z' :: rest) = padded width n := by
    have hle : (padded width n).length ≤ 9 := Nat.le_trans (Nat.le_of_eq hlength) hnine
    refine leadingDigits_append isDigit_of_mem_padded hle (.inr ?_)
    rintro c ⟨⟩
    rfl
  rw [List.cons_append, fraction?, hdigits]
  obtain ⟨c, ds, hpadded, -⟩ := exists_padded width n
  simp only [hpadded]
  rw [← hpadded, digitsValue_padded, List.drop_left, hlength]
  rfl

/-- A fraction of a second is read back exactly. -/
theorem fraction?_fractionText {nanos : Nat} (h : nanos < Duration.nanosPerSecond) :
    fraction? (fractionText nanos ++ 'Z' :: rest) = some (nanos, 'Z' :: rest) := by
  have hbound : nanos < 1000000000 := h
  rw [fractionText]
  split
  · next hzero =>
    rw [hzero]
    rfl
  · split
    · next hmillis =>
      rw [fraction?_padded (by decide) (by decide) (by omega)]
      simp only [Option.some.injEq, Prod.mk.injEq, and_true]
      omega
    · split
      · next hmicros =>
        rw [fraction?_padded (by decide) (by decide) (by omega)]
        simp only [Option.some.injEq, Prod.mk.injEq, and_true]
        omega
      · rw [fraction?_padded (by decide) (by decide) (by omega)]
        simp only [Option.some.injEq, Prod.mk.injEq, and_true]
        omega

end

/-! ## Whole instants -/

/-- The text of an instant, part by part. -/
theorem toList_write (t : Instant) :
    (write t).toList =
      yearText (CivilDate.ofDays (t.seconds / 86400)).year ++ '-' ::
        (padded 2 (CivilDate.ofDays (t.seconds / 86400)).month ++ '-' ::
          (padded 2 (CivilDate.ofDays (t.seconds / 86400)).day ++ 'T' ::
            (padded 2 (t.secondOfDay.toNat / 3600) ++ ':' ::
              (padded 2 (t.secondOfDay.toNat / 60 % 60) ++ ':' ::
                (padded 2 (t.secondOfDay.toNat % 60 + (if t.inLeap then 1 else 0)) ++
                  (fractionText (t.nanos % Duration.nanosPerSecond) ++ ['Z'])))))) := by
  rw [write, String.toList_ofList]
  simp only [wholeText, List.append_assoc, List.cons_append]

/-- A separator is taken off, as it is not taken for a blank. -/
theorem exactly?_skipBlanks {c : Char} (h : Text.isBlank c = false) (rest : List Char) :
    exactly? c (skipBlanks (c :: rest)) = some rest := by
  rw [skipBlanks_cons h]
  exact if_pos rfl

/-- A reader goes on with what the first part has come to. -/
theorem bind_of_eq_some {α β : Type} {x : Option α} {a : α} {next : α → Option β} {b : Option β}
    (hx : x = some a) (hnext : next a = b) : (x >>= next) = b := by
  rw [hx]
  exact hnext

/-- The date of an instant that can be held is valid. -/
theorem isValid_of_isHeld {t : Instant} (h : t.isHeld = true) :
    (CivilDate.ofDays (t.seconds / 86400)).isValid = true := by
  rw [Instant.isHeld, Bool.and_eq_true, decide_eq_true_eq, decide_eq_true_eq] at h
  exact CivilDate.isValid_ofDays (by omega) (by omega)

section

variable {t : Instant} {second : Nat}

/-- Only a leap second is the 61st of its minute. -/
theorem second_eq_sixty (h : t.IsShown) (hsecond : t.secondOfDay = second) :
    (second % 60 + (if t.inLeap then 1 else 0) == 60) = t.inLeap := by
  obtain ⟨-, hnanos⟩ := h
  rw [Instant.secondOfDay] at hsecond
  rw [Instant.inLeap]
  by_cases hleap : Duration.nanosPerSecond ≤ t.nanos
  · have hlast : second % 60 = 59 := by omega
    simp only [hleap, hlast, decide_true, if_true, beq_self_eq_true]
  · simp only [hleap, decide_false, Bool.false_eq_true, if_false, beq_eq_false_iff_ne]
    omega

/-- An instant is put together from its day, its time of day and its fraction. -/
theorem instant_eq (h : t.IsShown) (hsecond : t.secondOfDay = second) :
    (⟨t.seconds / 86400 * 86400 +
        (second / 3600 * 3600 + second / 60 % 60 * 60 +
          (if t.inLeap then 59 else second % 60 + (if t.inLeap then 1 else 0)) : Nat) - 0,
      t.nanos % Duration.nanosPerSecond + (if t.inLeap then Duration.nanosPerSecond else 0)⟩ :
        Instant) = t := by
  have hnanosPerSecond : Duration.nanosPerSecond = 1000000000 := rfl
  have hsixty := second_eq_sixty h hsecond
  obtain ⟨-, hnanos⟩ := h
  rw [Instant.secondOfDay] at hsecond
  refine congr (congrArg Instant.mk ?_) ?_
  · cases hleap : t.inLeap with
    | true =>
        rw [hleap, beq_iff_eq] at hsixty
        simp only [if_true] at hsixty ⊢
        omega
    | false =>
        simp only [Bool.false_eq_true, if_false]
        omega
  · rw [Instant.inLeap]
    by_cases hleap : Duration.nanosPerSecond ≤ t.nanos
    · rw [if_pos (decide_eq_true hleap), hnanosPerSecond]
      omega
    · rw [if_neg (fun htrue => hleap (of_decide_eq_true htrue)), hnanosPerSecond]
      omega

/-- The text of an instant that a clock can show is read as the instant. -/
theorem read?_write (h : t.IsShown) : read? (write t) = some t := by
  obtain ⟨second, hsecond⟩ := Int.eq_ofNat_of_zero_le (Int.emod_nonneg t.seconds
    (by decide : (86400 : Int) ≠ 0))
  have hday : t.secondOfDay = second := hsecond
  have hinstant := instant_eq h hday
  rw [← CivilDate.toDays_ofDays (t.seconds / 86400)] at hinstant
  have hvalid := isValid_of_isHeld h.1
  rw [read?, toList_write, hday, Int.toNat_natCast]
  generalize CivilDate.ofDays (t.seconds / 86400) = date at hvalid hinstant ⊢
  -- every number has the width that it was padded to
  have hmonth : date.month < 10 ^ 2 ∧ date.day < 10 ^ 2 := by
    simp only [CivilDate.isValid, Bool.and_eq_true, decide_eq_true_eq] at hvalid
    have hlength := CivilDate.daysInMonth_le date.year date.month
    omega
  have hhour : second / 3600 < 24 := by
    rw [Instant.secondOfDay] at hday
    omega
  have hminute : second / 60 % 60 < 60 := Nat.mod_lt _ (by decide)
  have hsixty : second % 60 + (if t.inLeap then 1 else 0) ≤ 60 := by
    split <;> omega
  have hwide : second % 60 + (if t.inLeap then 1 else 0) < 10 ^ 2 := by omega
  have htwo : 0 < 2 := by decide
  have hnanos : t.nanos % Duration.nanosPerSecond < Duration.nanosPerSecond :=
    Nat.mod_lt _ (by decide)
  -- the parts are taken off the text from left to right
  refine bind_of_eq_some (year?_yearText date.year) ?_
  refine bind_of_eq_some (exactly?_skipBlanks rfl _) ?_
  refine bind_of_eq_some (number?_padded htwo hmonth.1) ?_
  refine bind_of_eq_some (exactly?_skipBlanks rfl _) ?_
  refine bind_of_eq_some (number?_padded htwo hmonth.2) ?_
  refine bind_of_eq_some rfl ?_
  refine bind_of_eq_some (number?_padded htwo (by omega)) ?_
  refine bind_of_eq_some (exactly?_skipBlanks rfl _) ?_
  refine bind_of_eq_some (number?_padded htwo (by omega)) ?_
  refine bind_of_eq_some (exactly?_skipBlanks rfl _) ?_
  refine bind_of_eq_some (number?_padded htwo hwide) ?_
  refine bind_of_eq_some (fraction?_fractionText hnanos) ?_
  refine bind_of_eq_some rfl ?_
  dsimp only
  rw [second_eq_sixty h hday]
  rw [hinstant, if_pos h.1]
  refine if_pos ?_
  simp only [hvalid, hhour, hminute, hsixty, decide_true, Bool.and_true]
  decide

end

/-! ## What is read can be shown -/

section

variable {most nanos : Nat} {cs ds rest : List Char} {offset : Int} {text : String} {t : Instant}

theorem leadingDigits_spec (most : Nat) (cs : List Char) :
    (leadingDigits most cs).length ≤ most ∧ ∀ c ∈ leadingDigits most cs, c.isDigit = true := by
  induction most generalizing cs with
  | zero => exact ⟨Nat.le_refl 0, fun c hc => nomatch hc⟩
  | succ most ih =>
      cases cs with
      | nil => exact ⟨Nat.zero_le _, fun c hc => nomatch hc⟩
      | cons c cs =>
          rw [leadingDigits]
          split
          · next hc =>
            obtain ⟨hlength, hdigits⟩ := ih cs
            exact ⟨Nat.succ_le_succ hlength, List.forall_mem_cons.2 ⟨hc, hdigits⟩⟩
          · exact ⟨Nat.zero_le _, fun c hc => nomatch hc⟩

theorem digitsValue_lt (h : ∀ c ∈ ds, c.isDigit = true) : digitsValue ds < 10 ^ ds.length := by
  induction ds using List.reverseRecOn with
  | nil => exact Nat.one_pos
  | append_singleton ds c ih =>
      have hds := ih fun d hd => h d (List.mem_append_left _ hd)
      have hc := h c (List.mem_append_right _ (List.mem_singleton_self c))
      rw [Char.isDigit, Bool.and_eq_true, decide_eq_true_eq, decide_eq_true_eq] at hc
      have hhigh : c.toNat ≤ 57 := UInt32.le_iff_toNat_le.1 hc.2
      have hzero : '0'.toNat = 48 := rfl
      rw [digitsValue, List.foldl_append, List.length_append, List.length_singleton, Nat.pow_succ]
      show digitsValue ds * 10 + (c.toNat - '0'.toNat) < _
      omega

theorem fraction?_lt (h : fraction? cs = some (nanos, rest)) : nanos < Duration.nanosPerSecond := by
  unfold fraction? at h
  split at h
  · next tail =>
    split at h
    · exact nomatch h
    · next hne =>
      obtain ⟨hlength, hdigits⟩ := leadingDigits_spec 9 tail
      have hlt := digitsValue_lt hdigits
      cases h
      generalize leadingDigits 9 tail = ds at hlength hlt
      have hpow : 10 ^ ds.length * 10 ^ (9 - ds.length) = 10 ^ 9 := by
        rw [← Nat.pow_add, Nat.add_sub_cancel' hlength]
      exact Nat.lt_of_lt_of_eq (Nat.mul_lt_mul_of_pos_right hlt (Nat.pow_pos (by decide))) hpow
  · cases h
    decide

theorem offset?_signed_mod {sign : Int} (h : offset?.signed sign cs = some (offset, rest)) :
    offset % 60 = 0 := by
  rw [offset?.signed] at h
  obtain ⟨⟨hours, s⟩, -, h⟩ := Option.bind_eq_some_iff.1 h
  obtain ⟨⟨minutes, s'⟩, -, h⟩ := Option.bind_eq_some_iff.1 h
  obtain ⟨-, heq⟩ := Option.ite_none_right_eq_some.1 h
  cases heq
  refine Int.emod_eq_zero_of_dvd (Int.dvd_mul_of_dvd_right ?_)
  omega

/-- Offsets are whole minutes. -/
theorem offset?_mod (h : offset? cs = some (offset, rest)) : offset % 60 = 0 := by
  unfold offset? at h
  split at h
  · cases h
    rfl
  · cases h
    rfl
  · exact offset?_signed_mod h
  · exact offset?_signed_mod h
  · exact offset?_signed_mod h
  · obtain ⟨-, heq⟩ := Option.ite_none_right_eq_some.1 h
    cases heq
    rfl
  · exact nomatch h

/-- The part of a text behind its date. -/
def clock? (date : CivilDate) (s : List Char) : Option Instant := do
  let (hour, s) ← number? 2 s
  let s ← exactly? ':' (skipBlanks s)
  let (minute, s) ← number? 2 s
  let s ← exactly? ':' (skipBlanks s)
  let (second, s) ← number? 2 s
  let (nanos, s) ← fraction? s
  let (offset, s) ← offset? (skipBlanks s)
  if (skipBlanks s).isEmpty && date.isValid && hour < 24 && minute < 60 && second ≤ 60 &&
      offset.natAbs < 86400 then
    let leap := second == 60
    let second := if leap then 59 else second
    let t : Instant :=
      ⟨date.toDays * 86400 + (hour * 3600 + minute * 60 + second : Nat) - offset,
        nanos + (if leap then Duration.nanosPerSecond else 0)⟩
    if t.isHeld then some t else none
  else none

theorem exists_clock?_of_read? (h : read? text = some t) :
    ∃ date s, clock? date s = some t := by
  rw [read?] at h
  obtain ⟨⟨year, _⟩, -, h⟩ := Option.bind_eq_some_iff.1 h
  obtain ⟨_, -, h⟩ := Option.bind_eq_some_iff.1 h
  obtain ⟨⟨month, _⟩, -, h⟩ := Option.bind_eq_some_iff.1 h
  obtain ⟨_, -, h⟩ := Option.bind_eq_some_iff.1 h
  obtain ⟨⟨day, _⟩, -, h⟩ := Option.bind_eq_some_iff.1 h
  dsimp only at h
  split at h
  · exact ⟨_, _, h⟩
  · exact ⟨_, _, h⟩
  · exact ⟨_, _, h⟩
  · exact nomatch h

/-- An instant that is read is one that clocks can show. -/
theorem isShown_of_read? (h : read? text = some t) : t.IsShown := by
  obtain ⟨date, s, h⟩ := exists_clock?_of_read? h
  rw [clock?] at h
  obtain ⟨⟨hour, _⟩, -, h⟩ := Option.bind_eq_some_iff.1 h
  obtain ⟨_, -, h⟩ := Option.bind_eq_some_iff.1 h
  obtain ⟨⟨minute, _⟩, -, h⟩ := Option.bind_eq_some_iff.1 h
  obtain ⟨_, -, h⟩ := Option.bind_eq_some_iff.1 h
  obtain ⟨⟨second, _⟩, -, h⟩ := Option.bind_eq_some_iff.1 h
  obtain ⟨⟨nanos, _⟩, hfraction, h⟩ := Option.bind_eq_some_iff.1 h
  obtain ⟨⟨offset, _⟩, hoffset, h⟩ := Option.bind_eq_some_iff.1 h
  obtain ⟨-, h⟩ := Option.ite_none_right_eq_some.1 h
  obtain ⟨hheld, heq⟩ := Option.ite_none_right_eq_some.1 h
  have hnanos := fraction?_lt hfraction
  have hminutes := offset?_mod hoffset
  refine ⟨Option.some.inj heq ▸ hheld, ?_⟩
  cases heq
  by_cases hleap : second = 60
  · subst hleap
    refine .inr ⟨?_, ?_⟩
    · show nanos + Duration.nanosPerSecond < _
      omega
    · show (date.toDays * 86400 + (hour * 3600 + minute * 60 + 59 : Nat) - offset) % 60 = 59
      omega
  · left
    show nanos + (if (second == 60) = true then Duration.nanosPerSecond else 0) < _
    rwa [if_neg (fun heq => hleap (beq_iff_eq.1 heq)), Nat.add_zero]

/-- Exactly the instants that clocks can show are read back. -/
theorem read?_write_iff : read? (write t) = some t ↔ t.IsShown := ⟨isShown_of_read?, read?_write⟩

end

end Rfc3339

end CloudReconciler
