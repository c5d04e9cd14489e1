import CloudReconciler.Numeric.Binary64
import Mathlib.Algebra.Order.Field.Rat
import Mathlib.Algebra.Order.Field.Power
import Mathlib.Tactic.Linarith
import Mathlib.Tactic.Positivity
import Mathlib.Tactic.FieldSimp
import Mathlib.Tactic.Ring

/-! # Rounding — how far a double is from what it stands for

    Every operation on doubles rounds one quotient of naturals.  Below
    `2 ^ 64` the doubles are at most 2048 apart, so each rounding adds no
    more than 1024 to the exact result (`atMost_round`); this is coarse, but
    it bounds the delays of a schedule, whatever they are computed from.

    Bounds are stated for doubles that are not below zero.  A negative zero
    counts as such a double: it is what a zero of either sign gives in a
    product.  `IsNonneg` allows infinities and undefined results as well, and
    is kept by products; `AtMost` does not, and is kept while the bounds stay
    below `2 ^ 64`. -/

namespace CloudReconciler

/-- A quotient rounded to nearest is above it by a half at most. -/
theorem roundDiv_le (num : Nat) {den : Nat} (h : 0 < den) :
    (roundDiv num den : ℚ) ≤ num / den + 1 / 2 := by
  have hnat : 2 * (roundDiv num den * den) ≤ 2 * num + den := by
    have hnum : num / den * den + num % den = num := Nat.div_add_mod' num den
    rw [roundDiv]
    split
    · omega
    · split
      · rw [Nat.add_mul, Nat.one_mul]
        omega
      · have hparity : num / den % 2 * den ≤ 1 * den :=
          Nat.mul_le_mul_right den (Nat.le_of_lt_succ (Nat.mod_lt _ two_pos))
        rw [Nat.add_mul]
        omega
  have hden : (0 : ℚ) < den := Nat.cast_pos.2 h
  have hrat : 2 * ((roundDiv num den : ℚ) * den) ≤ 2 * num + den := by exact_mod_cast hnat
  rw [← sub_nonneg]
  have hdiff : (num : ℚ) / den + 1 / 2 - roundDiv num den =
      (2 * num + den - 2 * (roundDiv num den * den)) / (2 * den) := by
    field_simp
  rw [hdiff]
  exact div_nonneg (by linarith) (by linarith)

namespace Binary64

/-! ## Scaling -/

theorem scaled_pos (num : Nat) {den : Nat} (h : 0 < den) (e : Int) : 0 < (scaled num den e).2 := by
  rw [scaled]
  split
  · exact h
  · exact Nat.mul_pos h (Nat.pow_pos (by decide))

/-- Scaling multiplies a quotient by a power of two. -/
theorem scaled_div (num : Nat) {den : Nat} (h : 0 < den) (e : Int) :
    ((scaled num den e).1 : ℚ) / (scaled num den e).2 = num / den * 2 ^ e := by
  have hden : (den : ℚ) ≠ 0 := Nat.cast_ne_zero.2 (Nat.pos_iff_ne_zero.1 h)
  rw [scaled]
  by_cases he : 0 ≤ e
  · rw [if_pos he]
    obtain ⟨k, rfl⟩ := Int.eq_ofNat_of_zero_le he
    show ((num * 2 ^ k : Nat) : ℚ) / den = num / den * 2 ^ (k : Int)
    rw [Nat.cast_mul, Nat.cast_pow, Nat.cast_ofNat, zpow_natCast]
    ring
  · rw [if_neg he]
    obtain ⟨k, hk⟩ := Int.eq_ofNat_of_zero_le (show 0 ≤ -e by omega)
    obtain rfl : e = -k := by omega
    show (num : ℚ) / ((den * 2 ^ (-(-(k : Int))).toNat : Nat) : ℚ) = num / den * 2 ^ (-(k : Int))
    rw [Int.neg_neg, Int.toNat_natCast, Nat.cast_mul, Nat.cast_pow, Nat.cast_ofNat, zpow_neg,
      zpow_natCast]
    field_simp

/-- The exponent of a quotient does not exceed it. -/
theorem two_zpow_floorLog2_le {num den : Nat} (hnum : num ≠ 0) (hden : den ≠ 0) :
    (2 : ℚ) ^ floorLog2 num den ≤ num / den := by
  have hpos : (0 : ℚ) < den := Nat.cast_pos.2 (Nat.pos_of_ne_zero hden)
  have hk := scaled_div num (Nat.pos_of_ne_zero hden) (-((num.log2 : Int) - den.log2))
  have hd := scaled_pos num (Nat.pos_of_ne_zero hden) (-((num.log2 : Int) - den.log2))
  rw [floorLog2]
  dsimp only
  split
  · next hle =>
      have hone : (1 : ℚ) ≤ num / den * 2 ^ (-((num.log2 : Int) - den.log2)) := by
        rw [← hk, one_le_div (Nat.cast_pos.2 hd)]
        exact_mod_cast hle
      rw [zpow_neg, ← div_eq_mul_inv, one_le_div (zpow_pos two_pos _)] at hone
      exact hone
  · -- the powers of two around numerator and denominator bound the quotient from below
    have hn : ((2 : ℚ) ^ (num.log2 : Int)) ≤ num := by
      rw [zpow_natCast]
      exact_mod_cast Nat.log2_self_le hnum
    have hd : (den : ℚ) ≤ 2 ^ ((den.log2 : Int) + 1) := by
      have hlt : den < 2 ^ (den.log2 + 1) := Nat.lt_log2_self
      rw [show ((den.log2 : Int) + 1) = ((den.log2 + 1 : Nat) : Int) from rfl, zpow_natCast]
      exact_mod_cast hlt.le
    rw [le_div_iff₀ hpos]
    calc (2 : ℚ) ^ ((num.log2 : Int) - den.log2 - 1) * den
        ≤ 2 ^ ((num.log2 : Int) - den.log2 - 1) * 2 ^ ((den.log2 : Int) + 1) :=
          mul_le_mul_of_nonneg_left hd (zpow_nonneg (by norm_num) _)
      _ = 2 ^ (num.log2 : Int) := by
          rw [← zpow_add₀ (by norm_num)]
          congr 1
          omega
      _ ≤ num := hn

/-! ## Doubles that are not below zero -/

/-- The double is not below zero, as far as it is defined. -/
def IsNonneg : Binary64 → Prop
  | .finite negative mantissa _ => negative = true → mantissa = 0
  | .infinite negative => negative = false
  | .undefined => True

/-- The double is finite and lies between zero and the bound. -/
def AtMost (bound : ℚ) : Binary64 → Prop
  | .finite negative mantissa exponent =>
      (negative = true → mantissa = 0) ∧ (mantissa : ℚ) * 2 ^ exponent ≤ bound
  | .infinite _ | .undefined => False

theorem AtMost.isNonneg {bound : ℚ} {x : Binary64} (h : x.AtMost bound) : x.IsNonneg := by
  cases x with
  | finite negative mantissa exponent => exact h.1
  | infinite _ | undefined => exact h.elim

theorem AtMost.mono {a b : ℚ} {x : Binary64} (h : x.AtMost a) (hab : a ≤ b) : x.AtMost b := by
  cases x with
  | finite negative mantissa exponent => exact ⟨h.1, h.2.trans hab⟩
  | infinite _ | undefined => exact h.elim

theorem isNonneg_zero (negative : Bool) : (zero negative).IsNonneg := fun _ => rfl

theorem isNonneg_round {negative : Bool} {num : Nat} (den : Nat) (h : negative = true → num = 0) :
    (round negative num den).IsNonneg := by
  rw [round]
  by_cases hnum : num = 0
  · rw [if_pos hnum]
    exact isNonneg_zero negative
  · have hpositive : negative = false := Bool.eq_false_iff.2 fun hnegative => hnum (h hnegative)
    subst hpositive
    have hunsigned : ∀ (overflows : Prop) [Decidable overflows] (m : Nat) (e : Int),
        (if overflows then infinite false else finite false m e).IsNonneg := by
      intro overflows _ m e
      by_cases h : overflows
      · rw [if_pos h]
        rfl
      · rw [if_neg h]
        exact Bool.false_ne_true.elim
    rw [if_neg hnum]
    exact hunsigned _ _ _

/-- Rounding a quotient below `2 ^ 64` adds at most 1024 to it. -/
theorem atMost_round {negative : Bool} {num den : Nat} {bound : ℚ}
    (h : negative = true → num = 0) (hden : 0 < den) (hle : (num : ℚ) / den ≤ bound)
    (hbound : bound < 2 ^ 64) : (round negative num den).AtMost (bound + 1024) := by
  rw [round]
  by_cases hnum : num = 0
  · rw [if_pos hnum]
    refine ⟨fun _ => rfl, ?_⟩
    rw [hnum, Nat.cast_zero, zero_div] at hle
    rw [Nat.cast_zero, zero_mul]
    linarith
  have hpositive : negative = false := Bool.eq_false_iff.2 fun hnegative => hnum (h hnegative)
  subst hpositive
  rw [if_neg hnum]
  -- the quotient has at most 64 binary places before the point, and 53 of them are kept
  have hlog : floorLog2 num den < 64 := by
    refine (zpow_lt_zpow_iff_right₀ (one_lt_two (α := ℚ))).1 ?_
    exact ((two_zpow_floorLog2_le hnum hden.ne').trans hle).trans_lt hbound
  generalize he : max leastExponent (floorLog2 num den - 52) = e
  have hsmall : e ≤ 11 := by
    rw [← he, leastExponent]
    omega
  have hunit : (2 : ℚ) ^ e ≤ 2048 := by
    refine (zpow_le_zpow_right₀ one_le_two hsmall).trans_eq ?_
    norm_num
  have hmantissa : (roundDiv (scaled num den (-e)).1 (scaled num den (-e)).2 : ℚ) * 2 ^ e ≤
      bound + 1024 := by
    have hround := roundDiv_le (scaled num den (-e)).1 (scaled_pos num hden (-e))
    rw [scaled_div num hden, zpow_neg] at hround
    have hpos : (0 : ℚ) < 2 ^ e := zpow_pos two_pos e
    calc (roundDiv (scaled num den (-e)).1 (scaled num den (-e)).2 : ℚ) * 2 ^ e
        ≤ (num / den * (2 ^ e)⁻¹ + 1 / 2) * 2 ^ e := mul_le_mul_of_nonneg_right hround hpos.le
      _ = num / den + 2 ^ e / 2 := by field_simp
      _ ≤ bound + 1024 := by linarith
  dsimp only
  by_cases hcarry : roundDiv (scaled num den (-e)).1 (scaled num den (-e)).2 = Nat.pow 2 53
  · rw [if_pos hcarry]
    have hfits : ¬ greatestExponent < e + 1 := by
      rw [greatestExponent]
      omega
    rw [if_neg hfits]
    refine ⟨nofun, ?_⟩
    rw [hcarry] at hmantissa
    refine le_trans (le_of_eq ?_) hmantissa
    rw [zpow_add_one₀ two_ne_zero]
    norm_num
    ring
  · rw [if_neg hcarry]
    have hfits : ¬ greatestExponent < e := by
      rw [greatestExponent]
      omega
    rw [if_neg hfits]
    exact ⟨nofun, hmantissa⟩

/-! ## Products and quotients -/

theorem scaled_zero (den : Nat) (e : Int) : (scaled 0 den e).1 = 0 := by
  rw [scaled]
  split
  · exact Nat.zero_mul _
  · rfl

theorem isNonneg_roundScaled {negative : Bool} {m : Nat} (den : Nat) (e : Int)
    (h : negative = true → m = 0) : (roundScaled negative m den e).IsNonneg := by
  show (round negative (scaled m den e).1 (scaled m den e).2).IsNonneg
  refine isNonneg_round _ fun hnegative => ?_
  rw [h hnegative, scaled_zero]

theorem atMost_roundScaled {negative : Bool} {m den : Nat} {e : Int} {bound : ℚ}
    (h : negative = true → m = 0) (hden : 0 < den) (hle : (m : ℚ) / den * 2 ^ e ≤ bound)
    (hbound : bound < 2 ^ 64) : (roundScaled negative m den e).AtMost (bound + 1024) := by
  show (round negative (scaled m den e).1 (scaled m den e).2).AtMost (bound + 1024)
  refine atMost_round (fun hnegative => ?_) (scaled_pos m hden e) ?_ hbound
  · rw [h hnegative, scaled_zero]
  · rw [scaled_div m hden]
    exact hle

/-- A product is negative only if it is zero, where no factor is below zero. -/
theorem eq_zero_of_signs {s t : Bool} {m n : Nat} (hm : s = true → m = 0) (hn : t = true → n = 0)
    (h : (s != t) = true) : m * n = 0 := by
  cases s with
  | true => rw [hm rfl, Nat.zero_mul]
  | false => rw [hn (by simpa using h), Nat.mul_zero]

theorem IsNonneg.mul {x y : Binary64} (hx : x.IsNonneg) (hy : y.IsNonneg) :
    (mul x y).IsNonneg := by
  cases x with
  | undefined => trivial
  | finite s m e =>
      cases y with
      | undefined => trivial
      | finite t n f => exact isNonneg_roundScaled _ _ (eq_zero_of_signs hx hy)
      | infinite t =>
          rw [Binary64.mul]
          by_cases hm : m = 0
          · rw [if_pos hm]
            trivial
          · rw [if_neg hm]
            have hs : s = false := Bool.eq_false_iff.2 fun hs => hm (hx hs)
            rw [hs, show t = false from hy]
            rfl
  | infinite s =>
      cases y with
      | undefined => trivial
      | finite t n f =>
          rw [Binary64.mul]
          by_cases hn : n = 0
          · rw [if_pos hn]
            trivial
          · rw [if_neg hn]
            have ht : t = false := Bool.eq_false_iff.2 fun ht => hn (hy ht)
            rw [ht, show s = false from hx]
            rfl
      | infinite t =>
          rw [Binary64.mul, show s = false from hx, show t = false from hy]
          rfl

theorem AtMost.mul {a b : ℚ} {x y : Binary64} (hx : x.AtMost a) (hy : y.AtMost b)
    (hab : a * b < 2 ^ 64) : (mul x y).AtMost (a * b + 1024) := by
  cases x with
  | infinite _ | undefined => exact hx.elim
  | finite s m e =>
      cases y with
      | infinite _ | undefined => exact hy.elim
      | finite t n f =>
          obtain ⟨hm, ha⟩ := hx
          obtain ⟨hn, hb⟩ := hy
          refine atMost_roundScaled (eq_zero_of_signs hm hn) one_pos ?_ hab
          have hvalue : ((m * n : Nat) : ℚ) / (1 : Nat) * 2 ^ (e + f) =
              m * 2 ^ e * (n * 2 ^ f) := by
            rw [zpow_add₀ two_ne_zero]
            push_cast
            ring
          rw [hvalue]
          have hpos : (0 : ℚ) ≤ n * 2 ^ f := by positivity
          have hnonneg : (0 : ℚ) ≤ m * 2 ^ e := by positivity
          exact mul_le_mul ha hb hpos (hnonneg.trans ha)

/-- A quotient by a positive double. -/
theorem AtMost.div {a bound : ℚ} {x : Binary64} {n : Nat} {f : Int} (hx : x.AtMost a)
    (hn : n ≠ 0) (ha : a ≤ bound * (n * 2 ^ f)) (hbound : bound < 2 ^ 64) :
    (div x (.finite false n f)).AtMost (bound + 1024) := by
  cases x with
  | infinite _ | undefined => exact hx.elim
  | finite s m e =>
      obtain ⟨hm, hle⟩ := hx
      rw [Binary64.div, if_neg hn]
      refine atMost_roundScaled (fun hs => hm (by simpa using hs)) (Nat.pos_of_ne_zero hn) ?_
        hbound
      have hpos : (0 : ℚ) < n := Nat.cast_pos.2 (Nat.pos_of_ne_zero hn)
      have htwo : (0 : ℚ) < 2 ^ f := zpow_pos two_pos f
      have hvalue : (m : ℚ) / n * 2 ^ (e - f) = m * 2 ^ e / (n * 2 ^ f) := by
        rw [zpow_sub₀ two_ne_zero]
        field_simp
      rw [hvalue, div_le_iff₀ (mul_pos hpos htwo)]
      exact hle.trans ha

/-! ## Sums and comparisons -/

/-- The value of a finite double. -/
def value (negative : Bool) (mantissa : Nat) (exponent : Int) : ℚ :=
  (if negative then -(mantissa : ℚ) else mantissa) * 2 ^ exponent

theorem value_of_nonneg {negative : Bool} {m : Nat} {e : Int} (h : negative = true → m = 0) :
    value negative m e = m * 2 ^ e := by
  cases negative with
  | true =>
      rw [value, if_pos rfl, h rfl]
      simp
  | false => rfl

/-- Alignment gives the value in units of a power of two. -/
theorem aligned_mul (s : Bool) (m : Nat) {e low : Int} (h : low ≤ e) :
    (aligned s m e low : ℚ) * 2 ^ low = value s m e := by
  have hunits : ((m * 2 ^ (e - low).toNat : Nat) : ℚ) * 2 ^ low = m * 2 ^ e := by
    have hexp : (((e - low).toNat : Nat) : Int) = e - low := Int.toNat_of_nonneg (by omega)
    rw [Nat.cast_mul, Nat.cast_pow, Nat.cast_ofNat, ← zpow_natCast, hexp, mul_assoc,
      ← zpow_add₀ two_ne_zero, Int.sub_add_cancel]
  cases s with
  | true =>
      show ((-((m * 2 ^ (e - low).toNat : Nat) : Int) : Int) : ℚ) * 2 ^ low = -(m : ℚ) * 2 ^ e
      rw [Int.cast_neg, Int.cast_natCast, neg_mul, hunits, neg_mul]
  | false =>
      show ((((m * 2 ^ (e - low).toNat : Nat) : Int) : Int) : ℚ) * 2 ^ low = (m : ℚ) * 2 ^ e
      rw [Int.cast_natCast, hunits]

theorem aligned_nonneg {s : Bool} {m : Nat} (e low : Int) (h : s = true → m = 0) :
    0 ≤ aligned s m e low := by
  cases s with
  | true =>
      rw [aligned, if_pos rfl, h rfl, Nat.zero_mul]
      rfl
  | false => exact Int.natCast_nonneg _

/-- Finite doubles are compared by their values. -/
theorem lt_finite {s t : Bool} {m n : Nat} {e f : Int} :
    lt (.finite s m e) (.finite t n f) = true ↔ value s m e < value t n f := by
  rw [← aligned_mul s m (Int.min_le_left e f), ← aligned_mul t n (Int.min_le_right e f),
    mul_lt_mul_iff_left₀ (zpow_pos two_pos _), Int.cast_lt]
  exact decide_eq_true_iff

theorem IsNonneg.add {x y : Binary64} (hx : x.IsNonneg) (hy : y.IsNonneg) :
    (add x y).IsNonneg := by
  cases x with
  | undefined => trivial
  | finite s m e =>
      cases y with
      | undefined => trivial
      | infinite t => exact hy
      | finite t n f =>
          have hsum : 0 ≤ aligned s m e (min e f) + aligned t n f (min e f) :=
            Int.add_nonneg (aligned_nonneg _ _ hx) (aligned_nonneg _ _ hy)
          rw [Binary64.add]
          split
          · exact isNonneg_zero _
          · refine isNonneg_roundScaled _ _ fun hnegative => ?_
            exact absurd (of_decide_eq_true hnegative) (Int.not_lt.2 hsum)
  | infinite s =>
      cases y with
      | undefined => trivial
      | finite t n f => exact hx
      | infinite t =>
          rw [Binary64.add, show s = false from hx, show t = false from hy]
          rfl

theorem AtMost.add {a b : ℚ} {x y : Binary64} (hx : x.AtMost a) (hy : y.AtMost b)
    (hab : a + b < 2 ^ 64) : (add x y).AtMost (a + b + 1024) := by
  cases x with
  | infinite _ | undefined => exact hx.elim
  | finite s m e =>
      cases y with
      | infinite _ | undefined => exact hy.elim
      | finite t n f =>
          obtain ⟨hm, ha⟩ := hx
          obtain ⟨hn, hb⟩ := hy
          have hle := Int.add_nonneg (aligned_nonneg e (min e f) hm) (aligned_nonneg f (min e f) hn)
          have hvalue : ((aligned s m e (min e f) + aligned t n f (min e f) : Int) : ℚ) *
              2 ^ min e f = m * 2 ^ e + n * 2 ^ f := by
            rw [Int.cast_add, add_mul, aligned_mul s m (Int.min_le_left e f),
              aligned_mul t n (Int.min_le_right e f), value_of_nonneg hm, value_of_nonneg hn]
          rw [Binary64.add]
          generalize aligned s m e (min e f) + aligned t n f (min e f) = sum at hle hvalue ⊢
          obtain ⟨units, rfl⟩ := Int.eq_ofNat_of_zero_le hle
          have hsum : (units : ℚ) * 2 ^ min e f ≤ a + b := by
            rw [Int.cast_natCast] at hvalue
            rw [hvalue]
            exact add_le_add ha hb
          split
          · have hnonneg : (0 : ℚ) ≤ units * 2 ^ min e f := by positivity
            refine ⟨fun _ => rfl, ?_⟩
            rw [Nat.cast_zero, zero_mul]
            linarith
          · refine atMost_roundScaled (fun hnegative => ?_) one_pos ?_ hab
            · exact absurd (of_decide_eq_true hnegative) (Int.not_lt.2 hle)
            · rw [Nat.cast_one, div_one]
              exact hsum

/-- The smaller of two doubles is at most the second. -/
theorem AtMost.least {b : ℚ} {x y : Binary64} (hx : x.IsNonneg) (hy : y.AtMost b) :
    (least x y).AtMost b := by
  cases y with
  | infinite _ | undefined => exact hy.elim
  | finite t n f =>
      cases x with
      | undefined => exact hy
      | infinite s =>
          rw [show s = false from hx]
          exact hy
      | finite s m e =>
          show (if lt (.finite t n f) (.finite s m e) then _ else _ : Binary64).AtMost b
          by_cases hlt : lt (.finite t n f) (.finite s m e) = true
          · rw [if_pos hlt]
            exact hy
          · rw [if_neg hlt]
            rw [lt_finite, not_lt, value_of_nonneg hx, value_of_nonneg hy.1] at hlt
            exact ⟨hx, hlt.trans hy.2⟩

/-- What is not less than a double of positive sign is not below zero. -/
theorem isNonneg_of_not_lt {x : Binary64} {n : Nat} {f : Int}
    (h : lt x (.finite false n f) = false) : x.IsNonneg := by
  cases x with
  | undefined => trivial
  | infinite s => exact h
  | finite s m e =>
      intro hs
      have hlt : ¬ lt (.finite s m e) (.finite false n f) = true := Bool.eq_false_iff.1 h
      rw [lt_finite, not_lt, hs, value, value, if_neg Bool.false_ne_true, if_pos rfl,
        neg_mul] at hlt
      have hpos : (0 : ℚ) < 2 ^ e := zpow_pos two_pos e
      have hnonneg : (0 : ℚ) ≤ n * 2 ^ f := by positivity
      have hzero : (m : ℚ) ≤ 0 := nonpos_of_mul_nonpos_left (by linarith) hpos
      exact Nat.le_zero.1 (by exact_mod_cast hzero)

/-- What is less than a double is at most its value. -/
theorem IsNonneg.atMost_of_lt {x : Binary64} {n : Nat} {f : Int} (hx : x.IsNonneg)
    (h : lt x (.finite false n f) = true) : x.AtMost (n * 2 ^ f) := by
  cases x with
  | undefined => exact absurd h Bool.false_ne_true
  | infinite s => exact absurd h (Bool.eq_false_iff.1 hx)
  | finite s m e =>
      rw [lt_finite, value_of_nonneg hx, value_of_nonneg Bool.false_ne_true.elim] at h
      exact ⟨hx, h.le⟩

/-! ## Powers -/

theorem IsNonneg.powBits {x r : Binary64} (bits n : Nat) (hx : x.IsNonneg) (hr : r.IsNonneg) :
    (powBits bits x n r).IsNonneg := by
  induction bits generalizing x r n with
  | zero => exact hr
  | succ bits ih =>
      have hnext : (if n % 2 = 1 then Binary64.mul r x else r).IsNonneg := by
        by_cases hodd : n % 2 = 1
        · rw [if_pos hodd]
          exact hr.mul hx
        · rw [if_neg hodd]
          exact hr
      rw [Binary64.powBits]
      by_cases hlast : n / 2 = 0
      · rw [if_pos hlast]
        exact hnext
      · rw [if_neg hlast]
        exact ih _ (hx.mul hx) hnext

theorem isNonneg_ofNat (n : Nat) : (ofNat n).IsNonneg := isNonneg_round 1 nofun

theorem IsNonneg.pow {x : Binary64} (hx : x.IsNonneg) (n : Nat) : (pow x n).IsNonneg :=
  hx.powBits _ _ (isNonneg_ofNat 1)

theorem atMost_ofNat {n : Nat} {bound : ℚ} (hn : (n : ℚ) ≤ bound) (hbound : bound < 2 ^ 64) :
    (ofNat n).AtMost (bound + 1024) := by
  refine atMost_round nofun one_pos ?_ hbound
  rw [Nat.cast_one, div_one]
  exact hn

end Binary64

end CloudReconciler
