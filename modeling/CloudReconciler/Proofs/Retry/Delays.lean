import CloudReconciler.Retry.Backoff
import CloudReconciler.Proofs.Numeric.Rounding

/-! # Delays — a schedule that grows always has a next one

    A delay is computed in doubles and fails if the result is negative or
    too long for a timer.  Where the factor between delays is not negative
    the growth is not negative either, so the longest delay bounds the
    result, even where the growth has become infinite or undefined.  Below
    `2 ^ 63` seconds there is room for every rounding on the way and for
    half of the delay once more, which is what the jitter may add. -/

namespace CloudReconciler

namespace Duration

/-- Rounding to nanoseconds keeps a bound in whole seconds. -/
theorem exists_ofBinary64? {x : Binary64} {k : Nat} (hx : x.AtMost k) (hk : k < 2 ^ 64) :
    ∃ d, ofBinary64? x = some d ∧ d.nanos ≤ k * nanosPerSecond := by
  cases x with
  | infinite _ | undefined => exact hx.elim
  | finite s m e =>
      obtain ⟨hsign, hle⟩ := hx
      rw [ofBinary64?]
      by_cases hm : m = 0
      · rw [if_pos hm]
        exact ⟨zero, rfl, Nat.zero_le _⟩
      · have hs : ¬ s = true := fun hs => hm (hsign hs)
        rw [if_neg hm, if_neg hs]
        have hround := roundDiv_le (Binary64.scaled (m * nanosPerSecond) 1 e).1
          (Binary64.scaled_pos (m * nanosPerSecond) one_pos e)
        rw [Binary64.scaled_div _ one_pos] at hround
        dsimp only
        generalize roundDiv (Binary64.scaled (m * nanosPerSecond) 1 e).1
          (Binary64.scaled (m * nanosPerSecond) 1 e).2 = nanos at hround ⊢
        have hspan : nanos ≤ k * nanosPerSecond := by
          refine Nat.lt_succ_iff.1 ?_
          have hnanos : (nanos : ℚ) < k * nanosPerSecond + 1 := by
            have hexact : ((m * nanosPerSecond : Nat) : ℚ) / (1 : Nat) * 2 ^ e =
                m * 2 ^ e * nanosPerSecond := by
              push_cast
              ring
            have hmul : (m : ℚ) * 2 ^ e * nanosPerSecond ≤ k * nanosPerSecond :=
              mul_le_mul_of_nonneg_right hle (Nat.cast_nonneg _)
            linarith
          exact_mod_cast hnanos
        have hfits : (⟨nanos⟩ : Duration).Representable :=
          Nat.lt_of_le_of_lt hspan (Nat.mul_lt_mul_of_pos_right hk (by decide))
        rw [if_pos hfits]
        exact ⟨_, rfl, hspan⟩

theorem ofNat_nanosPerSecond :
    Binary64.ofNat nanosPerSecond = .finite false (nanosPerSecond * 2 ^ 23) (-23) := by
  decide +kernel

/-- The part of a span beyond its whole seconds, in seconds. -/
theorem atMost_fraction (d : Duration) :
    (Binary64.div (.ofNat d.subsecond) (.ofNat nanosPerSecond)).AtMost (2 + 1024) := by
  have hnanos : (d.subsecond : ℚ) ≤ 1000000000 := by
    have hlt : d.subsecond < nanosPerSecond := Nat.mod_lt _ (by decide)
    exact_mod_cast hlt.le
  rw [ofNat_nanosPerSecond]
  refine (Binary64.atMost_ofNat hnanos (by norm_num)).div (by decide) ?_ (by norm_num)
  norm_num [nanosPerSecond]

theorem isNonneg_toBinary64 (d : Duration) : d.toBinary64.IsNonneg :=
  (Binary64.isNonneg_ofNat _).add d.atMost_fraction.isNonneg

/-- In doubles, a bound in whole seconds moves by three roundings at most. -/
theorem atMost_toBinary64 {d : Duration} {k : Nat} (hd : d.nanos ≤ k * nanosPerSecond)
    (hk : k + 2050 < 2 ^ 64) : d.toBinary64.AtMost ((k + 3074 : Nat) : ℚ) := by
  have hseconds : (d.seconds : ℚ) ≤ k := by
    have hle : d.seconds ≤ k := Nat.div_le_of_le_mul (by rw [Nat.mul_comm]; exact hd)
    exact_mod_cast hle
  have hbound : (k : ℚ) + 2050 < 2 ^ 64 := by exact_mod_cast hk
  have hwhole := Binary64.atMost_ofNat hseconds (by linarith)
  refine (hwhole.add d.atMost_fraction (by linarith)).mono ?_
  push_cast
  linarith

end Duration

namespace Backoff

/-- Delays are stretched by a factor from a half to one and a half. -/
def IsJitter (factor : Binary64) : Prop :=
  factor.lt (.round false 1 2) = false ∧ factor.lt (.round false 3 2) = true

instance (factor : Binary64) : Decidable (IsJitter factor) := inferInstanceAs (Decidable (_ ∧ _))

theorem IsJitter.atMost {factor : Binary64} (h : IsJitter factor) : factor.AtMost (3 / 2) := by
  obtain ⟨hleast, hmost⟩ := h
  have hhalf : Binary64.round false 1 2 = .finite false (2 ^ 52) (-53) := by decide +kernel
  have hthree : Binary64.round false 3 2 = .finite false (3 * 2 ^ 51) (-52) := by decide +kernel
  rw [hhalf] at hleast
  rw [hthree] at hmost
  refine ((Binary64.isNonneg_of_not_lt hleast).atMost_of_lt hmost).mono (le_of_eq ?_)
  norm_num

/-- Growing delays stay within the longest one, give or take the roundings. -/
theorem exists_delay? {b : Backoff} (hgrowth : b.multiplier.lt (.zero false) = false)
    (hlongest : b.longest.nanos < 2 ^ 63 * Duration.nanosPerSecond) (retry : Nat) :
    ∃ delay, b.delay? retry = some delay ∧
      delay.nanos ≤ (2 ^ 63 + 3074) * Duration.nanosPerSecond := by
  have hproduct := b.initial.isNonneg_toBinary64.mul
    ((Binary64.isNonneg_of_not_lt hgrowth).pow (min (retry - 1) mostSteps))
  have hleast := Binary64.AtMost.least hproduct
    (Duration.atMost_toBinary64 hlongest.le (by norm_num))
  exact Duration.exists_ofBinary64? hleast (by norm_num)

/-- A delay within the longest one is still one after the jitter. -/
theorem exists_stretch? {delay : Duration} {factor : Binary64}
    (hdelay : delay.nanos ≤ (2 ^ 63 + 3074) * Duration.nanosPerSecond) (hfactor : IsJitter factor) :
    ∃ stretched, stretch? delay factor = some stretched := by
  have hseconds := Duration.atMost_toBinary64 hdelay (by norm_num)
  have hproduct : (delay.toBinary64.mul factor).AtMost ((2 ^ 64 - 1 : Nat) : ℚ) :=
    (hseconds.mul hfactor.atMost (by norm_num)).mono (by norm_num)
  obtain ⟨stretched, hstretched, -⟩ := Duration.exists_ofBinary64? hproduct (by norm_num)
  exact ⟨stretched, hstretched⟩

end Backoff

end CloudReconciler
