import CloudReconciler.Retry.Loop
import CloudReconciler.Proofs.Retry.Delays
import Mathlib.Order.Lattice.Nat

/-! # Settled — which of its four ends the retry loop comes to

    An attempt can succeed, fail for good or be the last one, and the token
    can fire at any moment.  The loop looks at the token only while it
    waits, so what counts is not when the token fires but whether it has
    fired by the end of a wait (`Firing.firedBy`).  The first attempt that
    stops the loop and the first wait that is cancelled then compete by
    their numbers, and at equal numbers the attempt wins, because no wait
    follows it.

    The surroundings answer the loop call by call and keep the token as it
    is at each moment.  `RetryScene.run_attempts` carries the proofs: as
    long as nothing stops the loop, the attempts made are the numbers from
    1, and the token is as `firedBy` says. -/

namespace CloudReconciler

/-! ## The token -/

/-- The moment at which a cancellation token fires, in terms of the loop. -/
inductive Firing where
  | beforeStart
  | duringAttempt (number : Nat)
  /-- The token fires in the wait after the attempt. -/
  | duringWait (number : Nat)
  | never
  deriving DecidableEq, Repr

/-- The token has fired by the end of the wait after the attempt; the first attempt has number 1. -/
def Firing.firedBy : Firing → Nat → Bool
  | .beforeStart, _ => true
  | .duringAttempt n, k | .duringWait n, k => 0 < n && n ≤ k
  | .never, _ => false

theorem Firing.firedBy_zero (firing : Firing) :
    firing.firedBy 0 = decide (firing = .beforeStart) := by
  cases firing with
  | beforeStart | never => rfl
  | duringAttempt n | duringWait n => simp [firedBy]; omega

theorem Firing.firedBy_succ (firing : Firing) (k : Nat) :
    firing.firedBy (k + 1) = (firing.firedBy k || decide (firing = .duringAttempt (k + 1)) ||
      decide (firing = .duringWait (k + 1))) := by
  cases firing with
  | beforeStart | never => rfl
  | duringAttempt n | duringWait n =>
      rw [Bool.eq_iff_iff]
      simp [firedBy]
      omega

/-! ## The surroundings of the loop -/

/-- What the loop finds: how each attempt goes, the factor of the delay after it, and when the
    token fires. -/
structure RetryScene (α : Type) where
  outcomes : Nat → Outcome α
  factors : Nat → Binary64
  firing : Firing

/-- How far the loop has come. -/
structure RetryProgress where
  /-- The attempts made, in order. -/
  made : List Nat
  /-- The token has fired. -/
  fired : Bool
  deriving DecidableEq, Repr

namespace RetryScene

variable {α : Type}

/-- Answers a call and keeps the token up to date; a wait is cancelled if the token has fired by
    its end. -/
def answer (s : RetryScene α) :
    (c : (RetryCalls α).Call) → RetryProgress → (RetryCalls α).Reply c × RetryProgress
  | .attempt number, w =>
      (s.outcomes number,
        ⟨w.made ++ [number], w.fired || decide (s.firing = .duringAttempt number)⟩)
  | .jitter, w => (s.factors w.made.length, w)
  | .sleep _, w =>
      let fired := w.fired || decide (s.firing = .duringWait w.made.length)
      (!fired, { w with fired })

/-- Runs the loop for at most so many attempts. -/
def play (s : RetryScene α) (b : Backoff) (fuel : Nat) : Option (RetryEnd α) × RetryProgress :=
  (b.attempts fuel 1).run s.answer ⟨[], decide (s.firing = .beforeStart)⟩

/-- The progress after so many attempts with the waits after them. -/
def after (s : RetryScene α) (k : Nat) : RetryProgress := ⟨List.range' 1 k, s.firing.firedBy k⟩

/-- The progress after one more attempt, before the wait after it. -/
def attempted (s : RetryScene α) (k : Nat) : RetryProgress :=
  ⟨List.range' 1 (k + 1), s.firing.firedBy k || decide (s.firing = .duringAttempt (k + 1))⟩

theorem play_eq (s : RetryScene α) (b : Backoff) (fuel : Nat) :
    s.play b fuel = (b.attempts fuel 1).run s.answer (s.after 0) := by
  rw [after, Firing.firedBy_zero]
  rfl

theorem answer_attempt (s : RetryScene α) (k : Nat) :
    s.answer (.attempt (k + 1)) (s.after k) = (s.outcomes (k + 1), s.attempted k) := by
  rw [attempted, List.range'_1_concat, Nat.add_comm 1 k]
  rfl

theorem length_attempted (s : RetryScene α) (k : Nat) : (s.attempted k).made.length = k + 1 :=
  List.length_range'

theorem answer_jitter (s : RetryScene α) (k : Nat) :
    s.answer .jitter (s.attempted k) = (s.factors (k + 1), s.attempted k) := by
  rw [answer, length_attempted]
  rfl

theorem answer_sleep (s : RetryScene α) (k : Nat) (delay : Duration) :
    s.answer (.sleep delay) (s.attempted k) = (!s.firing.firedBy (k + 1), s.after (k + 1)) := by
  rw [after, Firing.firedBy_succ, answer, length_attempted]
  rfl

/-- Attempts are never taken back. -/
theorem isPrefix_made {β : Type} (s : RetryScene α) (p : Procedure (RetryCalls α) β)
    (w : RetryProgress) : w.made <+: (p.run s.answer w).2.made := by
  induction p generalizing w with
  | done a => exact List.prefix_rfl
  | call c resume ih =>
      refine List.IsPrefix.trans ?_ (ih (s.answer c w).1 (s.answer c w).2)
      cases c with
      | attempt number => exact List.prefix_append _ _
      | jitter | sleep _ => exact List.prefix_rfl

end RetryScene

/-! ## The attempts that stop the loop -/

/-- The attempt succeeds, fails for good or is the last one that the schedule allows. -/
inductive Backoff.StopsAt {α : Type} (b : Backoff) (outcomes : Nat → Outcome α) : Nat → Prop
  | success {n : Nat} {a : α} : 0 < n → outcomes n = .ok a → StopsAt b outcomes n
  | permanent {n : Nat} {f : Fault} : 0 < n → outcomes n = .error f → f.isRetryable = false →
      StopsAt b outcomes n
  | last : 0 < b.maxAttempts → StopsAt b outcomes b.maxAttempts

theorem Backoff.StopsAt.pos {α : Type} {b : Backoff} {outcomes : Nat → Outcome α} {n : Nat}
    (h : b.StopsAt outcomes n) : 0 < n := by
  cases h with
  | success h _ | permanent h _ _ | last h => exact h

/-- While no attempt has stopped the loop, the schedule allows for another one. -/
theorem Backoff.isLast_eq_false {α : Type} {b : Backoff} {outcomes : Nat → Outcome α} {k : Nat}
    (h : ∀ n ≤ k, ¬ b.StopsAt outcomes n) : b.isLast k = false := by
  refine Bool.eq_false_iff.2 fun hlast => ?_
  rw [Backoff.isLast, Bool.and_eq_true, decide_eq_true_iff, decide_eq_true_iff] at hlast
  exact h b.maxAttempts hlast.2 (.last hlast.1)

theorem exists_isLeast_le (numbers : Set Nat) {m : Nat} (h : m ∈ numbers) :
    ∃ c, IsLeast numbers c ∧ c ≤ m :=
  ⟨sInf numbers, isLeast_csInf ⟨m, h⟩, Nat.sInf_le h⟩

/-! ## One attempt and the wait after it -/

namespace RetryScene

variable {α : Type} {b : Backoff} {s : RetryScene α} {k : Nat}

/-- An attempt that stops the loop settles it, whatever the token. -/
theorem once_of_stopsAt (h : b.StopsAt s.outcomes (k + 1)) :
    (b.once (k + 1)).run s.answer (s.after k) =
      (some (.settled (s.outcomes (k + 1))), s.attempted k) := by
  have hattempt := answer_attempt s k
  simp only [Backoff.once, Procedure.run]
  cases ho : s.outcomes (k + 1) with
  | ok a =>
      simp only [ho] at hattempt
      simp only [hattempt, Procedure.run]
  | error f =>
      have hgivesUp : f.isRetryable = false ∨ b.isLast (k + 1) = true := by
        generalize hn : k + 1 = n at h ho
        cases h with
        | success _ ha => rw [ha] at ho; cases ho
        | permanent _ hf hpermanent => rw [hf] at ho; cases ho; exact .inl hpermanent
        | last hbound => exact .inr (by simp [Backoff.isLast, hbound])
      simp only [ho] at hattempt
      simp only [hattempt, if_pos hgivesUp, Procedure.run]

/-- Each attempt has a delay after it that can be waited for. -/
def Waits (s : RetryScene α) (b : Backoff) : Prop :=
  ∀ n, ∃ delay stretched, b.delay? n = some delay ∧
    Backoff.stretch? delay (s.factors n) = some stretched

theorem waits_of_isJitter (hgrowth : b.multiplier.lt (.zero false) = false)
    (hlongest : b.longest.nanos < 2 ^ 63 * Duration.nanosPerSecond)
    (hjitter : ∀ n, Backoff.IsJitter (s.factors n)) : s.Waits b := by
  intro n
  obtain ⟨delay, hdelay, hnanos⟩ := Backoff.exists_delay? hgrowth hlongest n
  obtain ⟨stretched, hstretched⟩ := Backoff.exists_stretch? hnanos (hjitter n)
  exact ⟨delay, stretched, hdelay, hstretched⟩

/-- After any other attempt there is a wait, and the loop goes on unless the wait is cancelled. -/
theorem once_of_not_stopsAt (hwaits : s.Waits b) (h : ∀ n ≤ k + 1, ¬ b.StopsAt s.outcomes n) :
    (b.once (k + 1)).run s.answer (s.after k) =
      (if s.firing.firedBy (k + 1) = true then some (.settled (.error .cancelled)) else none,
        s.after (k + 1)) := by
  have hattempt := answer_attempt s k
  have hstop := h (k + 1) (Nat.le_refl _)
  simp only [Backoff.once, Procedure.run]
  cases ho : s.outcomes (k + 1) with
  | ok a => exact absurd (.success k.succ_pos ho) hstop
  | error f =>
      have hretries : ¬ (f.isRetryable = false ∨ b.isLast (k + 1) = true) := by
        rintro (hpermanent | hlast)
        · exact hstop (.permanent k.succ_pos ho hpermanent)
        · exact absurd (hlast.symm.trans (Backoff.isLast_eq_false h)) (by decide)
      obtain ⟨delay, stretched, hdelay, hstretched⟩ := hwaits (k + 1)
      have hsleep := answer_sleep s k stretched
      simp only [ho] at hattempt
      simp only [hattempt, if_neg hretries, hdelay, answer_jitter, hstretched, hsleep,
        Procedure.run]
      cases hfired : s.firing.firedBy (k + 1) with
      | true => rfl
      | false => rfl

/-! ## The loop -/

theorem first_attempt (s : RetryScene α) (b : Backoff) (fuel : Nat) :
    [1] <+: (s.play b (fuel + 1)).2.made := by
  have honce : [1] <+: ((b.once 1).run s.answer (s.after 0)).2.made :=
    isPrefix_made s _ (s.answer (.attempt 1) (s.after 0)).2
  rw [play_eq, Backoff.attempts, Procedure.run_bind]
  exact honce.trans (isPrefix_made s _ _)

/-- As long as nothing has stopped the loop, it makes one attempt after another. -/
theorem run_attempts (hwaits : s.Waits b) (fuel k : Nat)
    (hstop : ∀ n ≤ k, ¬ b.StopsAt s.outcomes n)
    (hfired : ∀ c ≤ k, 0 < c → s.firing.firedBy c = false) :
    s.play b (k + fuel) = (b.attempts fuel (k + 1)).run s.answer (s.after k) := by
  induction k generalizing fuel with
  | zero => rw [play_eq, Nat.zero_add]
  | succ k ih =>
      have hbefore := ih (fuel + 1) (fun n hn => hstop n (by omega)) fun c hc => hfired c (by omega)
      rw [show k + 1 + fuel = k + (fuel + 1) by omega, hbefore, Backoff.attempts,
        Procedure.run_bind, once_of_not_stopsAt hwaits hstop,
        hfired (k + 1) (Nat.le_refl _) k.succ_pos]
      rfl

/-- An attempt that stops the loop is the last one, if no wait before it is cancelled. -/
theorem play_of_stopsAt (hwaits : s.Waits b) {fuel n : Nat}
    (hn : IsLeast {n | b.StopsAt s.outcomes n} n)
    (hc : ∀ c, IsLeast {c | 0 < c ∧ s.firing.firedBy c = true} c → n ≤ c) (hfuel : n ≤ fuel) :
    (s.play b fuel).1 = some (.settled (s.outcomes n)) ∧
      (s.play b fuel).2.made = List.range' 1 n := by
  have hquiet : ∀ c < n, 0 < c → s.firing.firedBy c = false := by
    intro c hlt hpos
    refine Bool.eq_false_iff.2 fun hfired => ?_
    obtain ⟨first, hfirst, hle⟩ :=
      exists_isLeast_le {c | 0 < c ∧ s.firing.firedBy c = true} ⟨hpos, hfired⟩
    exact absurd (hc first hfirst) (by omega)
  obtain ⟨k, rfl⟩ := Nat.exists_eq_add_one.2 hn.1.pos
  obtain ⟨rest, rfl⟩ := Nat.exists_eq_add_of_le hfuel
  have hrun := run_attempts hwaits (rest + 1) k
    (fun m hm hstop => absurd (hn.2 hstop) (by omega)) fun c hle => hquiet c (by omega)
  rw [show k + 1 + rest = k + (rest + 1) by omega, hrun, Backoff.attempts, Procedure.run_bind,
    once_of_stopsAt hn.1]
  exact ⟨rfl, rfl⟩

/-- A wait that is cancelled ends the loop, if no attempt up to it does. -/
theorem play_of_firedBy (hwaits : s.Waits b) {fuel c : Nat}
    (hc : IsLeast {c | 0 < c ∧ s.firing.firedBy c = true} c)
    (hn : ∀ n, IsLeast {n | b.StopsAt s.outcomes n} n → c < n) (hfuel : c ≤ fuel) :
    (s.play b fuel).1 = some (.settled (.error .cancelled)) ∧
      (s.play b fuel).2.made = List.range' 1 c := by
  have hquiet : ∀ n ≤ c, ¬ b.StopsAt s.outcomes n := by
    intro n hle hstop
    obtain ⟨first, hfirst, hlt⟩ := exists_isLeast_le {n | b.StopsAt s.outcomes n} hstop
    exact absurd (hn first hfirst) (by omega)
  obtain ⟨k, rfl⟩ := Nat.exists_eq_add_one.2 hc.1.1
  obtain ⟨rest, rfl⟩ := Nat.exists_eq_add_of_le hfuel
  have hrun := run_attempts hwaits (rest + 1) k
    (fun m hm => hquiet m (by omega)) fun m hm hpos =>
      Bool.eq_false_iff.2 fun hfired => absurd (hc.2 ⟨hpos, hfired⟩) (by omega)
  rw [show k + 1 + rest = k + (rest + 1) by omega, hrun, Backoff.attempts, Procedure.run_bind,
    once_of_not_stopsAt hwaits hquiet, if_pos hc.1.2]
  exact ⟨rfl, rfl⟩

/-- The first attempt that stops the loop decides it, unless the wait after an earlier attempt is
    cancelled; then that attempt is the last one made.  The first attempt is always made. -/
theorem retry_outcome (hgrowth : b.multiplier.lt (.zero false) = false)
    (hlongest : b.longest.nanos < 2 ^ 63 * Duration.nanosPerSecond)
    (hjitter : ∀ n, Backoff.IsJitter (s.factors n)) (fuel : Nat) :
    (∀ n, IsLeast {n | b.StopsAt s.outcomes n} n →
      (∀ c, IsLeast {c | 0 < c ∧ s.firing.firedBy c = true} c → n ≤ c) → n ≤ fuel →
      (s.play b fuel).1 = some (.settled (s.outcomes n)) ∧
        (s.play b fuel).2.made = List.range' 1 n) ∧
    (∀ c, IsLeast {c | 0 < c ∧ s.firing.firedBy c = true} c →
      (∀ n, IsLeast {n | b.StopsAt s.outcomes n} n → c < n) → c ≤ fuel →
      (s.play b fuel).1 = some (.settled (.error .cancelled)) ∧
        (s.play b fuel).2.made = List.range' 1 c) ∧
    (0 < fuel → (s.play b fuel).2.made.head? = some 1) := by
  have hwaits : s.Waits b := waits_of_isJitter hgrowth hlongest hjitter
  refine ⟨fun n hn hc hfuel => play_of_stopsAt hwaits hn hc hfuel,
    fun c hc hn hfuel => play_of_firedBy hwaits hc hn hfuel, fun hfuel => ?_⟩
  obtain ⟨rest, rfl⟩ := Nat.exists_eq_add_one.2 hfuel
  obtain ⟨later, hlater⟩ := first_attempt s b rest
  rw [← hlater]
  rfl

/-- A backend that is sealed for two attempts. -/
def sealedTwice (firing : Firing) : RetryScene Unit where
  outcomes n := if n < 3 then .error (.secretBackend "sealed") else .ok ()
  factors _ := .ofNat 1
  firing := firing

theorem sealedTwice_first (firing : Firing) :
    IsLeast {n | ({} : Backoff).StopsAt (sealedTwice firing).outcomes n} 3 := by
  refine ⟨.success (by decide) rfl, fun n hn => Nat.le_of_not_lt fun hlt => ?_⟩
  have hsealed : (sealedTwice firing).outcomes n = .error (.secretBackend "sealed") := if_pos hlt
  cases hn with
  | success _ hok => rw [hsealed] at hok; cases hok
  | permanent _ hf hpermanent =>
      rw [hsealed] at hf
      cases hf
      exact absurd hpermanent (by decide)
  | last hbound => exact absurd hbound (by decide)

/-- The third attempt succeeds although the token fires meanwhile; a token that fires in the wait
    before it prevents it. -/
theorem retry_outcome_sealed :
    (((sealedTwice (.duringAttempt 3)).play {} 5).1 = some (.settled (.ok ())) ∧
      ((sealedTwice (.duringAttempt 3)).play {} 5).2.made = [1, 2, 3]) ∧
    ((sealedTwice (.duringWait 2)).play {} 5).1 = some (.settled (.error .cancelled)) ∧
      ((sealedTwice (.duringWait 2)).play {} 5).2.made = [1, 2] := by
  have hgrowth : ({} : Backoff).multiplier.lt (.zero false) = false := by decide +kernel
  have hlongest : ({} : Backoff).longest.nanos < 2 ^ 63 * Duration.nanosPerSecond := by decide
  have hjitter : ∀ firing n, Backoff.IsJitter ((sealedTwice firing).factors n) :=
    fun _ _ => (by decide +kernel : Backoff.IsJitter (.ofNat 1))
  have hmeanwhile : ∀ c, IsLeast {c | 0 < c ∧ (Firing.duringAttempt 3).firedBy c = true} c →
      3 ≤ c := by
    intro c hc
    obtain ⟨⟨-, hfired⟩, -⟩ := hc
    exact of_decide_eq_true hfired
  have hbefore : IsLeast {c | 0 < c ∧ (Firing.duringWait 2).firedBy c = true} 2 :=
    ⟨⟨by decide, by decide⟩, fun c hc => of_decide_eq_true hc.2⟩
  refine ⟨(retry_outcome hgrowth hlongest (hjitter _) 5).1 3 (sealedTwice_first _) hmeanwhile
    (by decide), (retry_outcome hgrowth hlongest (hjitter _) 5).2.1 2 hbefore ?_ (by decide)⟩
  intro n hn
  rw [hn.unique (sealedTwice_first _)]
  decide

end RetryScene

end CloudReconciler
