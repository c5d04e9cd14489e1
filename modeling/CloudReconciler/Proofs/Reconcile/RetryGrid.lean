import CloudReconciler.Proofs.Reconcile.Deadline

/-! # The retry grid — a retry waits for the next point, and nothing else waits

    Retries of one phase stand on the multiples of the interval, counted
    from the start of the phase.  `Duration.IsOffGrid` says this without
    remainders: the next point is the least multiple beyond the span, and a
    timer must be able to wait for it.  A call of `Transition.next` that
    comes between two points only reads the clock; every other call attempts
    the write of its status.

    The time since the start is the difference that the clock computes.
    Outside of leap seconds it grows with the time that passes, so the retry
    is due when its wait is over; across a leap second it does not
    (`retry_early`). -/

namespace CloudReconciler

open Procedure (Trace trace_call trace_done)

/-! ## Points of the grid -/

namespace Duration

/-- The point is the first one of the grid after the span. -/
structure IsNextPoint (interval span point : Duration) : Prop where
  onGrid : interval.nanos ∣ point.nanos
  beyond : span < point
  least : ∀ other : Duration, interval.nanos ∣ other.nanos → span < other → point ≤ other

/-- The span ends between two points of the grid, and a timer can wait for the next one. -/
structure IsOffGrid (interval span : Duration) : Prop where
  isGrid : .zero < interval
  between : ¬ interval.nanos ∣ span.nanos
  inReach : ∃ point, interval.IsNextPoint span point ∧ point.nanos - span.nanos < UInt64.size

/-- There is one first point after a span. -/
theorem IsNextPoint.unique {interval span p q : Duration} (hp : interval.IsNextPoint span p)
    (hq : interval.IsNextPoint span q) : p = q := by
  have hle : p.nanos ≤ q.nanos := hp.least q hq.onGrid hq.beyond
  have hge : q.nanos ≤ p.nanos := hq.least p hp.onGrid hp.beyond
  exact congrArg Duration.mk (Nat.le_antisymm hle hge)

/-- The first point after a span is the way that is left of its period further on. -/
theorem isNextPoint_add {interval : Duration} (hinterval : 0 < interval.nanos) (span : Duration) :
    interval.IsNextPoint span ⟨span.nanos + (interval.nanos - span.nanos % interval.nanos)⟩ := by
  have hinto : span.nanos % interval.nanos < interval.nanos := Nat.mod_lt _ hinterval
  have hwhole : span.nanos + (interval.nanos - span.nanos % interval.nanos) =
      interval.nanos * (span.nanos / interval.nanos + 1) := by
    have hspan := Nat.div_add_mod span.nanos interval.nanos
    rw [Nat.mul_add_one]
    omega
  refine ⟨⟨_, hwhole⟩, Nat.lt_add_of_pos_right (Nat.sub_pos_of_lt hinto), ?_⟩
  rintro ⟨_⟩ ⟨periods, rfl⟩ hbeyond
  -- a later multiple counts more periods than the span has filled
  have hbeyond : span.nanos < interval.nanos * periods := hbeyond
  have hperiods : span.nanos / interval.nanos < periods :=
    (Nat.div_lt_iff_lt_mul hinterval).2 (Nat.mul_comm _ _ ▸ hbeyond)
  show span.nanos + (interval.nanos - span.nanos % interval.nanos) ≤ interval.nanos * periods
  rw [hwhole]
  exact Nat.mul_le_mul_left _ hperiods

end Duration

/-! ## The delay -/

section

variable {span interval wait : Duration}

/-- A delay is the rest of a period that has been begun, if a timer can wait for so long. -/
theorem gridDelay_eq_some_iff :
    gridDelay span interval = some wait ↔
      0 < interval.nanos ∧ span.nanos % interval.nanos ≠ 0 ∧
        wait.nanos = interval.nanos - span.nanos % interval.nanos ∧
        wait.nanos < UInt64.size := by
  rw [gridDelay]
  by_cases hinterval : interval.nanos = 0
  · rw [if_pos hinterval]
    exact iff_of_false (Option.some_ne_none _).symm fun h => Nat.ne_of_gt h.1 hinterval
  rw [if_neg hinterval]
  dsimp only
  by_cases hinto : span.nanos % interval.nanos = 0
  · rw [if_pos hinto]
    exact iff_of_false (Option.some_ne_none _).symm fun h => h.2.1 hinto
  rw [if_neg hinto]
  have hpos : 0 < interval.nanos := Nat.pos_of_ne_zero hinterval
  constructor
  · intro h
    split at h
    · next hfits =>
        cases h
        exact ⟨hpos, hinto, rfl, Nat.lt_of_le_of_lt hfits (by decide)⟩
    · cases h
  · rintro ⟨-, -, hwait, hfits⟩
    have hfits : wait.nanos ≤ longestWait := Nat.le_sub_one_of_lt hfits
    rw [← hwait, if_pos hfits]

/-- There is a delay exactly between two points of the grid. -/
theorem gridDelay_isSome_iff : (gridDelay span interval).isSome ↔ interval.IsOffGrid span := by
  rw [Option.isSome_iff_exists]
  constructor
  · rintro ⟨wait, hwait⟩
    obtain ⟨hpos, hinto, hnanos, hfits⟩ := gridDelay_eq_some_iff.1 hwait
    refine ⟨hpos, fun hdvd => hinto (Nat.mod_eq_zero_of_dvd hdvd), _,
      Duration.isNextPoint_add hpos span, ?_⟩
    rw [Nat.add_sub_cancel_left, ← hnanos]
    exact hfits
  · rintro ⟨hpos, hbetween, point, hpoint, hreach⟩
    obtain rfl := hpoint.unique (Duration.isNextPoint_add hpos span)
    rw [Nat.add_sub_cancel_left] at hreach
    exact ⟨⟨_⟩, gridDelay_eq_some_iff.2
      ⟨hpos, fun hinto => hbetween (Nat.dvd_of_mod_eq_zero hinto), rfl, hreach⟩⟩

/-- On a point of the grid there is no delay. -/
theorem gridDelay_eq_none_of_dvd (h : interval.nanos ∣ span.nanos) :
    gridDelay span interval = none := by
  rw [← Option.not_isSome_iff_eq_none, gridDelay_isSome_iff]
  exact fun hoff => hoff.between h

/-- A delay leads to the next point of the grid. -/
theorem isNextPoint_of_gridDelay (h : gridDelay span interval = some wait) :
    interval.IsNextPoint span (span + wait) := by
  obtain ⟨hpos, -, hnanos, -⟩ := gridDelay_eq_some_iff.1 h
  have hpoint := Duration.isNextPoint_add hpos span
  rw [← hnanos] at hpoint
  exact hpoint

/-- A delay is shorter than a period. -/
theorem gridDelay_lt (h : gridDelay span interval = some wait) : wait < interval := by
  obtain ⟨hpos, hinto, hnanos, -⟩ := gridDelay_eq_some_iff.1 h
  show wait.nanos < interval.nanos
  omega

end

/-! ## Readings of the clock -/

namespace Instant

variable {now start : Instant}

/-- Outside of leap seconds, the difference to an instant some nanoseconds later is larger by as
    many. -/
theorem since_addNanos (hnow : now.inLeap = false) (hstart : start.inLeap = false) (n : Int) :
    (now.addNanos n).since start = now.since start + n := by
  have hlater : (now.addNanos n).inLeap = false := by
    rw [addNanos, hnow]
    refine decide_eq_false (Nat.not_le.2 ?_)
    simp only [Bool.false_eq_true, if_false, ofNanos, Duration.nanosPerSecond]
    omega
  rw [since_of_not_inLeap hlater hstart, since_of_not_inLeap hnow hstart, addNanos, hnow]
  simp only [Bool.false_eq_true, if_false, ofNanos, Duration.nanosPerSecond]
  omega

/-- Outside of leap seconds, an instant is later than those from which the difference is
    positive. -/
theorem since_pos_iff (hnow : now.inLeap = false) (hstart : start.inLeap = false) :
    0 < now.since start ↔ start < now := by
  have hnow' : now.nanos < Duration.nanosPerSecond := Nat.not_le.1 (of_decide_eq_false hnow)
  have hstart' : start.nanos < Duration.nanosPerSecond :=
    Nat.not_le.1 (of_decide_eq_false hstart)
  show _ ↔ start.seconds < now.seconds ∨ start.seconds = now.seconds ∧ start.nanos < now.nanos
  rw [since_of_not_inLeap hnow hstart]
  simp only [Duration.nanosPerSecond] at *
  omega

end Instant

/-! ## Transitions -/

variable {Spec St : Type} [Managed Spec St]

namespace Transition

/-- The transition retries the current phase, which began before the reading of the clock, between
    two points of the grid. -/
structure IsEarly (t : Transition) (policy : Policy) (now : Instant) (o : Resource Spec St) :
    Prop where
  requeue : t.requeue = true
  current : t.phase = o.phase
  started : ∃ start, o.recordOrBlank.phaseStart = some start ∧ 0 < now.since start ∧
    policy.interval.IsOffGrid (now.elapsed start)

variable {t : Transition} {policy : Policy} {now : Instant} {o : Resource Spec St}

/-- A wait is given for a retry of a phase that has a start. -/
theorem deferral?_eq_some_iff {wait : Duration} :
    t.deferral? policy now o = some wait ↔
      t.requeue = true ∧ t.phase = o.phase ∧ ∃ start, o.recordOrBlank.phaseStart = some start ∧
        gridDelay (now.elapsed start) policy.interval = some wait := by
  rw [deferral?]
  by_cases hretry : t.requeue = true ∧ t.phase = o.phase
  · rw [if_pos hretry, Option.bind_eq_some_iff, ← and_assoc]
    exact ⟨fun h => ⟨hretry, h⟩, fun h => h.2⟩
  · rw [if_neg hretry, ← and_assoc]
    exact iff_of_false (Option.some_ne_none _).symm fun h => hretry h.1

/-- A wait is given exactly to transitions that are early. -/
theorem deferral?_isSome_iff : (t.deferral? policy now o).isSome ↔ t.IsEarly policy now o := by
  rw [Option.isSome_iff_exists]
  constructor
  · rintro ⟨wait, hwait⟩
    obtain ⟨hrequeue, hcurrent, start, hstart, hdelay⟩ := deferral?_eq_some_iff.1 hwait
    have hoff := gridDelay_isSome_iff.1 (Option.isSome_of_eq_some hdelay)
    refine ⟨hrequeue, hcurrent, start, hstart, ?_, hoff⟩
    -- before its start a phase has lasted no time, which stands on every grid
    refine Int.not_le.1 fun hle => hoff.between ?_
    show _ ∣ (now.since start).toNat
    rw [Int.toNat_of_nonpos hle]
    exact Nat.dvd_zero _
  · rintro ⟨hrequeue, hcurrent, start, hstart, -, hoff⟩
    obtain ⟨wait, hdelay⟩ := Option.isSome_iff_exists.1 (gridDelay_isSome_iff.2 hoff)
    exact ⟨wait, deferral?_eq_some_iff.2 ⟨hrequeue, hcurrent, start, hstart, hdelay⟩⟩

/-- A transition that has waited is not early any more, at every reading of the clock that is later
    by the wait as counted from the start of the phase. -/
theorem not_isEarly_of_waited {wait : Duration} (hwait : t.deferral? policy now o = some wait)
    {start later : Instant} (hstart : o.recordOrBlank.phaseStart = some start)
    (hlater : later.since start = now.since start + wait.nanos) : ¬ t.IsEarly policy later o := by
  rintro ⟨-, -, start', hstart', -, hoff⟩
  cases hstart.symm.trans hstart'
  obtain ⟨-, -, start', hstart', hdelay⟩ := deferral?_eq_some_iff.1 hwait
  cases hstart.symm.trans hstart'
  have hpos : 0 < now.since start := by
    obtain ⟨-, -, start', hstart', hpos, -⟩ :=
      deferral?_isSome_iff.1 (Option.isSome_of_eq_some hwait)
    cases hstart.symm.trans hstart'
    exact hpos
  have hspan : (later.elapsed start).nanos = (now.elapsed start + wait).nanos := by
    show (later.since start).toNat = (now.since start).toNat + wait.nanos
    omega
  exact hoff.between (hspan ▸ (isNextPoint_of_gridDelay hdelay).onGrid)

/-- What a call that reads `now` from the clock goes on to do: its further answers, and the stage
    that it comes to. -/
structure KeepsToGrid {σ : Type} (t : Transition) (policy : Policy) (o : Resource Spec St)
    (now : Instant) (rest : List (Answer (EngineCalls (Resource Spec St)) σ))
    (stage : Stage (Resource Spec St)) : Prop where
  /-- The write of the status is attempted, once. -/
  attempted : ¬ t.IsEarly policy now o →
    ∃ reply s s', rest = [⟨.updateStatus (t.recorded now o), reply, s, s'⟩]
  /-- Nothing is written, and the result is a wait after which the same call attempts the write. -/
  deferred : t.IsEarly policy now o → rest = [] ∧ stage.object = o ∧
    ∃ wait : Duration, stage.result = .ok (.requeue wait) ∧ .zero < wait ∧
      ∀ start, o.recordOrBlank.phaseStart = some start →
        (∀ later : Instant, later.since start = now.since start + wait.nanos →
          ¬ t.IsEarly policy later o) ∧
        (start.inLeap = false → now.inLeap = false →
          ¬ t.IsEarly policy (now.addNanos wait.nanos) o)

/-- Every call reads the clock and keeps to the grid. -/
theorem keepsToGrid_of_trace {σ : Type} {e : Surroundings (EngineCalls (Resource Spec St)) σ}
    {s s' : σ} {τ : List (Answer (EngineCalls (Resource Spec St)) σ)}
    {stage : Stage (Resource Spec St)} (h : Trace e (t.next policy o) s τ stage s') :
    ∃ now s₁ rest, τ = ⟨.now, now, s, s₁⟩ :: rest ∧ t.KeepsToGrid policy o now rest stage := by
  obtain ⟨now, s₁, s₂, rest, -, -, hrest, rfl⟩ := trace_call.1 h
  refine ⟨now, s₁, rest, rfl, ?_⟩
  cases hd : t.deferral? policy now o with
  | some wait =>
      have hearly : t.IsEarly policy now o :=
        deferral?_isSome_iff.1 (Option.isSome_of_eq_some hd)
      simp only [hd] at hrest
      obtain ⟨rfl, rfl, -⟩ := trace_done.1 hrest
      refine ⟨fun h => absurd hearly h, fun _ => ⟨rfl, rfl, wait, rfl, ?_, ?_⟩⟩
      · exact (deferral?_spec hd).2.2.1
      · intro start hstart
        refine ⟨fun later hlater => not_isEarly_of_waited hd hstart hlater, fun hs hn => ?_⟩
        exact not_isEarly_of_waited hd hstart (Instant.since_addNanos hn hs _)
  | none =>
      have hdue : ¬ t.IsEarly policy now o := fun hearly => by
        have hwait := deferral?_isSome_iff.2 hearly
        rw [hd] at hwait
        cases hwait
      simp only [hd] at hrest
      obtain ⟨reply, s₃, s₄, last, -, -, hlast, rfl⟩ := trace_call.1 hrest
      refine ⟨fun _ => ⟨reply, s₂, s₃, ?_⟩, fun hearly => absurd hearly hdue⟩
      cases reply with
      | ok stored =>
          obtain ⟨rfl, -, -⟩ := trace_done.1 hlast
          rfl
      | error f =>
          obtain ⟨rfl, -, -⟩ := trace_done.1 hlast
          rfl

end Transition

/-- A delay is given exactly between two points of the grid that a timer can wait for, and leads to
    the next one; a call that moves an object waits for it exactly where a retry comes that early,
    and attempts the write of its status otherwise. -/
theorem retry_grid :
    (∀ span interval : Duration,
      ((gridDelay span interval).isSome ↔ interval.IsOffGrid span) ∧
      ∀ wait, gridDelay span interval = some wait →
        .zero < wait ∧ wait < interval ∧ interval.IsNextPoint span (span + wait) ∧
          gridDelay (span + wait) interval = none) ∧
    (∀ now start : Instant, now.inLeap = false → start.inLeap = false →
      (0 < now.since start ↔ start < now)) ∧
    ∀ (Spec St : Type) [Managed Spec St] (σ : Type)
        (e : Surroundings (EngineCalls (Resource Spec St)) σ) (policy : Policy)
        (o : Resource Spec St) (t : Transition) (s : σ)
        (τ : List (Answer (EngineCalls (Resource Spec St)) σ)) (stage : Stage (Resource Spec St))
        (s' : σ),
      Trace e (t.next policy o) s τ stage s' →
        ∃ now s₁ rest, τ = ⟨.now, now, s, s₁⟩ :: rest ∧ t.KeepsToGrid policy o now rest stage := by
  refine ⟨fun span interval => ⟨gridDelay_isSome_iff, fun wait hwait => ?_⟩, ?_, ?_⟩
  · have hpoint := isNextPoint_of_gridDelay hwait
    exact ⟨(gridDelay_bounds hwait).1, gridDelay_lt hwait, hpoint,
      gridDelay_eq_none_of_dvd hpoint.onGrid⟩
  · exact fun now start hnow hstart => Instant.since_pos_iff hnow hstart
  · exact fun Spec St _ σ e policy o t s τ stage s' h => Transition.keepsToGrid_of_trace h

/-! ## Retries of a project -/

namespace Scripted

/-- The project while it is created, since the given time. -/
def startedProject (start : Instant) : Project :=
  { newProject with status := some { phase := .creating, phaseStart := some start } }

/-- A retry of the creation. -/
def creatingAgain : Transition := ⟨.creating, false, "ServerError", "again", true⟩

/-- The world of the project that is created, at the given time. -/
def startedWorld (start now : Instant) : World :=
  { worldOf [startedProject start] [] [] with desk := { now } }

/-- A call that retries the creation: what it comes to, and the world after it. -/
def retried (start : Instant) (w : World) : Stage Project × World :=
  w.run projectShelf (creatingAgain.next .default (startedProject start))

theorem admits_startedWorld (start now : Instant) :
    (projectShelf.store (startedWorld start now)).Admits calm :=
  ⟨nofun, nofun, nofun, fun _ => rfl⟩

/-- A retry that comes 47 seconds after the start. -/
def retriedEarly : Stage Project × World := retried ⟨0, 0⟩ (startedWorld ⟨0, 0⟩ ⟨47, 0⟩)

/-- The same retry 13 seconds later. -/
def retriedInTime : Stage Project × World :=
  retried ⟨0, 0⟩ (retriedEarly.2.advanced (Duration.ofSeconds 13).nanos)

end Scripted

open Scripted in
/-- A retry between two points of the grid waits, and the same retry on the next point is
    written. -/
theorem retry_grid_story :
    gridDelay (.ofSeconds 47) (.ofSeconds 20) = some (.ofSeconds 13) ∧
      gridDelay (.ofSeconds 47 + .ofSeconds 13) (.ofSeconds 20) = none ∧
      (⟨0, 0⟩ : Instant) < ⟨47, 0⟩ ∧
      creatingAgain.IsEarly .default ⟨47, 0⟩ (startedProject ⟨0, 0⟩) ∧
      retriedEarly.1.result.toOption = some (.requeue (.ofSeconds 13)) ∧
      ¬ creatingAgain.IsEarly .default ⟨60, 0⟩ (startedProject ⟨0, 0⟩) ∧
      retriedInTime.1.result.toOption = some (.requeue (.ofSeconds 20)) ∧
      retriedEarly.2.projects.phases = [] ∧ retriedInTime.2.projects.phases = [.creating] := by
  have hdelay : gridDelay (.ofSeconds 47) (.ofSeconds 20) = some (.ofSeconds 13) := by
    decide +kernel
  have hwaits : retriedEarly.1.result.toOption = some (.requeue (.ofSeconds 13)) := by
    decide +kernel
  have ht : Trace (Slot.surroundings calm newProject.key)
      (creatingAgain.next .default (startedProject ⟨0, 0⟩)) _ _ retriedEarly.1 _ :=
    (World.trace_run projectShelf_isLawful _ (admits_startedWorld ⟨0, 0⟩ ⟨47, 0⟩)).1
  obtain ⟨now, s₁, rest, hτ, hkeeps⟩ := retry_grid.2.2 _ _ _ _ _ _ _ _ _ _ _ ht
  obtain rfl : ⟨47, 0⟩ = now := by
    cases hτ
    rfl
  have hearly : creatingAgain.IsEarly .default ⟨47, 0⟩ (startedProject ⟨0, 0⟩) :=
    Transition.deferral?_isSome_iff.1 rfl
  obtain ⟨-, -, wait, hresult, -, hwaited⟩ := hkeeps.deferred hearly
  obtain rfl : wait = .ofSeconds 13 := by
    rw [show retriedEarly.1.result = .ok (.requeue wait) from hresult] at hwaits
    cases hwaits
    rfl
  refine ⟨hdelay, ((retry_grid.1 _ _).2 _ hdelay).2.2.2, ?_, hearly, hwaits, ?_, ?_, ?_, ?_⟩
  · exact (retry_grid.2.1 ⟨47, 0⟩ ⟨0, 0⟩ rfl rfl).1 (by decide)
  · exact (hwaited ⟨0, 0⟩ rfl).2 rfl rfl
  all_goals decide +kernel

namespace Scripted

/-- A leap second at noon. -/
def leapStart : Instant := ⟨43259, 1000000000⟩

/-- A retry of a phase that began in the leap second, right before midnight. -/
def retriedBeforeMidnight : Stage Project × World :=
  retried leapStart (startedWorld leapStart ⟨86399, 500000000⟩)

/-- The same retry after its wait. -/
def retriedAfterMidnight : Stage Project × World :=
  retried leapStart (retriedBeforeMidnight.2.advanced 19500000000)

end Scripted

open Scripted in
/-- A retry of a phase that began in a leap second is early once more when it has waited across
    midnight: the clock counts the leap second before midnight only. -/
theorem retry_early :
    retriedBeforeMidnight.1.result.toOption = some (.requeue ⟨19500000000⟩) ∧
      retriedAfterMidnight.1.result.toOption = some (.requeue ⟨1000000000⟩) ∧
      retriedAfterMidnight.2.projects.phases = [] ∧
      creatingAgain.IsEarly .default ⟨86419, 0⟩ (startedProject leapStart) := by
  refine ⟨?_, ?_, ?_, Transition.deferral?_isSome_iff.1 ?_⟩
  all_goals decide +kernel

end CloudReconciler
