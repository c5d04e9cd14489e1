import CloudReconciler.Proofs.Reconcile.Budget
import CloudReconciler.Proofs.Reconcile.Outcome
import CloudReconciler.Proofs.Reconcile.PhaseGraph
import CloudReconciler.Proofs.Reconcile.RemoteAddress
import CloudReconciler.Proofs.Reconcile.StatusRecord

/-! # Deadlines — a phase ends in time, whatever happens in it

    The time that a phase has lasted is measured from a field that every
    status write stores again.  Over a run it is still the reading of the
    clock at the write that entered the phase: retries, refused writes and
    edits move nothing.  So the deadline of a phase is fixed when it is
    entered, and the first check after it ends the phase.

    * `Invocation.check?`: the reading that the timeout is checked at;
    * `Invocation.MeetsDeadline`: what an invocation does before and after
      the deadline;
    * `Runs.clocks_sublist`: the readings of the clock at the status writes
      of a run;
    * `Lingers`: an invocation while the phase has not changed;
    * `KeepsDeadlines`: what a run says about deadlines. -/

namespace CloudReconciler

open Procedure (Trace trace_done trace_call trace_bind)

/-! ## Time -/

namespace Instant

variable {now a b : Instant}

/-- Outside of leap seconds, an instant is at most some time after another if it is not later than
    that instant plus the time. -/
theorem elapsed_le_iff (hnow : now.inLeap = false) (ha : a.inLeap = false) (d : Duration) :
    now.elapsed a ≤ d ↔ now ≤ a.addNanos d.nanos := by
  have hnow' : now.nanos < Duration.nanosPerSecond := Nat.not_le.1 (of_decide_eq_false hnow)
  have ha' : a.nanos < Duration.nanosPerSecond := Nat.not_le.1 (of_decide_eq_false ha)
  rw [addNanos, ha]
  show (now.since a).toNat ≤ d.nanos ↔ now.seconds < (ofNanos _).seconds ∨
    now.seconds = (ofNanos _).seconds ∧ now.nanos ≤ (ofNanos _).nanos
  rw [since_of_not_inLeap hnow ha]
  simp only [ofNanos, Duration.nanosPerSecond] at *
  omega

/-- Outside of leap seconds, less time has passed since a later instant. -/
theorem elapsed_le_elapsed (hnow : now.inLeap = false) (ha : a.inLeap = false)
    (hb : b.inLeap = false) (h : a ≤ b) : now.elapsed b ≤ now.elapsed a := by
  have hb' : b.nanos < Duration.nanosPerSecond := Nat.not_le.1 (of_decide_eq_false hb)
  have ha' : a.nanos < Duration.nanosPerSecond := Nat.not_le.1 (of_decide_eq_false ha)
  have h : a.seconds < b.seconds ∨ a.seconds = b.seconds ∧ a.nanos ≤ b.nanos := h
  show (now.since b).toNat ≤ (now.since a).toNat
  rw [since_of_not_inLeap hnow hb, since_of_not_inLeap hnow ha]
  simp only [Duration.nanosPerSecond] at *
  omega

end Instant

/-! ## One invocation -/

/-- The readings of the clock among the answers, oldest first. -/
def readingsOf {O : Type} (τ : List (EngineAnswer O)) : List Instant :=
  τ.filterMap EngineAnswer.clock?

/-- The first reading of the clock in an invocation, at which the timeout is checked. -/
def Invocation.check? {O : Type} (i : Invocation O) : Option Instant := (readingsOf i.answers).head?

variable {Spec St : Type} [Managed Spec St]

/-- The invocation would have been the same with any other lifecycle: it has run no step of one. -/
def Invocation.IgnoresLifecycle (s : Setting (Resource Spec St)) (k : Circumstances)
    (key : ObjectKey) (i : Invocation (Resource Spec St)) : Prop :=
  ∀ l : Lifecycle (Resource Spec St), ∃ w, i.after = w.stored ∧
    Trace (Slot.surroundings k key) ({ s with lifecycle := l }.reconcile key.1 key.2)
      ⟨i.before, false⟩ i.answers i.result w

/-- What an invocation does for an object whose phase counts from the given time. -/
structure Invocation.MeetsDeadline (s : Setting (Resource Spec St)) (k : Circumstances)
    (key : ObjectKey) (start : Instant) (o : Resource Spec St)
    (i : Invocation (Resource Spec St)) : Prop where
  /-- Without a token nothing is done. -/
  unauthenticated : givenToken i.answers = none → i.IsIdle s k key
  /-- With a token the time is checked. -/
  checked : (givenToken i.answers).isSome → i.check?.isSome
  /-- Requests are sent, and steps are run, in time only. -/
  timely : (∃ a ∈ i.answers, a.IsRequest) ∨ ¬ i.IgnoresLifecycle s k key →
    ∃ now, i.check? = some now ∧ now.elapsed start ≤ s.policy.timeout ∧
      (now.inLeap = false → start.inLeap = false → now ≤ start.addNanos s.policy.timeout.nanos)
  /-- After the deadline the object fails. -/
  overdue : ∀ now, i.check? = some now → ¬ now.elapsed start ≤ s.policy.timeout →
    (∀ a ∈ i.answers, ¬ a.IsRequest) ∧ i.IgnoresLifecycle s k key ∧
      i.Fails "ReconciliationTimeout" k o

section

variable {s : Setting (Resource Spec St)} {k : Circumstances} {key : ObjectKey}
  {o : Resource Spec St} {w : Slot (Resource Spec St)}
  {τ : List (EngineAnswer (Resource Spec St))} {result : Outcome Action} {start : Instant}

/-- An invocation is idle, or it gets a token and goes on with the object that it has read. -/
theorem idle_or_advance_of_trace
    (h : Trace (Slot.surroundings k key) (s.reconcile key.1 key.2) ⟨some o, false⟩ τ result w) :
    (givenToken τ = none ∧ Invocation.IsIdle s k key ⟨some o, τ, result, w.stored⟩) ∨
      ∃ token w₁ w₂ rest stage,
        τ = .aside (.fetch key.1 key.2) (.ok (some o)) ⟨some o, false⟩ ::
          .aside (.authenticate (o.tenant?.getD "")) (.ok token) w₁ :: rest ∧
        result = stage.result ∧ w₂.Shows k o ∧
        Trace (Slot.surroundings k key) (s.advance (s.gateway.authorized token) o) w₂ rest stage
          w ∧
        ∀ l : Lifecycle (Resource Spec St),
          Trace (Slot.surroundings k key)
            ({ s with lifecycle := l }.advance (s.gateway.authorized token) o) w₂ rest stage w →
          Trace (Slot.surroundings k key) ({ s with lifecycle := l }.reconcile key.1 key.2)
            ⟨some o, false⟩ τ result w := by
  obtain ⟨reply, w₁, w₂, rest, ha, hd, hr, rfl⟩ := trace_call.1 h
  cases ha with
  | refused hf =>
      obtain ⟨rfl, rfl, rfl⟩ := trace_done.1 hr
      refine .inl ⟨rfl, List.forall_mem_singleton.2 (.inl ⟨_, _, rfl⟩), fun l => ⟨w, rfl, ?_⟩⟩
      exact .call (.refused hf) hd (.done _ _)
  | elsewhere hne => exact absurd rfl hne
  | found hkey =>
      dsimp only at hr
      by_cases htenant : o.tenant?.getD "" = "" ∧ s.multiTenant = true
      · rw [if_pos htenant] at hr
        obtain ⟨rfl, rfl, rfl⟩ := trace_done.1 hr
        refine .inl ⟨rfl, List.forall_mem_singleton.2 (.inl ⟨_, _, rfl⟩), fun l => ⟨w, rfl, ?_⟩⟩
        refine .call (.found hkey) hd ?_
        dsimp only
        rw [if_pos htenant]
        exact .done _ _
      · rw [if_neg htenant] at hr
        obtain ⟨reply, w₃, w₄, last, rfl, hd', hr', rfl⟩ := trace_call.1 hr
        cases reply with
        | error f =>
            obtain ⟨rfl, rfl, rfl⟩ := trace_done.1 hr'
            refine .inl ⟨rfl, ?_, fun l => ⟨w, rfl, ?_⟩⟩
            · refine List.forall_mem_cons.2 ⟨.inl ⟨_, _, rfl⟩, ?_⟩
              exact List.forall_mem_singleton.2 (.inr ⟨_, rfl⟩)
            · refine .call (.found hkey) hd ?_
              dsimp only
              rw [if_neg htenant]
              exact .call rfl hd' (.done _ _)
        | ok token =>
            obtain ⟨served, stage, w₅, none_, hadv, hdone, rfl⟩ := trace_bind.1 hr'
            obtain ⟨rfl, rfl, rfl⟩ := trace_done.1 hdone
            rw [List.append_nil]
            have hshows := (Slot.Shows.untouched.drifts hd).drifts hd'
            refine .inr ⟨token, _, _, served, stage, rfl, rfl, hshows, hadv, fun l hl => ?_⟩
            refine .call (.found hkey) hd ?_
            dsimp only
            rw [if_neg htenant]
            refine .call rfl hd' (trace_bind.2 ⟨served, stage, w, [], hl, .done _ _, ?_⟩)
            exact (List.append_nil _).symm

/-- Within its time, an invocation meets the deadline whatever it does. -/
theorem Invocation.MeetsDeadline.of_timely {i : Invocation (Resource Spec St)} {now : Instant}
    (htoken : (givenToken i.answers).isSome) (hcheck : i.check? = some now)
    (hle : now.elapsed start ≤ s.policy.timeout) : i.MeetsDeadline s k key start o where
  unauthenticated hnone := by
    rw [hnone] at htoken
    exact nomatch htoken
  checked _ := by
    rw [hcheck]
    rfl
  timely _ := ⟨now, hcheck, hle, fun hnow hstart => (Instant.elapsed_le_iff hnow hstart _).1 hle⟩
  overdue now' hcheck' hlate := by
    cases hcheck.symm.trans hcheck'
    exact absurd hle hlate

/-- Without a token there is no deadline to meet. -/
theorem Invocation.MeetsDeadline.of_idle {i : Invocation (Resource Spec St)}
    (htoken : givenToken i.answers = none) (hidle : i.IsIdle s k key) :
    i.MeetsDeadline s k key start o where
  unauthenticated _ := hidle
  checked hsome := by
    rw [htoken] at hsome
    exact nomatch hsome
  timely := by
    rintro (⟨a, ha, request, hrequest⟩ | hrun)
    · rcases hidle.calls a ha with ⟨_, _, hcall⟩ | ⟨_, hcall⟩
      all_goals exact nomatch hcall.symm.trans hrequest
    · exact absurd hidle.lifecycle hrun
  overdue now hcheck := by
    obtain ⟨a, ha, hclock⟩ := List.mem_filterMap.1 (List.mem_of_head? hcheck)
    obtain ⟨call, reply, before, after⟩ := a
    rcases hidle.calls _ ha with ⟨_, _, hcall⟩ | ⟨_, hcall⟩
    all_goals
      cases hcall
      exact nomatch hclock

/-- An invocation that does nothing but to fail its object meets every deadline. -/
theorem Invocation.MeetsDeadline.of_fails {i : Invocation (Resource Spec St)}
    (htoken : (givenToken i.answers).isSome) (hcheck : i.check?.isSome)
    (hquiet : ∀ a ∈ i.answers, ¬ a.IsRequest) (hany : i.IgnoresLifecycle s k key)
    (hfails : i.Fails "ReconciliationTimeout" k o) : i.MeetsDeadline s k key start o where
  unauthenticated hnone := by
    rw [hnone] at htoken
    exact nomatch htoken
  checked _ := hcheck
  timely := by
    rintro (⟨a, ha, hrequest⟩ | hrun)
    · exact absurd hrequest (hquiet a ha)
    · exact absurd hany hrun
  overdue _ _ _ := ⟨hquiet, hany, hfails⟩

/-- A deadline that is met is met all the more if the phase counts from a time that has passed for
    no longer. -/
theorem Invocation.MeetsDeadline.mono {i : Invocation (Resource Spec St)} {start' : Instant}
    (h : i.MeetsDeadline s k key start o)
    (hle : ∀ now, i.check? = some now → now.elapsed start' ≤ now.elapsed start) :
    i.MeetsDeadline s k key start' o where
  unauthenticated := h.unauthenticated
  checked := h.checked
  timely hbusy := by
    obtain ⟨now, hcheck, hin, -⟩ := h.timely hbusy
    have hin' : now.elapsed start' ≤ s.policy.timeout := Nat.le_trans (hle now hcheck) hin
    exact ⟨now, hcheck, hin', fun hnow hstart => (Instant.elapsed_le_iff hnow hstart _).1 hin'⟩
  overdue now hcheck hlate := h.overdue now hcheck fun hin =>
    hlate (Nat.le_trans (hle now hcheck) hin)

/-- Every invocation meets the deadline of the phase that it finds its object in. -/
theorem meetsDeadline_of_trace
    (h : Trace (Slot.surroundings k key) (s.reconcile key.1 key.2) ⟨some o, false⟩ τ result w)
    (hkey : o.key = key) (ht : o.phase.isTransitioning = true)
    (hstart : o.recordOrBlank.phaseStart = some start) :
    Invocation.MeetsDeadline s k key start o ⟨some o, τ, result, w.stored⟩ := by
  rcases idle_or_advance_of_trace h with
    ⟨htoken, hidle⟩ | ⟨token, w₁, w₂, rest, stage, rfl, rfl, hshows, hadvance, hany⟩
  · exact .of_idle htoken hidle
  · obtain ⟨first, settled, w₃, last, hfirst, hlast, rfl⟩ := trace_bind.1 hadvance
    rcases timed_of_trace hfirst with ⟨rfl, hin⟩ | ⟨stage', τ₁, w₄, τ₂, rfl, hup, hset, rfl⟩
    · cases hin with
      | untimed hno => exact nomatch (hno start hstart).symm.trans ht
      | within hstart' _ hle _ =>
          cases hstart.symm.trans hstart'
          exact .of_timely rfl rfl hle
    · -- the time is up, and the invocation ends with the failure, whatever the lifecycle
      obtain ⟨rfl, rfl, rfl⟩ := trace_done.1 hlast
      rw [List.append_nil] at hadvance hany ⊢
      have hquiet : ∀ a ∈ τ₁ ++ τ₂, ¬ a.IsRequest ∧ a.isUpdate = false := fun a ha =>
        (List.mem_append.1 ha).elim
          (fun ha => ⟨hup.not_isRequest a ha, hup.isUpdate_eq_false a ha⟩)
          fun ha => ⟨hset.not_isRequest a ha, hset.isUpdate_eq_false a ha⟩
      have hshows' := hup.shows hshows
      subst hkey
      refine .of_fails rfl ?_ ?_ (fun l => ⟨w, rfl, hany l ?_⟩) ?_
      · cases hup with
        | up _ _ _ _ => rfl
      · refine List.forall_mem_cons.2 ⟨EngineAnswer.not_isRequest fun _ hc => (nomatch hc), ?_⟩
        refine List.forall_mem_cons.2 ⟨EngineAnswer.not_isRequest fun _ hc => (nomatch hc), ?_⟩
        exact fun a ha => (hquiet a ha).1
      · refine trace_bind.2 ⟨τ₁ ++ τ₂, some stage, w, [], hfirst, .done _ _, ?_⟩
        exact (List.append_nil _).symm
      · refine hset.fails ⟨rfl, rfl, rfl⟩ hshows' (fun a ha => ?_) ?_ rfl rfl
        · exact List.mem_cons_of_mem _ (List.mem_cons_of_mem _ (List.mem_append_right _ ha))
        · refine List.forall_mem_cons.2 ⟨rfl, List.forall_mem_cons.2 ⟨rfl, ?_⟩⟩
          exact fun a ha => (hquiet a ha).2

end

/-! ## The clock of a run -/

/-- The readings of the clock in a history, oldest first. -/
def readings {O : Type} (h : List (Invocation O)) : List Instant := readingsOf (answersOf h)

/-- The clock has not gone back, and has shown no leap second. -/
structure ClockAdvances {O : Type} (h : List (Invocation O)) : Prop where
  ordered : (readings h).Pairwise (· ≤ ·)
  regular : ∀ now ∈ readings h, now.inLeap = false

theorem readings_cons {O : Type} (i : Invocation O) (h : List (Invocation O)) :
    readings (i :: h) = readings h ++ readingsOf i.answers := by
  rw [readings, answersOf_cons, readingsOf, List.filterMap_append]
  rfl

/-- The readings before an invocation, then its own, then the later ones. -/
theorem readings_append {O : Type} (later earlier : List (Invocation O)) (j : Invocation O) :
    ∃ rest, readings (later ++ j :: earlier) =
      readings earlier ++ (readingsOf j.answers ++ rest) := by
  induction later with
  | nil => exact ⟨[], by rw [List.append_nil, ← readings_cons, List.nil_append]⟩
  | cons i later ih =>
      obtain ⟨rest, hrest⟩ := ih
      refine ⟨rest ++ readingsOf i.answers, ?_⟩
      rw [List.cons_append, readings_cons, hrest, List.append_assoc, List.append_assoc]

/-- What the clock has done in a history it has done up to each invocation, and in it. -/
theorem ClockAdvances.of_append {O : Type} {later earlier : List (Invocation O)} {j : Invocation O}
    (h : ClockAdvances (later ++ j :: earlier)) :
    ClockAdvances earlier ∧ ∀ now ∈ readingsOf j.answers, now.inLeap = false := by
  obtain ⟨rest, hrest⟩ := readings_append later earlier j
  obtain ⟨hordered, hregular⟩ := h
  rw [hrest] at hordered hregular
  refine ⟨⟨(List.pairwise_append.1 hordered).1, fun now hnow => ?_⟩, fun now hnow => ?_⟩
  · exact hregular now (List.mem_append_left _ hnow)
  · exact hregular now (List.mem_append_right _ (List.mem_append_left _ hnow))

/-- A status write is made at the reading that the clock starts with, or at a later one. -/
theorem clock_of_mem_statusWritesFrom {O : Type} {clock : Option Instant}
    {τ : List (EngineAnswer O)} {x : StatusWrite O} (hx : x ∈ statusWritesFrom clock τ) :
    x.clock = clock ∨ ∃ now ∈ readingsOf τ, x.clock = some now := by
  induction τ generalizing clock with
  | nil => exact nomatch hx
  | cons a τ ih =>
      obtain ⟨call, reply, before, after⟩ := a
      cases call with
      | now =>
          rcases ih hx with hclock | ⟨now, hnow, hclock⟩
          · exact .inr ⟨reply, List.mem_cons_self .., hclock⟩
          · exact .inr ⟨now, List.mem_cons_of_mem _ hnow, hclock⟩
      | authenticate tenant => exact ih hx
      | fetch namespace_ name => exact ih hx
      | fetchProject namespace_ name => exact ih hx
      | update o => exact ih hx
      | remote c => exact ih hx
      | updateStatus o =>
          cases reply with
          | error f => exact ih hx
          | ok n =>
              rcases List.mem_append.1 hx with hx | hx
              · exact ih hx
              · cases List.mem_singleton.1 hx
                exact .inl rfl

section

variable {s : Setting (Resource Spec St)} {k : Circumstances} {c : RemoteCalls Spec St}
  {start : Resource Spec St} {h : List (Invocation (Resource Spec St))}
  {stored : Option (Resource Spec St)}

/-- The status writes of a run are made at readings of the clock, in their order. -/
theorem Runs.clocks_sublist (hr : Runs s k start h stored) (hl : s.lifecycle = c.lifecycle) :
    ((statusWrites h).reverse.map StatusWrite.clock).Sublist ((readings h).map some) := by
  induction hr with
  | start => exact List.nil_sublist _
  | edited _ _ ih => exact ih
  | removed _ _ ih => exact ih
  | @invoked h stored τ result w hr ht ih =>
      rw [readings_cons, statusWrites, List.flatMap_cons, List.reverse_append, List.map_append,
        List.map_append]
      refine ih.append ?_
      show ((statusWritesFrom none τ).reverse.map StatusWrite.clock).Sublist _
      have hi := invokes_of_trace hl ht
      cases stored with
      | none =>
          obtain ⟨-, reply, rfl⟩ := hi.absent_spec
          exact List.nil_sublist _
      | some o =>
          cases hi.effect (hr.key_eq hl o rfl) with
          | still hws _ =>
              rw [hws]
              exact List.nil_sublist _
          | @moved _ _ _ t p _ _ _ _ now n _ _ _ _ hws _ _ =>
              have hx : ⟨some now, t.recorded now p, n⟩ ∈ statusWritesFrom none τ :=
                hws ▸ List.mem_singleton.2 rfl
              rw [hws]
              refine List.singleton_sublist.2 (List.mem_map.2 ?_)
              rcases clock_of_mem_statusWritesFrom hx with hclock | ⟨now', hnow, hclock⟩
              · cases hclock
              · exact ⟨now', hnow, hclock.symm⟩

/-- Every status write is made at a reading of the clock. -/
theorem Runs.clock_mem (hr : Runs s k start h stored) (hl : s.lifecycle = c.lifecycle)
    {x : StatusWrite (Resource Spec St)} (hx : x ∈ statusWrites h) :
    ∃ now ∈ readings h, x.clock = some now := by
  have hmem := (hr.clocks_sublist hl).subset
    (List.mem_map.2 ⟨x, List.mem_reverse.2 hx, rfl⟩)
  obtain ⟨now, hnow, hclock⟩ := List.mem_map.1 hmem
  exact ⟨now, hnow, hclock.symm⟩

/-- Where the clock does not go back, older status writes are not made later. -/
theorem Runs.clock_le (hr : Runs s k start h stored) (hl : s.lifecycle = c.lifecycle)
    (hclock : (readings h).Pairwise (· ≤ ·)) {newer older : List (StatusWrite (Resource Spec St))}
    {x y : StatusWrite (Resource Spec St)} (hws : statusWrites h = newer ++ x :: older)
    (hy : y ∈ older) {a b : Instant} (hx : x.clock = some a) (hb : y.clock = some b) : b ≤ a := by
  have hordered : ((readings h).map some).Pairwise fun u v => ∀ b a, u = some b → v = some a →
      b ≤ a := by
    refine List.pairwise_map.2 (hclock.imp fun hle b a hu hv => ?_)
    cases hu
    cases hv
    exact hle
  have hwrites := List.pairwise_reverse.1
    (List.pairwise_map.1 (hordered.sublist (hr.clocks_sublist hl)))
  rw [hws] at hwrites
  have hlast := (List.pairwise_append.1 hwrites).2.1
  exact (List.pairwise_cons.1 hlast).1 y hy b a hb hx

/-- Where the clock does not go back and shows no leap second, less time has passed since a status
    write than since one that is not newer. -/
theorem Runs.elapsed_le_of_entry (hr : Runs s k start h stored) (hl : s.lifecycle = c.lifecycle)
    (hclock : ClockAdvances h) {newer older : List (StatusWrite (Resource Spec St))}
    {x entry : StatusWrite (Resource Spec St)} (hws : statusWrites h = newer ++ x :: older)
    (hentry : entry ∈ x :: older) {since : Instant} (hsince : entry.clock = some since) :
    ∃ a, x.clock = some a ∧ ∀ now : Instant, now.inLeap = false →
      now.elapsed a ≤ now.elapsed since := by
  have hmem : ∀ y ∈ x :: older, y ∈ statusWrites h := fun y hy =>
    hws ▸ List.mem_append_right _ hy
  obtain ⟨a, ha, hx⟩ := hr.clock_mem hl (hmem x (List.mem_cons_self ..))
  refine ⟨a, hx, fun now hnow => ?_⟩
  rcases List.mem_cons.1 hentry with rfl | hold
  · cases hx.symm.trans hsince
    exact Nat.le_refl _
  · obtain ⟨b, hb, hy⟩ := hr.clock_mem hl (hmem entry hentry)
    cases hy.symm.trans hsince
    refine Instant.elapsed_le_elapsed hnow (hclock.regular _ hb) (hclock.regular _ ha) ?_
    exact hr.clock_le hl hclock.ordered hws hold hx hy

end

/-! ## Staying in a phase -/

section

variable {α β : Type} [DecidableEq β] {f : α → β} {a b : α} {newer older : List α}

/-- Newer elements with the same value do not move the entry. -/
theorem entryOf_append (h : ∀ x ∈ newer, f x = f a) :
    entryOf f (newer ++ a :: older) = entryOf f (a :: older) := by
  induction newer with
  | nil => rfl
  | cons b newer ih =>
      obtain ⟨hb, hnewer⟩ := List.forall_mem_cons.1 h
      rw [← ih hnewer]
      cases newer with
      | nil => exact entryOf_cons_same hb.symm
      | cons b' newer =>
          exact entryOf_cons_same ((hnewer b' (List.mem_cons_self ..)).trans hb.symm)

/-- An element whose predecessor has another value is the entry. -/
theorem entryOf_of_head (h : ∀ x, older.head? = some x → f x ≠ f a) :
    entryOf f (a :: older) = some a := by
  cases older with
  | nil => rfl
  | cons x older => exact entryOf_cons_other (h x rfl)

/-- The entry is one of the elements. -/
theorem mem_of_entryOf {l : List α} (h : entryOf f l = some b) : b ∈ l := by
  induction l with
  | nil => exact nomatch h
  | cons x l ih =>
      cases l with
      | nil =>
          cases h
          exact List.mem_cons_self ..
      | cons y l =>
          by_cases hxy : f y = f x
          · rw [entryOf_cons_same hxy] at h
            exact List.mem_cons_of_mem _ (ih h)
          · rw [entryOf_cons_other hxy] at h
            cases h
            exact List.mem_cons_self ..

end

/-- The invocation was made while the object was in the transitioning phase that the write `w` had
    stored: no status write in between has stored another one. -/
structure Lingers (h : List (Invocation (Resource Spec St)))
    (older : List (StatusWrite (Resource Spec St))) (w : StatusWrite (Resource Spec St))
    (j : Invocation (Resource Spec St)) : Prop where
  transitioning : w.phase.isTransitioning = true
  since : ∃ later earlier newer, h = later ++ j :: earlier ∧
    statusWrites earlier = newer ++ w :: older ∧ ∀ x ∈ newer, x.phase = w.phase

/-- The last invocation is made in the phase of a write if every later write has stored it again. -/
theorem Lingers.of_head? {h : List (Invocation (Resource Spec St))}
    {older : List (StatusWrite (Resource Spec St))} {w : StatusWrite (Resource Spec St)}
    {j : Invocation (Resource Spec St)} (newer : List (StatusWrite (Resource Spec St)))
    (hj : h.head? = some j) (hws : statusWrites h.tail = newer ++ w :: older)
    (ht : w.phase.isTransitioning = true) (hlasts : ∀ x ∈ newer, x.phase = w.phase) :
    Lingers h older w j := by
  obtain ⟨earlier, rfl⟩ := List.head?_eq_some_iff.1 hj
  exact ⟨ht, [], earlier, newer, rfl, hws, hlasts⟩

/-- What a run says about deadlines. -/
structure KeepsDeadlines (s : Setting (Resource Spec St)) (k : Circumstances) (key : ObjectKey)
    (h : List (Invocation (Resource Spec St))) : Prop where
  /-- The time counts from the write that has entered the phase, whatever the clock shows. -/
  entered : ∀ older w j o, Lingers h older w j →
    (∀ x, older.head? = some x → x.phase ≠ w.phase) → j.before = some o →
    ∃ start, w.clock = some start ∧ j.MeetsDeadline s k key start o
  /-- Where the clock does not go back and shows no leap second, it may as well be counted from any
      write of the phase. -/
  rewritten : ClockAdvances h → ∀ older w j o, Lingers h older w j → j.before = some o →
    ∃ start, w.clock = some start ∧ j.MeetsDeadline s k key start o

section

variable {s : Setting (Resource Spec St)} {k : Circumstances} {c : RemoteCalls Spec St}
  {start o : Resource Spec St} {h : List (Invocation (Resource Spec St))}
  {stored : Option (Resource Spec St)} {newer older : List (StatusWrite (Resource Spec St))}
  {w : StatusWrite (Resource Spec St)} {j : Invocation (Resource Spec St)}

/-- While the phase lasts, its start is the reading of the clock at the write that entered it. -/
theorem KeepsRecord.phaseStart_of_lasting (hk : KeepsRecord k h (some o))
    (hws : statusWrites h = newer ++ w :: older) (hlasts : ∀ x ∈ newer, x.phase = w.phase) :
    o.phase = w.phase ∧ ∃ entry since, entryOf StatusWrite.phase (w :: older) = some entry ∧
      entry.clock = some since ∧ o.recordOrBlank.phaseStart = some since := by
  obtain ⟨x, rest, hx, hphase⟩ : ∃ x rest, newer ++ w :: older = x :: rest ∧ x.phase = w.phase := by
    cases newer with
    | nil => exact ⟨w, older, rfl, rfl⟩
    | cons x newer => exact ⟨x, newer ++ w :: older, rfl, hlasts x (List.mem_cons_self ..)⟩
  have hcurrent := hk.current o rfl
  rw [hws, hx] at hcurrent
  obtain ⟨record, cond, hreports⟩ := hk.reports [] x rest (hws.trans hx)
  have hrecord : o.recordOrBlank = record := recordOrBlank_of_current hreports hcurrent
  refine ⟨?_, ?_⟩
  · rw [← hphase, StatusWrite.phase_of_record? hreports.record?, ← hrecord]
    rfl
  · obtain ⟨since, hsince⟩ := Option.isSome_iff_exists.1 hreports.phaseStart_isSome
    have hentry := hreports.phaseStart.symm.trans hsince
    rw [← hx, entryOf_append hlasts] at hentry
    obtain ⟨entry, hentry, hclock⟩ := Option.bind_eq_some_iff.1 hentry
    exact ⟨entry, since, hentry, hclock, hrecord ▸ hsince⟩

/-- An invocation in a phase that lasts meets the deadline that counts from its entry. -/
theorem Runs.meetsDeadline {later earlier : List (Invocation (Resource Spec St))}
    (hr : Runs s k start h stored) (hl : s.lifecycle = c.lifecycle) (hstart : start.status = none)
    (hh : h = later ++ j :: earlier) (hws : statusWrites earlier = newer ++ w :: older)
    (hlasts : ∀ x ∈ newer, x.phase = w.phase) (ht : w.phase.isTransitioning = true)
    (ho : j.before = some o) :
    ∃ entry since, entryOf StatusWrite.phase (w :: older) = some entry ∧
      entry.clock = some since ∧ j.MeetsDeadline s k start.key since o := by
  obtain ⟨hrun, w', htrace, hafter⟩ := hr.invocation_of_append hh
  obtain ⟨before, answers, result, after⟩ := j
  cases ho
  cases hafter
  obtain ⟨hphase, entry, since, hentry, hclock, hsince⟩ :=
    (hrun.keepsRecord hl hstart).phaseStart_of_lasting hws hlasts
  refine ⟨entry, since, hentry, hclock, ?_⟩
  exact meetsDeadline_of_trace htrace (hrun.key_eq hl o rfl) (hphase ▸ ht) hsince

/-- Every run of a kind with given remote calls keeps its deadlines. -/
theorem Runs.keepsDeadlines (hr : Runs s k start h stored) (hl : s.lifecycle = c.lifecycle)
    (hstart : start.status = none) : KeepsDeadlines s k start.key h where
  entered older w j o hlingers hentered ho := by
    obtain ⟨later, earlier, newer, hh, hws, hlasts⟩ := hlingers.since
    obtain ⟨entry, since, hentry, hclock, hmeets⟩ :=
      hr.meetsDeadline hl hstart hh hws hlasts hlingers.transitioning ho
    rw [entryOf_of_head hentered] at hentry
    cases hentry
    exact ⟨since, hclock, hmeets⟩
  rewritten hadvances older w j o hlingers ho := by
    obtain ⟨later, earlier, newer, hh, hws, hlasts⟩ := hlingers.since
    obtain ⟨entry, since, hentry, hclock, hmeets⟩ :=
      hr.meetsDeadline hl hstart hh hws hlasts hlingers.transitioning ho
    obtain ⟨hrun, -⟩ := hr.invocation_of_append hh
    obtain ⟨hearlier, hregular⟩ := (hh ▸ hadvances).of_append
    obtain ⟨start', hclock', hle⟩ :=
      hrun.elapsed_le_of_entry hl hearlier hws (mem_of_entryOf hentry) hclock
    refine ⟨start', hclock', hmeets.mono fun now hcheck => hle now ?_⟩
    exact hregular now (List.mem_of_head? hcheck)

end

/-- In runs of projects and of volumes from an object without status, requests are sent and steps
    are run in a transitioning phase only until the time since its entry is up; the first check
    after that fails the object. -/
theorem deadline_kept (k : Circumstances) :
    (∀ (s : Setting Project) (start : Project) (h : List (Invocation Project))
        (stored : Option Project),
      s.lifecycle = projectLifecycle → start.status = none → Runs s k start h stored →
      KeepsDeadlines s k start.key h) ∧
    (∀ (s : Setting Volume) (start : Volume) (h : List (Invocation Volume))
        (stored : Option Volume),
      s.lifecycle = volumeLifecycle → start.status = none → Runs s k start h stored →
      KeepsDeadlines s k start.key h) := by
  constructor
  · intro s start h stored hl hstart hr
    exact hr.keepsDeadlines (hl.trans projectLifecycle_eq) hstart
  · intro s start h stored hl hstart hr
    exact hr.keepsDeadlines (hl.trans volumeLifecycle_eq) hstart

namespace Scripted

/-- The world a number of nanoseconds later. -/
def World.advanced (nanos : Int) (w : World) : World := { w with desk := w.desk.advance nanos }

/-- Time that passes in a world goes on with a run. -/
theorem World.runs_advanced {shelf : Shelf Spec St} (hshelf : shelf.IsLawful)
    {s : Setting (Resource Spec St)} {k : Circumstances} {start : Resource Spec St}
    {h : List (Invocation (Resource Spec St))} {w : World}
    (hr : Runs s k start h (w.slot shelf start.key).stored) (hw : (shelf.store w).Admits k)
    (nanos : Int) :
    Runs s k start h ((w.advanced nanos).slot shelf start.key).stored ∧
      (shelf.store (w.advanced nanos)).Admits k := by
  have hstore : shelf.store (w.advanced nanos) = shelf.store w :=
    hshelf.store_eq w w.transport w.asked _
  rw [World.slot, hstore]
  exact ⟨hr, hw⟩

/-- The creation of the project fails, the project is marked for deletion, and nothing happens for
    more than the time of a phase. -/
def projectStalled : List (Invocation Project) × World :=
  let early := (projectWorld []).reconciledTimes projectShelf projectSetting newProject.key 2
  let marked := early.2.edited projectShelf newProject.key (·.markedAt ⟨0, 0⟩)
  let late := (marked.advanced (Duration.ofSeconds 301).nanos).reconciledTimes projectShelf
    projectSetting newProject.key 1
  (late.1 ++ early.1, late.2)

theorem runs_projectStalled : Runs projectSetting calm newProject projectStalled.1
    (projectStalled.2.slot projectShelf newProject.key).stored := by
  have hnew : Runs projectSetting calm newProject []
      ((projectWorld []).slot projectShelf newProject.key).stored := .start
  obtain ⟨hearly, hadmits⟩ := World.runs projectShelf_isLawful hnew (admits_projectWorld []) 2
  rw [List.append_nil] at hearly
  obtain ⟨hmarked, hadmits⟩ := World.runs_edited projectShelf_isLawful hearly hadmits
    fun o _ => o.edited_markedAt ⟨0, 0⟩
  obtain ⟨hlate, hadmits⟩ := World.runs_advanced projectShelf_isLawful hmarked hadmits
    (Duration.ofSeconds 301).nanos
  exact (World.runs projectShelf_isLawful hlate hadmits 1).1

/-- The last invocation of the stalled project comes late, after two writes of the phase that it
    finds the project in. -/
theorem exists_late_projectStalled :
    ∃ late o again entry, projectStalled.1.head? = some late ∧ late.before = some o ∧
      late.check? = some ⟨301, 0⟩ ∧ statusWrites projectStalled.1.tail = [again, entry] ∧
      (again.phase = .creating ∧ again.clock = some ⟨0, 0⟩) ∧
      entry.phase = .creating ∧ entry.clock = some ⟨0, 0⟩ :=
  ⟨_, _, _, _, rfl, rfl, rfl, rfl, ⟨rfl, rfl⟩, rfl, rfl⟩

/-- The last invocation of the volume's story finds the volume in deletion, and sends a request. -/
theorem exists_removal_volumeStory :
    ∃ removal o entry created older, volumeStory.1.head? = some removal ∧
      removal.before = some o ∧ (∃ a ∈ removal.answers, a.IsRequest) ∧
      statusWrites volumeStory.1.tail = entry :: created :: older ∧
      (entry.phase = .deleting ∧ entry.clock = some ⟨0, 0⟩) ∧ created.phase = .created :=
  ⟨_, _, _, _, _, rfl, rfl, ⟨_, List.mem_of_getElem? (i := 4) rfl, _, rfl⟩, rfl, ⟨rfl, rfl⟩, rfl⟩

theorem clockAdvances_projectStalled : ClockAdvances projectStalled.1 :=
  ⟨by decide +kernel, by decide +kernel⟩

theorem clockAdvances_volumeStory : ClockAdvances volumeStory.1 :=
  ⟨by decide +kernel, by decide +kernel⟩

end Scripted

open Scripted in
/-- A project that cannot be created fails when its time is up, although it is to be deleted, and
    whichever write of the phase the time is counted from.  A volume is created and removed in
    time. -/
theorem deadline_kept_stories :
    (KeepsDeadlines projectSetting calm newProject.key projectStalled.1 ∧
      phasesOf projectStalled.1 = [some .creating, some .creating, some .failed] ∧
      methodsSent projectStalled.1 = ["POST"] ∧
      (projectStalled.1.map Invocation.check?).reverse =
        [some ⟨0, 0⟩, some ⟨0, 0⟩, some ⟨301, 0⟩] ∧
      ClockAdvances projectStalled.1 ∧
      ∃ late o again entry, projectStalled.1.head? = some late ∧ late.before = some o ∧
        Lingers projectStalled.1 [] entry late ∧ Lingers projectStalled.1 [entry] again late ∧
        late.MeetsDeadline projectSetting calm newProject.key ⟨0, 0⟩ o ∧
        late.Fails "ReconciliationTimeout" calm o) ∧
    KeepsDeadlines volumeSetting calm newVolume.key volumeStory.1 ∧
      ClockAdvances volumeStory.1 ∧
      ∃ removal o entry older, volumeStory.1.head? = some removal ∧ removal.before = some o ∧
        Lingers volumeStory.1 older entry removal ∧ (∃ a ∈ removal.answers, a.IsRequest) ∧
        removal.MeetsDeadline volumeSetting calm newVolume.key ⟨0, 0⟩ o := by
  have hproject := (deadline_kept calm).1 _ _ _ _ rfl rfl runs_projectStalled
  have hvolume := (deadline_kept calm).2 _ _ _ _ rfl rfl runs_volumeStory
  refine ⟨⟨hproject, by decide +kernel, by decide +kernel, by decide +kernel,
    clockAdvances_projectStalled, ?_⟩, hvolume, clockAdvances_volumeStory, ?_⟩
  · obtain ⟨late, o, again, entry, hlate, ho, hcheck, hws, ⟨hagain, hclock⟩, hentry, hstart⟩ :=
      exists_late_projectStalled
    have hfirst : Lingers projectStalled.1 [] entry late := by
      refine .of_head? [again] hlate hws (by rw [hentry]; rfl) ?_
      exact List.forall_mem_singleton.2 (hagain.trans hentry.symm)
    have hsecond : Lingers projectStalled.1 [entry] again late :=
      .of_head? [] hlate hws (by rw [hagain]; rfl) (List.forall_mem_nil _)
    obtain ⟨start, hs, hmeets⟩ := hproject.entered _ _ _ o hfirst (fun _ hx => nomatch hx) ho
    obtain ⟨start', hs', hmeets'⟩ :=
      hproject.rewritten clockAdvances_projectStalled _ _ _ o hsecond ho
    cases hstart.symm.trans hs
    cases hclock.symm.trans hs'
    have hover : ¬ (⟨301, 0⟩ : Instant).elapsed ⟨0, 0⟩ ≤ projectSetting.policy.timeout := by
      decide +kernel
    obtain ⟨-, -, hfails⟩ := hmeets'.overdue ⟨301, 0⟩ hcheck hover
    exact ⟨late, o, again, entry, hlate, ho, hfirst, hsecond, hmeets, hfails⟩
  · obtain ⟨removal, o, entry, created, older, hremoval, ho, hsent, hws, ⟨hentry, hstart⟩,
      hcreated⟩ := exists_removal_volumeStory
    have hlingers : Lingers volumeStory.1 (created :: older) entry removal :=
      .of_head? [] hremoval hws (by rw [hentry]; rfl) (List.forall_mem_nil _)
    have hentered : ∀ x, (created :: older).head? = some x → x.phase ≠ entry.phase := by
      intro x hx
      cases hx
      rw [hcreated, hentry]
      exact nofun
    obtain ⟨start, hs, hmeets⟩ := hvolume.entered _ _ _ o hlingers hentered ho
    cases hstart.symm.trans hs
    exact ⟨removal, o, entry, created :: older, hremoval, ho, hlingers, hsent, hmeets⟩

end CloudReconciler
