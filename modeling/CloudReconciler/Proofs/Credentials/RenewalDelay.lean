import CloudReconciler.Credentials.BackendClient
import CloudReconciler.Proofs.Trace

/-! # The renewal delay — a lease is renewed while it lasts

    A lease is renewed when a fifth of it is left, or ten seconds if that is
    more, and a lease that is not longer than this is renewed after a second.
    The three cases meet at ten seconds and at fifty.  Only leases of whole
    seconds have delays that grow with them: just above ten seconds the delay
    falls to a nanosecond.

    * `LeavesMargin`: what the delay of a longer lease leaves of it;
    * `WordSpan`: a span in machine words, with the division and the
      subtraction that clocks make on them.  Computed so, the delay is the
      same (`span_renewalDelay`). -/

namespace CloudReconciler

open Procedure (Trace trace_done trace_bind)

/-- The wait ends while the lease lasts, and leaves a fifth of it, rounded down to a nanosecond, or
    ten seconds if that is more. -/
structure LeavesMargin (lease wait : Duration) : Prop where
  exact : wait + max ⟨lease.nanos / 5⟩ (.ofSeconds 10) = lease
  inside : wait < lease
  seconds : wait + .ofSeconds 10 ≤ lease
  fifth : lease.nanos < 5 * (lease.nanos - wait.nanos + 1)

namespace Duration

theorem nanos_max (a b : Duration) : (max a b).nanos = max a.nanos b.nanos := by
  show (if a.nanos ≤ b.nanos then b else a).nanos = _
  rw [apply_ite Duration.nanos]
  exact Nat.max_def.symm

end Duration

/-- The delay in nanoseconds. -/
theorem nanos_renewalDelay (lease : Duration) :
    (renewalDelay lease).nanos =
      if max (lease.nanos / 5) 10000000000 < lease.nanos then
        lease.nanos - max (lease.nanos / 5) 10000000000
      else 1000000000 := by
  have hmargin : (max ⟨lease.nanos / 5⟩ leastMargin : Duration).nanos =
      max (lease.nanos / 5) 10000000000 := Duration.nanos_max _ _
  by_cases h : max (lease.nanos / 5) 10000000000 < lease.nanos
  · have hlt : max ⟨lease.nanos / 5⟩ leastMargin < lease := by
      rwa [Duration.lt_def, hmargin]
    rw [if_pos h, ← hmargin]
    exact congrArg Duration.nanos (if_pos hlt)
  · have hlt : ¬ max ⟨lease.nanos / 5⟩ leastMargin < lease := by
      rwa [Duration.lt_def, hmargin]
    rw [if_neg h]
    exact congrArg Duration.nanos (if_neg hlt)

/-! ## The three cases -/

section

variable (lease : Duration)

theorem renewalDelay_pos : .zero < renewalDelay lease := by
  rw [Duration.lt_def, nanos_renewalDelay]
  show 0 < _
  split <;> omega

/-- A lease of more than ten seconds is renewed when its margin is left. -/
theorem leavesMargin_renewalDelay (h : .ofSeconds 10 < lease) :
    LeavesMargin lease (renewalDelay lease) := by
  have hten : 10000000000 < lease.nanos := h
  have hmargin : max (lease.nanos / 5) 10000000000 < lease.nanos := by omega
  have hdelay := nanos_renewalDelay lease
  rw [if_pos hmargin] at hdelay
  refine ⟨congrArg Duration.mk ?_, ?_, ?_, ?_⟩
  · show (renewalDelay lease).nanos + (max (_ : Duration) _).nanos = lease.nanos
    rw [Duration.nanos_max, hdelay]
    exact Nat.sub_add_cancel (Nat.le_of_lt hmargin)
  · rw [Duration.lt_def, hdelay]
    omega
  · show (renewalDelay lease).nanos + 10000000000 ≤ lease.nanos
    omega
  · omega

/-- Of a lease of at most ten seconds no margin can be kept. -/
theorem renewalDelay_of_le (h : lease ≤ .ofSeconds 10) : renewalDelay lease = .ofSeconds 1 := by
  have hten : lease.nanos ≤ 10000000000 := h
  have hmargin : ¬ max (lease.nanos / 5) 10000000000 < lease.nanos := by omega
  have hdelay := nanos_renewalDelay lease
  rw [if_neg hmargin] at hdelay
  exact congrArg Duration.mk hdelay

end

/-! ## Whole seconds -/

section

variable {m n : Nat}

theorem nanos_renewalDelay_ofSeconds (n : Nat) :
    (renewalDelay (.ofSeconds n)).nanos =
      if max (n * 1000000000 / 5) 10000000000 < n * 1000000000 then
        n * 1000000000 - max (n * 1000000000 / 5) 10000000000
      else 1000000000 := nanos_renewalDelay _

theorem one_le_renewalDelay (n : Nat) : .ofSeconds 1 ≤ renewalDelay (.ofSeconds n) := by
  rw [Duration.le_def, nanos_renewalDelay_ofSeconds]
  show 1000000000 ≤ _
  split <;> omega

/-- A longer lease is not renewed earlier. -/
theorem renewalDelay_mono (h : m ≤ n) :
    renewalDelay (.ofSeconds m) ≤ renewalDelay (.ofSeconds n) := by
  rw [Duration.le_def, nanos_renewalDelay_ofSeconds, nanos_renewalDelay_ofSeconds]
  split <;> split <;> omega

-- Between whole seconds it may be: just above ten seconds all but the margin is a nanosecond.
example : renewalDelay (.ofSeconds 10) = .ofSeconds 1 ∧ renewalDelay ⟨10000000001⟩ = ⟨1⟩ := by
  decide

theorem renewalDelay_lt (h : 2 ≤ n) : renewalDelay (.ofSeconds n) < .ofSeconds n := by
  rw [Duration.lt_def, nanos_renewalDelay_ofSeconds]
  show _ < n * 1000000000
  split <;> omega

end

/-! ## The leases of the backend -/

namespace BackendAddress

variable {σ : Type} {e : Surroundings Http.WireCalls σ} {s t : σ}
  {τ : List (Answer Http.WireCalls σ)} {x : Session}

/-- The session in a document lasts whole seconds. -/
theorem lease_of_session? {j : Json} (h : session? j = some x) :
    ∃ n : UInt64, x.lease = .ofSeconds n.toNat := by
  simp only [session?, Option.bind_eq_bind, Option.bind_eq_some_iff, Option.pure_def,
    Option.some.injEq] at h
  obtain ⟨_, -, _, -, n, -, _, -, rfl⟩ := h
  exact ⟨n, rfl⟩

/-- The session in a reply is one in some part of its document. -/
theorem exists_session? {j : Json} (h : sessionReply? j = some (some x)) :
    ∃ part, session? part = some x := by
  obtain ⟨members, -, h⟩ := Option.bind_eq_some_iff.1 h
  rw [Json.optional, Json.defaulted] at h
  cases hlookup : Json.lookup "auth" members with
  | none =>
      rw [hlookup] at h
      exact nomatch h
  | some part =>
      rw [hlookup] at h
      dsimp only at h
      rw [Json.nullable.eq_def] at h
      split at h
      · exact nomatch h
      · obtain ⟨y, hy, hxy⟩ := Option.map_eq_some_iff.1 h
        cases hxy
        exact ⟨part, hy⟩

/-- A value that was read off a reply is one that some document describes. -/
theorem exists_of_valueOf {α : Type} {what : String} {decode? : Json → Option α} {a : α}
    {reply : Except Http.WireFault Http.WireReply} (h : valueOf what decode? reply = .ok a) :
    ∃ j, decode? j = some a := by
  cases reply with
  | error f => exact nomatch h
  | ok r =>
      rw [valueOf.eq_def] at h
      dsimp only at h
      split at h
      · rw [Http.WireReply.decode] at h
        cases hread : (if r.isComplete then Json.ofBytes? r.body else none).bind decode? with
        | none =>
            rw [hread] at h
            exact nomatch h
        | some b =>
            rw [hread] at h
            cases h
            obtain ⟨j, -, hj⟩ := Option.bind_eq_some_iff.1 hread
            exact ⟨j, hj⟩
      · exact nomatch h

/-- Whatever is answered to a login or a renewal, the session lasts whole seconds. -/
theorem lease_of_session {d : Http.Draft} {what : String}
    (h : Trace e (session d what) s τ (.ok x) t) : ∃ n : UInt64, x.lease = .ofSeconds n.toNat := by
  obtain ⟨_, reply, _, _, -, h, -⟩ := trace_bind.1 h
  obtain ⟨-, hx, -⟩ := trace_done.1 h
  cases hvalue : valueOf what sessionReply? reply with
  | error f =>
      rw [hvalue] at hx
      exact nomatch hx
  | ok found =>
      rw [hvalue] at hx
      cases found with
      | none => exact nomatch hx
      | some y =>
          cases hx
          obtain ⟨j, hj⟩ := exists_of_valueOf hvalue
          obtain ⟨part, hpart⟩ := exists_session? hj
          exact lease_of_session? hpart

end BackendAddress

/-! ## Spans in machine words -/

/-- Neither the product nor the sum of what is left over leaves its word. -/
theorem toNat_carriedFifth (seconds : UInt64) (subsecond : UInt32) :
    ((seconds % 5 * 1000000000 + (subsecond % 5).toUInt64) / 5).toUInt32.toNat =
      (seconds.toNat % 5 * 1000000000 + subsecond.toNat % 5) / 5 := by
  have hseconds : seconds.toNat % 5 < 5 := Nat.mod_lt _ (by decide)
  have hsubsecond : subsecond.toNat % 5 < 5 := Nat.mod_lt _ (by decide)
  simp only [UInt64.toNat_toUInt32, UInt64.toNat_div, UInt64.toNat_add, UInt64.toNat_mul,
    UInt64.toNat_mod, UInt32.toNat_toUInt64, UInt32.toNat_mod, UInt64.reduceToNat,
    UInt32.reduceToNat]
  generalize seconds.toNat % 5 = spare at hseconds ⊢
  generalize subsecond.toNat % 5 = rest at hsubsecond ⊢
  rw [Nat.mod_eq_of_lt (by omega : spare * 1000000000 < 2 ^ 64),
    Nat.mod_eq_of_lt (by omega : spare * 1000000000 + rest < 2 ^ 64),
    Nat.mod_eq_of_lt (by omega : (spare * 1000000000 + rest) / 5 < 2 ^ 32)]

theorem toNat_fifthSubsecond (seconds : UInt64) {subsecond : UInt32}
    (h : subsecond.toNat < 1000000000) :
    (subsecond / 5 +
        ((seconds % 5 * 1000000000 + (subsecond % 5).toUInt64) / 5).toUInt32).toNat =
      (seconds.toNat % 5 * 1000000000 + subsecond.toNat) / 5 := by
  have hseconds : seconds.toNat % 5 < 5 := Nat.mod_lt _ (by decide)
  rw [UInt32.toNat_add, toNat_carriedFifth, UInt32.toNat_div]
  simp only [UInt32.reduceToNat]
  generalize seconds.toNat % 5 = spare at hseconds ⊢
  omega

/-- A second that was borrowed is enough to subtract from. -/
theorem toNat_borrowed {m n : UInt32} (hm : m.toNat < 1000000000) (hn : n.toNat < 1000000000) :
    (m + 1000000000 - n).toNat = m.toNat + 1000000000 - n.toNat := by
  have hsum : (m + 1000000000).toNat = m.toNat + 1000000000 := by
    simp only [UInt32.toNat_add, UInt32.reduceToNat]
    omega
  rw [UInt32.toNat_sub_of_le _ _ (UInt32.le_iff_toNat_le.2 (by omega)), hsum]

/-- A span as clocks hold it: whole seconds in 64 bits, and the nanoseconds beyond them in 32. -/
structure WordSpan where
  seconds : UInt64
  subsecond : UInt32
  subsecond_lt : subsecond.toNat < 1000000000
  deriving DecidableEq

namespace WordSpan

/-- The span that the words stand for. -/
def span (w : WordSpan) : Duration := ⟨w.seconds.toNat * 1000000000 + w.subsecond.toNat⟩

/-- A whole number of seconds. -/
def ofSeconds (seconds : UInt64) : WordSpan := ⟨seconds, 0, by decide⟩

/-- A fifth of a span: each word is divided, and what the seconds leave over goes to the
    nanoseconds. -/
def fifth (w : WordSpan) : WordSpan where
  seconds := w.seconds / 5
  subsecond := w.subsecond / 5 +
    ((w.seconds % 5 * 1000000000 + (w.subsecond % 5).toUInt64) / 5).toUInt32
  subsecond_lt := by
    have hseconds : w.seconds.toNat % 5 < 5 := Nat.mod_lt _ (by decide)
    have hsubsecond := w.subsecond_lt
    rw [toNat_fifthSubsecond _ hsubsecond]
    omega

/-- The span is not longer: seconds decide, then nanoseconds. -/
def le (w v : WordSpan) : Bool :=
  w.seconds < v.seconds || (w.seconds == v.seconds && w.subsecond ≤ v.subsecond)

/-- The difference of two spans, with a second borrowed for the nanoseconds where these are too
    few; none if there is not enough to subtract from. -/
def sub? (w v : WordSpan) : Option WordSpan :=
  if v.seconds ≤ w.seconds then
    if h : v.subsecond ≤ w.subsecond then
      some
        { seconds := w.seconds - v.seconds
          subsecond := w.subsecond - v.subsecond
          subsecond_lt := by
            have hw := w.subsecond_lt
            rw [UInt32.toNat_sub_of_le _ _ h]
            omega }
    else if 1 ≤ w.seconds - v.seconds then
      some
        { seconds := w.seconds - v.seconds - 1
          subsecond := w.subsecond + 1000000000 - v.subsecond
          subsecond_lt := by
            have hlt : w.subsecond.toNat < v.subsecond.toNat :=
              Nat.lt_of_not_le fun hle => h (UInt32.le_iff_toNat_le.2 hle)
            rw [toNat_borrowed w.subsecond_lt v.subsecond_lt]
            omega }
    else none
  else none

/-- The delay of a lease, computed on words. -/
def renewalDelay (lease : WordSpan) : WordSpan :=
  let margin := if lease.fifth.le (ofSeconds 10) then ofSeconds 10 else lease.fifth
  match lease.sub? margin with
  | some wait => if wait.seconds = 0 ∧ wait.subsecond = 0 then ofSeconds 1 else wait
  | none => ofSeconds 1

variable {w v x : WordSpan}

/-- Every span that a clock can hold is one in words. -/
theorem exists_span_eq {d : Duration} (h : d.Representable) : ∃ w : WordSpan, w.span = d := by
  have hsubsecond : d.nanos % 1000000000 < 1000000000 := Nat.mod_lt _ (by decide)
  have hseconds : (UInt64.ofNat (d.nanos / 1000000000)).toNat = d.nanos / 1000000000 :=
    UInt64.toNat_ofNat_of_lt' (Nat.div_lt_of_lt_mul (Nat.mul_comm .. ▸ h))
  have hrest : (UInt32.ofNat (d.nanos % 1000000000)).toNat = d.nanos % 1000000000 :=
    UInt32.toNat_ofNat_of_lt' (Nat.lt_trans hsubsecond (by decide))
  refine ⟨⟨.ofNat (d.nanos / 1000000000), .ofNat (d.nanos % 1000000000), ?_⟩, ?_⟩
  · rwa [hrest]
  · refine congrArg Duration.mk ?_
    show (UInt64.ofNat _).toNat * 1000000000 + (UInt32.ofNat _).toNat = d.nanos
    rw [hrest, hseconds]
    exact Nat.div_add_mod' ..

/-- The division loses less than a nanosecond. -/
theorem span_fifth (w : WordSpan) : w.fifth.span = ⟨w.span.nanos / 5⟩ := by
  have hsubsecond := toNat_fifthSubsecond w.seconds w.subsecond_lt
  refine congrArg Duration.mk ?_
  show (w.seconds / 5).toNat * 1000000000 + w.fifth.subsecond.toNat =
    (w.seconds.toNat * 1000000000 + w.subsecond.toNat) / 5
  rw [fifth, hsubsecond]
  simp only [UInt64.toNat_div, UInt64.reduceToNat]
  omega

theorem le_iff : w.le v = true ↔ w.span ≤ v.span := by
  have hw := w.subsecond_lt
  have hv := v.subsecond_lt
  rw [Duration.le_def, span, span, le]
  simp only [Bool.or_eq_true, Bool.and_eq_true, decide_eq_true_eq, beq_iff_eq,
    UInt64.lt_iff_toNat_lt, ← UInt64.toNat_inj, UInt32.le_iff_toNat_le]
  omega

/-- Nothing is lost or gained by a subtraction. -/
theorem span_of_sub? (h : w.sub? v = some x) : x.span + v.span = w.span := by
  have hw := w.subsecond_lt
  have hv := v.subsecond_lt
  refine congrArg Duration.mk ?_
  show x.seconds.toNat * 1000000000 + x.subsecond.toNat +
      (v.seconds.toNat * 1000000000 + v.subsecond.toNat) =
    w.seconds.toNat * 1000000000 + w.subsecond.toNat
  rw [sub?] at h
  split at h
  case isFalse => exact nomatch h
  case isTrue hseconds =>
    have hle := UInt64.le_iff_toNat_le.1 hseconds
    have hdiff := UInt64.toNat_sub_of_le _ _ hseconds
    split at h
    case isTrue hrest =>
      cases h
      have := UInt32.le_iff_toNat_le.1 hrest
      rw [hdiff, UInt32.toNat_sub_of_le _ _ hrest]
      omega
    case isFalse hrest =>
      split at h
      case isFalse => exact nomatch h
      case isTrue hborrow =>
        cases h
        have hone := UInt64.le_iff_toNat_le.1 hborrow
        have := (not_congr UInt32.le_iff_toNat_le).1 hrest
        rw [hdiff] at hone
        simp only [UInt64.reduceToNat] at hone
        rw [toNat_borrowed hw hv, UInt64.toNat_sub_of_le _ _ hborrow, hdiff]
        simp only [UInt64.reduceToNat]
        omega

theorem sub?_eq_none_iff : w.sub? v = none ↔ w.span < v.span := by
  have hw := w.subsecond_lt
  have hv := v.subsecond_lt
  constructor
  · intro h
    show w.seconds.toNat * 1000000000 + w.subsecond.toNat <
      v.seconds.toNat * 1000000000 + v.subsecond.toNat
    rw [sub?] at h
    split at h
    case isFalse hseconds =>
      have := (not_congr UInt64.le_iff_toNat_le).1 hseconds
      omega
    case isTrue hseconds =>
      have hle := UInt64.le_iff_toNat_le.1 hseconds
      split at h
      case isTrue => exact nomatch h
      case isFalse hrest =>
        split at h
        case isTrue => exact nomatch h
        case isFalse hborrow =>
          have hone := (not_congr UInt64.le_iff_toNat_le).1 hborrow
          have := (not_congr UInt32.le_iff_toNat_le).1 hrest
          rw [UInt64.toNat_sub_of_le _ _ hseconds] at hone
          simp only [UInt64.reduceToNat] at hone
          omega
  · intro h
    cases hsub : w.sub? v with
    | none => rfl
    | some x =>
        have hexact := congrArg Duration.nanos (span_of_sub? hsub)
        rw [Duration.nanos_add] at hexact
        rw [Duration.lt_def] at h
        omega

theorem span_eq_zero_iff : w.span.nanos = 0 ↔ w.seconds = 0 ∧ w.subsecond = 0 := by
  rw [span, ← UInt64.toNat_inj, ← UInt32.toNat_inj]
  show w.seconds.toNat * 1000000000 + w.subsecond.toNat = 0 ↔
    w.seconds.toNat = 0 ∧ w.subsecond.toNat = 0
  omega

/-- On words the delay of a lease is the same. -/
theorem span_renewalDelay (lease : WordSpan) :
    lease.renewalDelay.span = CloudReconciler.renewalDelay lease.span := by
  have hle : lease.fifth.le (ofSeconds 10) = true ↔ ⟨lease.span.nanos / 5⟩ ≤ leastMargin := by
    rw [le_iff, span_fifth]
    rfl
  have hmargin : (if lease.fifth.le (ofSeconds 10) then ofSeconds 10 else lease.fifth).span =
      max ⟨lease.span.nanos / 5⟩ leastMargin := by
    by_cases h : lease.fifth.le (ofSeconds 10)
    · rw [if_pos h]
      exact (if_pos (hle.1 h)).symm
    · rw [if_neg h]
      exact (span_fifth lease).trans (if_neg (mt hle.2 h)).symm
  rw [renewalDelay, CloudReconciler.renewalDelay, ← hmargin]
  generalize (if lease.fifth.le (ofSeconds 10) then ofSeconds 10 else lease.fifth) = margin
  cases hsub : lease.sub? margin with
  | none =>
      have hlt := sub?_eq_none_iff.1 hsub
      exact (if_neg (Nat.lt_asymm hlt)).symm
  | some wait =>
      have hexact := congrArg Duration.nanos (span_of_sub? hsub)
      rw [Duration.nanos_add] at hexact
      dsimp only
      split
      case isTrue hzero =>
        have hwait := span_eq_zero_iff.2 hzero
        exact (if_neg (by rw [Duration.lt_def]; omega)).symm
      case isFalse hzero =>
        have hwait := mt span_eq_zero_iff.1 hzero
        rw [if_pos (by rw [Duration.lt_def]; omega)]
        exact congrArg Duration.mk (Nat.eq_sub_of_add_eq hexact)

/-- What the words of a lease compute is what its span gives: no subtraction passes zero, and no
    division loses a nanosecond. -/
structure IsExact (lease : WordSpan) : Prop where
  delay : lease.renewalDelay.span = CloudReconciler.renewalDelay lease.span
  fifth : 5 * lease.fifth.span.nanos ≤ lease.span.nanos
  fifth_lt : lease.span.nanos < 5 * (lease.fifth.span.nanos + 1)
  difference : ∀ v x, lease.sub? v = some x → x.span + v.span = lease.span
  no_difference : ∀ v, lease.sub? v = none ↔ lease.span < v.span

theorem isExact (lease : WordSpan) : lease.IsExact where
  delay := span_renewalDelay lease
  fifth := by
    rw [span_fifth]
    exact Nat.mul_div_le ..
  fifth_lt := by
    rw [span_fifth]
    show _ < 5 * (lease.span.nanos / 5 + 1)
    omega
  difference _ _ := span_of_sub?
  no_difference _ := sub?_eq_none_iff

end WordSpan

/-! ## The schedule -/

/-- The delays of leases of whole seconds: no less than one second, growing with the lease, and
    shorter than the lease unless that is a single second. -/
structure WholeSecondDelays : Prop where
  least : ∀ n, .ofSeconds 1 ≤ renewalDelay (.ofSeconds n)
  mono : ∀ m n, m ≤ n → renewalDelay (.ofSeconds m) ≤ renewalDelay (.ofSeconds n)
  inside : ∀ n, 2 ≤ n → renewalDelay (.ofSeconds n) < .ofSeconds n

/-- A lease is renewed while it lasts.  The delay is never zero; of a lease of more than ten
    seconds it leaves the margin, and of any other it is a second.  The backend gives leases of
    whole seconds only, to a login and to a renewal alike, and there the delay is at least a second
    and grows with the lease.  On the words of a clock nothing of this changes. -/
theorem renewal_inside_lease :
    (∀ lease, .zero < renewalDelay lease ∧
      (.ofSeconds 10 < lease → LeavesMargin lease (renewalDelay lease)) ∧
      (lease ≤ .ofSeconds 10 → renewalDelay lease = .ofSeconds 1)) ∧
    WholeSecondDelays ∧
    (∀ {σ : Type} (e : Surroundings Http.WireCalls σ) (b : BackendAddress) (s t : σ)
        (τ : List (Answer Http.WireCalls σ)) (x : Session),
      ((∃ c, Trace e (b.login c) s τ (.ok x) t) ∨
        ∃ token lease, Trace e (b.renew token lease) s τ (.ok x) t) →
      ∃ n : UInt64, x.lease = .ofSeconds n.toNat) ∧
    (∀ lease : Duration, lease.Representable → ∃ w : WordSpan, w.span = lease) ∧
    ∀ w : WordSpan, w.IsExact := by
  refine ⟨fun lease => ⟨renewalDelay_pos lease, leavesMargin_renewalDelay lease,
      renewalDelay_of_le lease⟩,
    ⟨one_le_renewalDelay, fun _ _ => renewalDelay_mono, fun _ => renewalDelay_lt⟩, ?_,
    fun _ => WordSpan.exists_span_eq, WordSpan.isExact⟩
  rintro σ e b s t τ x (⟨c, h⟩ | ⟨token, lease, h⟩)
  · exact BackendAddress.lease_of_session h
  · exact BackendAddress.lease_of_session h

end CloudReconciler
