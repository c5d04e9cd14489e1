import CloudReconciler.Time.Duration

/-! # Instants — points on the UTC time line

    An instant is a second counted from the start of 1970 and the
    nanoseconds since that second began.  Nanoseconds from `10 ^ 9` on lie
    inside a leap second, which follows its second without moving the
    count.  `Instant.since` measures forward and backward, `Instant.elapsed`
    forward only.  Arithmetic knows no bounds; `Instant.isHeld` says which
    instants a clock can show. -/

namespace CloudReconciler

/-- A point in time. -/
structure Instant where
  /-- Seconds since the start of 1970, leap seconds not counted. -/
  seconds : Int
  /-- Nanoseconds since that second began; from `10 ^ 9` on, inside a leap second. -/
  nanos : Nat
  deriving DecidableEq, Repr, Inhabited

namespace Instant

/-- The instant lies inside a leap second. -/
def inLeap (t : Instant) : Bool := Duration.nanosPerSecond ≤ t.nanos

instance : LT Instant :=
  ⟨fun a b => a.seconds < b.seconds ∨ (a.seconds = b.seconds ∧ a.nanos < b.nanos)⟩
instance : LE Instant :=
  ⟨fun a b => a.seconds < b.seconds ∨ (a.seconds = b.seconds ∧ a.nanos ≤ b.nanos)⟩
instance (a b : Instant) : Decidable (a < b) :=
  inferInstanceAs (Decidable (_ ∨ _))
instance (a b : Instant) : Decidable (a ≤ b) :=
  inferInstanceAs (Decidable (_ ∨ _))

/-- The second of the day. -/
def secondOfDay (t : Instant) : Int := t.seconds % 86400

/-- Seconds that a leap second adds between two times of day. -/
def leapBetween (later earlier : Instant) : Int :=
  if earlier.secondOfDay < later.secondOfDay then
    if earlier.inLeap then 1 else 0
  else if later.secondOfDay < earlier.secondOfDay then
    if later.inLeap then -1 else 0
  else 0

/-- Signed nanoseconds from `earlier` to `later`. -/
def since (later earlier : Instant) : Int :=
  (later.seconds - earlier.seconds + leapBetween later earlier) * Duration.nanosPerSecond +
    (later.nanos - earlier.nanos)

/-- The span from `start` to `now`, empty when `now` lies before `start`. -/
def elapsed (now start : Instant) : Duration := ⟨(now.since start).toNat⟩

/-- The instant a whole number of seconds later, or earlier for a negative number. -/
def addSeconds (t : Instant) (s : Int) : Instant :=
  if t.inLeap then
    if 0 < s then ⟨t.seconds + s, t.nanos - Duration.nanosPerSecond⟩
    else if s < 0 then ⟨t.seconds + 1 + s, t.nanos - Duration.nanosPerSecond⟩
    else t
  else ⟨t.seconds + s, t.nanos⟩

/-- A count of nanoseconds from the start of 1970 as an instant. -/
def ofNanos (total : Int) : Instant :=
  ⟨total / Duration.nanosPerSecond, (total % Duration.nanosPerSecond).toNat⟩

/-- The instant a signed number of nanoseconds later.  A leap second is a second of its own: it
    can be crossed inside, left forward for the second after it, or backward. -/
def addNanos (t : Instant) (n : Int) : Instant :=
  let total := t.seconds * Duration.nanosPerSecond + t.nanos + n
  if t.inLeap then
    if 2 * Duration.nanosPerSecond ≤ t.nanos + n then ofNanos (total - Duration.nanosPerSecond)
    else if -Duration.nanosPerSecond < n then ⟨t.seconds, (t.nanos + n).toNat⟩
    else ofNanos total
  else ofNanos total

/-- Outside of leap seconds, instants are apart by their difference in nanoseconds. -/
theorem since_of_not_inLeap {a b : Instant} (ha : a.inLeap = false) (hb : b.inLeap = false) :
    a.since b = (a.seconds - b.seconds) * Duration.nanosPerSecond + (a.nanos - b.nanos) := by
  simp [since, leapBetween, ha, hb]

@[simp] theorem elapsed_self (t : Instant) : t.elapsed t = Duration.zero := by
  simp [elapsed, since, leapBetween, Duration.zero]

end Instant

/-! ## The civil calendar

    Years begin in March, so that the leap day is the last of its year, and
    are grouped in eras of 400 years. -/

/-- A day of the proleptic Gregorian calendar. -/
structure CivilDate where
  year : Int
  month : Nat
  day : Nat
  deriving DecidableEq, Repr

namespace CivilDate

/-- The year has a 29th of February. -/
def isLeapYear (y : Int) : Bool := y % 4 = 0 && (y % 100 ≠ 0 || y % 400 = 0)

/-- The number of days of a month. -/
def daysInMonth (y : Int) (m : Nat) : Nat :=
  if m = 2 then if isLeapYear y then 29 else 28
  else if m = 4 ∨ m = 6 ∨ m = 9 ∨ m = 11 then 30 else 31

/-- The date exists, and its year is one that clocks can hold. -/
def isValid (d : CivilDate) : Bool :=
  -262143 ≤ d.year && d.year ≤ 262142 && 1 ≤ d.month && d.month ≤ 12 &&
    1 ≤ d.day && d.day ≤ daysInMonth d.year d.month

/-- Days from the start of 1970. -/
def toDays (d : CivilDate) : Int :=
  let y := if d.month ≤ 2 then d.year - 1 else d.year
  let era := y / 400
  let yearOfEra := y % 400
  let monthFromMarch : Int := (d.month + 9) % 12
  let dayOfYear := (153 * monthFromMarch + 2) / 5 + d.day - 1
  let dayOfEra := yearOfEra * 365 + yearOfEra / 4 - yearOfEra / 100 + dayOfYear
  era * 146097 + dayOfEra - 719468

/-- The date a number of days from the start of 1970. -/
def ofDays (days : Int) : CivilDate :=
  let z := days + 719468
  let era := z / 146097
  let dayOfEra := z % 146097
  let yearOfEra := (dayOfEra - dayOfEra / 1460 + dayOfEra / 36524 - dayOfEra / 146096) / 365
  let dayOfYear := dayOfEra - (365 * yearOfEra + yearOfEra / 4 - yearOfEra / 100)
  let monthFromMarch := (5 * dayOfYear + 2) / 153
  let day := dayOfYear - (153 * monthFromMarch + 2) / 5 + 1
  let month := if monthFromMarch < 10 then monthFromMarch + 3 else monthFromMarch - 9
  ⟨yearOfEra + era * 400 + (if month ≤ 2 then 1 else 0), month.toNat, day.toNat⟩

example : toDays ⟨1970, 1, 1⟩ = 0 ∧ ofDays 19844 = ⟨2024, 5, 1⟩ ∧ toDays ⟨2024, 2, 29⟩ = 19782 ∧
    ofDays (-1) = ⟨1969, 12, 31⟩ ∧ ofDays (toDays ⟨0, 2, 29⟩) = ⟨0, 2, 29⟩ := by decide +kernel

end CivilDate

/-- Clocks hold the instant: its date in UTC is one that they can hold. -/
def Instant.isHeld (t : Instant) : Bool :=
  CivilDate.toDays ⟨-262143, 1, 1⟩ * 86400 ≤ t.seconds &&
    t.seconds < CivilDate.toDays ⟨262143, 1, 1⟩ * 86400

end CloudReconciler
