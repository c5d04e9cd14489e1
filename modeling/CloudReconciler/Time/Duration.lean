/-! # Durations — spans of time in whole nanoseconds

    A span is a count of nanoseconds, so sums, remainders and comparisons
    are exact.  Clocks and timers hold fewer than `2 ^ 64` seconds; a span
    below that bound is *representable*.  `Duration.text` spells a span in
    the largest unit that gives it a whole part, with the fewest decimals
    that are exact. -/

namespace CloudReconciler

/-- A span of time, as a count of nanoseconds. -/
structure Duration where
  /-- The whole span in nanoseconds. -/
  nanos : Nat
  deriving DecidableEq, Repr, Inhabited

namespace Duration

/-- Nanoseconds in one second. -/
def nanosPerSecond : Nat := 1000000000

/-- The empty span. -/
def zero : Duration := ⟨0⟩

/-- A whole number of seconds. -/
def ofSeconds (seconds : Nat) : Duration := ⟨seconds * nanosPerSecond⟩

/-- A whole number of milliseconds. -/
def ofMillis (millis : Nat) : Duration := ⟨millis * 1000000⟩

/-- Whole seconds of a span, rounded down. -/
def seconds (d : Duration) : Nat := d.nanos / nanosPerSecond

/-- Nanoseconds beyond the last whole second. -/
def subsecond (d : Duration) : Nat := d.nanos % nanosPerSecond

/-- Timers and clocks hold spans of fewer than `2 ^ 64` seconds. -/
def Representable (d : Duration) : Prop := d.nanos < UInt64.size * nanosPerSecond

instance (d : Duration) : Decidable d.Representable :=
  inferInstanceAs (Decidable (_ < _))

instance : LE Duration := ⟨fun a b => a.nanos ≤ b.nanos⟩
instance : LT Duration := ⟨fun a b => a.nanos < b.nanos⟩
instance (a b : Duration) : Decidable (a ≤ b) :=
  inferInstanceAs (Decidable (a.nanos ≤ b.nanos))
instance (a b : Duration) : Decidable (a < b) :=
  inferInstanceAs (Decidable (a.nanos < b.nanos))
instance : Add Duration := ⟨fun a b => ⟨a.nanos + b.nanos⟩⟩
instance : Min Duration := ⟨fun a b => if a ≤ b then a else b⟩
instance : Max Duration := ⟨fun a b => if a ≤ b then b else a⟩

theorem le_def (a b : Duration) : a ≤ b ↔ a.nanos ≤ b.nanos := Iff.rfl

theorem lt_def (a b : Duration) : a < b ↔ a.nanos < b.nanos := Iff.rfl

@[simp] theorem nanos_add (a b : Duration) :
    (a + b).nanos = a.nanos + b.nanos := rfl

/-! ## Text

    The unit is the largest one the span fills at least once, and trailing
    zeros of the fraction are dropped. -/

/-- The decimals of `value` as a fraction of `10 ^ places`, without trailing zeros. -/
def decimals : Nat → Nat → List Char
  | 0, _ => []
  | places + 1, value =>
      if value = 0 then []
      else Nat.digitChar (value / Nat.pow 10 places) :: decimals places (value % Nat.pow 10 places)

/-- A count of units with a fraction of `10 ^ places` parts. -/
def inUnit (whole fraction places : Nat) (unit : String) : String :=
  let digits := decimals places fraction
  toString whole ++ (if digits.isEmpty then "" else "." ++ String.ofList digits) ++ unit

/-- The span in seconds, milliseconds, microseconds or nanoseconds. -/
def text (d : Duration) : String :=
  if nanosPerSecond ≤ d.nanos then inUnit d.seconds d.subsecond 9 "s"
  else if 1000000 ≤ d.nanos then inUnit (d.nanos / 1000000) (d.nanos % 1000000) 6 "ms"
  else if 1000 ≤ d.nanos then inUnit (d.nanos / 1000) (d.nanos % 1000) 3 "µs"
  else inUnit d.nanos 0 0 "ns"

example : (ofMillis 1500).text = "1.5s" ∧ (⟨1500⟩ : Duration).text = "1.5µs" ∧
    zero.text = "0ns" ∧ (ofMillis 20).text = "20ms" := by decide +kernel

end Duration

end CloudReconciler
