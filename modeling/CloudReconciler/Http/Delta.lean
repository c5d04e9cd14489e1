/-! # Delta code — labels in the letters and digits of ASCII

    The characters of ASCII in a label are written as they are.  The others
    follow in the order of their code points, each as the number of steps
    from the one before, where a step moves through the places of the label
    and then to the next code point.  A number has its lowest digit first;
    how high a digit ends it depends on a bias that adapts to the numbers
    written so far. -/

namespace CloudReconciler.Http.Delta

/-- The number of digits. -/
def base : Nat := 36

/-- A digit. -/
def digit (n : Nat) : Char :=
  if n < 26 then Char.ofNat ('a'.toNat + n) else Char.ofNat ('0'.toNat + (n - 26))

/-- The value of a digit. -/
def digit? (c : Char) : Option Nat :=
  if 'a' ≤ c ∧ c ≤ 'z' then some (c.toNat - 'a'.toNat)
  else if '0' ≤ c ∧ c ≤ '9' then some (c.toNat - '0'.toNat + 26)
  else none

/-- A digit below the threshold ends its number; places count in steps of the base. -/
def threshold (bias place : Nat) : Nat :=
  if place ≤ bias then 1 else if bias + 26 ≤ place then 26 else place - bias

/-- The bias at the start. -/
def firstBias : Nat := 72

/-- The next bias after a number. -/
def adapt (delta count : Nat) (isFirst : Bool) : Nat :=
  let delta := if isFirst then delta / 700 else delta / 2
  shrink 64 (delta + delta / count) 0
where
  shrink : Nat → Nat → Nat → Nat
    | 0, d, k => k + base * d / (d + 38)
    | fuel + 1, d, k => if 455 < d then shrink fuel (d / 35) (k + base) else k + base * d / (d + 38)

/-! ## Writing -/

/-- A number of steps. -/
def number (bias : Nat) : (fuel q place : Nat) → List Char
  | 0, _, _ => []
  | fuel + 1, q, place =>
      let t := threshold bias place
      if q < t then [digit q]
      else digit (t + (q - t) % (base - t)) :: number bias fuel ((q - t) / (base - t)) (place + base)

/-- The state while a label is written. -/
structure Writing where
  delta : Nat
  bias : Nat
  handled : Nat
  isFirst : Bool
  written : List Char

/-- Writes the steps to one place of the code point `n`. -/
def Writing.visit (n : Nat) (s : Writing) (c : Char) : Writing :=
  if c.toNat < n then { s with delta := s.delta + 1 }
  else if c.toNat = n then
    { delta := 0
      bias := adapt s.delta (s.handled + 1) s.isFirst
      handled := s.handled + 1
      isFirst := false
      written := s.written ++ number s.bias 64 s.delta base }
  else s

/-- Writes the steps to all places of code points from `n` on, in order. -/
def Writing.advance (label : List Char) : List Nat → Nat → Writing → Writing
  | [], _, s => s
  | m :: rest, n, s =>
      let s := { s with delta := s.delta + (m - n) * (s.handled + 1) }
      let s := label.foldl (Writing.visit m) s
      Writing.advance label rest (m + 1) { s with delta := s.delta + 1 }

/-- The code of a label. -/
def encode (label : List Char) : List Char :=
  let basic := label.filter fun c => c.toNat < 128
  let beyond := ((label.filter fun c => 128 ≤ c.toNat).map Char.toNat).eraseDups.mergeSort
  let start : Writing :=
    { delta := 0
      bias := firstBias
      handled := basic.length
      isFirst := true
      written := if basic.isEmpty then [] else basic ++ ['-'] }
  (start.advance label beyond 128).written

/-! ## Reading -/

/-- The state while a code is read. -/
structure Reading where
  /-- The label so far. -/
  label : List Char
  point : Nat := 128
  bias : Nat := firstBias
  /-- The steps to the place behind the latest character. -/
  start : Nat := 0
  /-- The steps with those of the number that was begun. -/
  steps : Nat := 0
  /-- The weight of the next digit. -/
  weight : Nat := 1
  /-- The place of the next digit in its number. -/
  place : Nat := base

/-- Puts the character in that the steps lead to. -/
def Reading.insert? (r : Reading) : Option Reading :=
  let count := r.label.length + 1
  let point := r.point + r.steps / count
  let i := r.steps % count
  if point < 0xD800 ∨ (0xDFFF < point ∧ point < 0x110000) then
    some
      { label := r.label.insertIdx i (Char.ofNat point)
        point
        bias := adapt (r.steps - r.start) count (r.start == 0)
        start := i + 1
        steps := i + 1 }
  else none

/-- Reads a digit; numbers stay below `2 ^ 32`. -/
def Reading.step (r : Reading) (c : Char) : Option Reading := do
  let d ← digit? c
  let t := threshold r.bias r.place
  let steps := r.steps + d * r.weight
  let weight := r.weight * (base - t)
  if UInt32.size ≤ steps then none
  else if d < t then Reading.insert? { r with steps }
  else if UInt32.size ≤ weight then none
  else some { r with steps, weight, place := r.place + base }

/-- The label of a code; a hyphen parts the characters of ASCII from the numbers. -/
def decode? (code : List Char) : Option (List Char) := do
  let numbers := (code.reverse.takeWhile (· ≠ '-')).reverse
  let basic := (code.take (code.length - numbers.length)).dropLast
  if code.head? = some '-' ∧ basic.isEmpty ∨ basic.any (fun c => 128 ≤ c.toNat) then none
  else
    let r ← numbers.foldlM Reading.step { label := basic }
    if r.place = base then some r.label else none

example : encode "bücher".toList = "bcher-kva".toList ∧ decode? "bcher-kva".toList = some "bücher".toList ∧
    decode? "bcher-kv".toList = none ∧ decode? "-kva".toList = none := by decide +kernel

end CloudReconciler.Http.Delta
