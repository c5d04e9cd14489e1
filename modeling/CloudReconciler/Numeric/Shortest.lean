import CloudReconciler.Numeric.Binary64

/-! # Shortest decimals — the fewest digits that read back

    A double stands for the interval of reals that round to it.  For one,
    two, … seventeen digits, the two neighbours of the value on that decimal
    grid are tried; the first grid with a neighbour inside the interval
    wins, and of two neighbours the nearer one. -/

namespace CloudReconciler

/-- A positive decimal, `digits * 10 ^ exponent`. -/
structure Decimal where
  digits : Nat
  exponent : Int
  deriving DecidableEq, Repr

namespace Decimal

/-- The same decimal without zeros at the end of its digits. -/
def strip : Nat → Decimal → Decimal
  | 0, d => d
  | fuel + 1, d =>
      if d.digits % 10 = 0 ∧ d.digits ≠ 0 then strip fuel ⟨d.digits / 10, d.exponent + 1⟩ else d

/-- Numerator and denominator of `num / den` divided by `10 ^ k`. -/
def overPower (num den : Nat) (k : Int) : Nat × Nat :=
  if 0 ≤ k then (num, den * Nat.pow 10 k.toNat) else (num * Nat.pow 10 (-k).toNat, den)

/-- The greatest `k` with `10 ^ k ≤ num / den`, for positive arguments. -/
def floorLog10 (num den : Nat) : Int :=
  let k := (Binary64.floorLog2 num den * 30103) / 100000
  let (n, d) := overPower num den (k + 1)
  if d ≤ n then k + 1 else
    let (n, d) := overPower num den k
    if d ≤ n then k else k - 1

/-- The reals that round to a double, in quarters of its last place. -/
structure Interval where
  least : Nat
  middle : Nat
  greatest : Nat
  closed : Bool
  scale : Int

/-- The interval of a positive finite double. -/
def interval (mantissa : Nat) (exponent : Int) : Interval :=
  let narrow := mantissa == Nat.pow 2 52 && exponent != Binary64.leastExponent
  { least := 4 * mantissa - (if narrow then 1 else 2)
    middle := 4 * mantissa
    greatest := 4 * mantissa + 2
    closed := mantissa % 2 == 0
    scale := exponent - 2 }

/-- The decimal `c * 10 ^ k` rounds to the double of the interval. -/
def Interval.holds (i : Interval) (c : Nat) (k : Int) : Bool :=
  let (c, den) := overPower c 1 (-k)
  let (num, unit) := Binary64.scaled 1 1 i.scale
  let x := c * unit
  let least := i.least * num * den
  let greatest := i.greatest * num * den
  if i.closed then least ≤ x && x ≤ greatest else least < x && x < greatest

/-- The neighbour of `num / den` on the grid `10 ^ k` that lies in the interval and is nearer; of
    two that are equally near, the even one. -/
def onGrid (i : Interval) (num den : Nat) (k : Int) : Option Decimal :=
  let (n, d) := overPower num den k
  let low := n / d
  let below := low != 0 && i.holds low k
  let above := i.holds (low + 1) k
  if below && above then
    let isLow := 2 * (n % d) < d || (2 * (n % d) == d && low % 2 == 0)
    some ⟨if isLow then low else low + 1, k⟩
  else if below then some ⟨low, k⟩
  else if above then some ⟨low + 1, k⟩
  else none

/-- Tries the grids of `count`, `count + 1`, … digits. -/
def search (i : Interval) (num den : Nat) (log10 : Int) : Nat → Nat → Decimal
  | 0, count => ⟨num / den, count⟩
  | fuel + 1, count =>
      (onGrid i num den (log10 + 1 - count)).getD (search i num den log10 fuel (count + 1))

/-- The shortest decimal that reads back as the given positive double. -/
def ofDouble (mantissa : Nat) (exponent : Int) : Decimal :=
  let (num, den) := Binary64.scaled mantissa 1 exponent
  strip 20 (search (interval mantissa exponent) num den (floorLog10 num den) 17 1)

/-- Digits with a point after the first `place` of them, which may lie outside of them. -/
def positional (digits : List Char) (place : Int) : List Char :=
  if place ≤ 0 then '0' :: '.' :: (List.replicate (-place).toNat '0' ++ digits)
  else
    let whole := digits.take place.toNat
    let whole := whole ++ List.replicate (place.toNat - whole.length) '0'
    let rest := digits.drop place.toNat
    whole ++ '.' :: (if rest.isEmpty then ['0'] else rest)

/-- Scientific form: one digit, the others after a point, and a signed exponent. -/
def scientific (digits : List Char) (exponent : Int) : List Char :=
  let lead := match digits with
    | d :: e :: rest => d :: '.' :: e :: rest
    | short => short
  lead ++ 'e' :: (if exponent < 0 then '-' else '+') :: (toString exponent.natAbs).toList

/-- Decimals from `10 ^ (-5)` to below `10 ^ 16` are written with a point, all others with an exponent. -/
def text (d : Decimal) : String :=
  let digits := (toString d.digits).toList
  let place : Int := digits.length + d.exponent
  String.ofList
    (if -5 < place ∧ place ≤ 16 then positional digits place else scientific digits (place - 1))

end Decimal

/-- A finite double as the shortest decimal that reads back; others have no text. -/
def Binary64.text : Binary64 → String
  | .finite negative mantissa exponent =>
      (if negative then "-" else "") ++
        (if mantissa = 0 then "0.0" else (Decimal.ofDouble mantissa exponent).text)
  | _ => "null"

example : (Binary64.ofNat 1).text = "1.0" ∧ (Binary64.round false 5 2).text = "2.5" ∧
    (Binary64.round false 1 (10 ^ 7)).text = "1e-7" ∧ (Binary64.ofNat (10 ^ 20)).text = "1e+20" ∧
    (Binary64.round false 12345678901234568 1 |>.mul (.ofNat 10000)).text = "1.2345678901234568e+20" ∧
    (Binary64.zero true).text = "-0.0" ∧ (Binary64.ofNat (10 ^ 15)).text = "1000000000000000.0" ∧
    (Binary64.round false 1 (10 ^ 5)).text = "0.00001" := by decide +kernel

end CloudReconciler
