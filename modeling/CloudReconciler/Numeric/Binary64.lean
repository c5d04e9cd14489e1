/-! # Doubles — binary floating point with exact rules

    A finite double is `(-1)^negative * mantissa * 2^exponent`.  Every
    operation computes its exact result as a quotient of naturals and
    rounds it once, to the nearest double and at a tie to the even
    mantissa, so each law about an operation is a law about
    `Binary64.round`. -/

namespace CloudReconciler

/-- The quotient of two naturals rounded to nearest, a half to the even neighbour. -/
def roundDiv (num den : Nat) : Nat :=
  let q := num / den
  let r := num % den
  if 2 * r < den then q else if den < 2 * r then q + 1 else q + q % 2

/-- A double: finite, infinite, or undefined. -/
inductive Binary64 where
  | finite (negative : Bool) (mantissa : Nat) (exponent : Int)
  | infinite (negative : Bool)
  | undefined
  deriving DecidableEq, Repr, Inhabited

namespace Binary64

/-- The least exponent: subnormal doubles are multiples of `2 ^ (-1074)`. -/
def leastExponent : Int := -1074

/-- The greatest exponent of a mantissa with 53 bits. -/
def greatestExponent : Int := 971

/-- Zero of either sign. -/
def zero (negative : Bool) : Binary64 := .finite negative 0 leastExponent

/-- `num * 2 ^ e` over `den` as a quotient of naturals. -/
def scaled (num den : Nat) (e : Int) : Nat × Nat :=
  if 0 ≤ e then (num * Nat.pow 2 e.toNat, den) else (num, den * Nat.pow 2 (-e).toNat)

/-- The greatest `k` with `2 ^ k ≤ num / den`, for positive arguments. -/
def floorLog2 (num den : Nat) : Int :=
  let k : Int := (num.log2 : Int) - den.log2
  let (n, d) := scaled num den (-k)
  if d ≤ n then k else k - 1

/-- The double nearest to `num / den`, at a tie the one with the even mantissa. -/
def round (negative : Bool) (num den : Nat) : Binary64 :=
  if num = 0 then zero negative
  else
    let e := max leastExponent (floorLog2 num den - 52)
    let (n, d) := scaled num den (-e)
    let m := roundDiv n d
    let (m, e) := if m = Nat.pow 2 53 then (Nat.pow 2 52, e + 1) else (m, e)
    if greatestExponent < e then .infinite negative else .finite negative m e

/-- The double nearest to a natural. -/
def ofNat (n : Nat) : Binary64 := round false n 1

/-- The double nearest to `(-1)^negative * m * 2^e / den`. -/
def roundScaled (negative : Bool) (m den : Nat) (e : Int) : Binary64 :=
  let (n, d) := scaled m den e
  round negative n d

def neg : Binary64 → Binary64
  | .finite s m e => .finite (!s) m e
  | .infinite s => .infinite (!s)
  | .undefined => .undefined

def mul : Binary64 → Binary64 → Binary64
  | .finite s m e, .finite t n f => roundScaled (s != t) (m * n) 1 (e + f)
  | .finite s m _, .infinite t => if m = 0 then .undefined else .infinite (s != t)
  | .infinite s, .finite t n _ => if n = 0 then .undefined else .infinite (s != t)
  | .infinite s, .infinite t => .infinite (s != t)
  | .undefined, _ => .undefined
  | _, .undefined => .undefined

def div : Binary64 → Binary64 → Binary64
  | .finite s m e, .finite t n f =>
      if n = 0 then if m = 0 then .undefined else .infinite (s != t)
      else roundScaled (s != t) m n (e - f)
  | .finite s _ _, .infinite t => zero (s != t)
  | .infinite s, .finite t _ _ => .infinite (s != t)
  | .infinite _, .infinite _ => .undefined
  | .undefined, _ => .undefined
  | _, .undefined => .undefined

/-- The integer `(-1)^s * m * 2^(e - low)`, for `low ≤ e`. -/
def aligned (s : Bool) (m : Nat) (e low : Int) : Int :=
  let v : Int := (m * Nat.pow 2 (e - low).toNat : Nat)
  if s then -v else v

def add : Binary64 → Binary64 → Binary64
  | .finite s m e, .finite t n f =>
      let low := min e f
      let sum := aligned s m e low + aligned t n f low
      if sum = 0 then zero (s && t) else roundScaled (sum < 0) sum.natAbs 1 low
  | .finite _ _ _, .infinite t => .infinite t
  | .infinite s, .finite _ _ _ => .infinite s
  | .infinite s, .infinite t => if s = t then .infinite s else .undefined
  | .undefined, _ => .undefined
  | _, .undefined => .undefined

/-- The order of values; zeros are equal and an undefined result is below nothing. -/
def lt : Binary64 → Binary64 → Bool
  | .finite s m e, .finite t n f =>
      let low := min e f
      aligned s m e low < aligned t n f low
  | .finite _ _ _, .infinite t => !t
  | .infinite s, .finite _ _ _ => s
  | .infinite s, .infinite t => s && !t
  | .undefined, _ => false
  | _, .undefined => false

/-- The smaller of two values; an undefined one gives way to the other. -/
def least : Binary64 → Binary64 → Binary64
  | .undefined, y => y
  | x, .undefined => x
  | x, y => if lt y x then y else x

/-- Repeated squaring over the bits of the exponent, rounding every product. -/
def powBits : Nat → Binary64 → Nat → Binary64 → Binary64
  | 0, _, _, r => r
  | bits + 1, x, n, r =>
      let r := if n % 2 = 1 then mul r x else r
      if n / 2 = 0 then r else powBits bits (mul x x) (n / 2) r

/-- A natural power by repeated squaring. -/
def pow (x : Binary64) (n : Nat) : Binary64 := powBits (n.log2 + 1) x n (ofNat 1)

example : mul (ofNat 3) (ofNat 5) = ofNat 15 ∧ pow (ofNat 2) 32 = ofNat (2 ^ 32) ∧
    ofNat (2 ^ 53 + 1) = ofNat (2 ^ 53) ∧ round false 1 (2 ^ 1075) = zero false ∧
    add (div (ofNat 1) (ofNat 10)) (div (ofNat 2) (ofNat 10)) ≠ div (ofNat 3) (ofNat 10) := by
  decide +kernel

end Binary64

end CloudReconciler
