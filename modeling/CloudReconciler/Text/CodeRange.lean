/-! # Code ranges — sets of characters as stretches of code points

    A set with a Unicode property is listed by the stretches of code points
    it fills. -/

namespace CloudReconciler.Text

/-- A stretch of code points, by its first and its last one. -/
abbrev CodeRange := Nat × Nat

/-- The code point of the character lies in one of the stretches. -/
def isWithin (ranges : List CodeRange) (c : Char) : Bool :=
  ranges.any fun (first, last) => first ≤ c.toNat && c.toNat ≤ last

end CloudReconciler.Text
