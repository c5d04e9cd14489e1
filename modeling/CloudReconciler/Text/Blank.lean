/-! # Blanks — the characters with the Unicode property White_Space

    `isBlank` lists the property; `trim`, `trimStart` and `isBlankText` use
    it on both ends, at the start, and throughout a text. -/

namespace CloudReconciler.Text

/-- The character has the property White_Space. -/
def isBlank (c : Char) : Bool :=
  let n := c.toNat
  (0x09 ≤ n && n ≤ 0x0D) || n == 0x20 || n == 0x85 || n == 0xA0 || n == 0x1680 ||
    (0x2000 ≤ n && n ≤ 0x200A) || n == 0x2028 || n == 0x2029 || n == 0x202F ||
    n == 0x205F || n == 0x3000

/-- Characters without those at the end that satisfy `p`. -/
def dropEnd (p : Char → Bool) (cs : List Char) : List Char :=
  (cs.reverse.dropWhile p).reverse

/-- A text without blanks at the start. -/
def trimStart (s : String) : String := String.ofList (s.toList.dropWhile isBlank)

/-- A text without blanks at either end. -/
def trim (s : String) : String :=
  String.ofList (dropEnd isBlank (s.toList.dropWhile isBlank))

/-- A text without the given character at the end. -/
def trimEndOf (c : Char) (s : String) : String := String.ofList (dropEnd (· == c) s.toList)

/-- A text without the given character at either end. -/
def trimOf (c : Char) (s : String) : String :=
  String.ofList (dropEnd (· == c) (s.toList.dropWhile (· == c)))

/-- The text holds nothing but blanks. -/
def isBlankText (s : String) : Bool := s.toList.all isBlank

/-- A byte that is an ASCII space, tab, line feed, form feed or carriage return. -/
def isBlankByte (b : UInt8) : Bool :=
  b == 0x20 || b == 0x09 || b == 0x0A || b == 0x0C || b == 0x0D

example : trim "\u3000 a b\t" = "a b" ∧ trimOf '/' "//a/b/" = "a/b" ∧ trimEndOf '/' "/a//" = "/a" ∧
    isBlankText "\u200B" = false := by decide +kernel

end CloudReconciler.Text
