import CloudReconciler.Text.Utf8

/-! # Encodings — octets as plain characters

    Percent-encoding writes every octet that may not stand for itself as
    `%` and two digits.  Each part of an address has its own set of
    characters that may stand; forms keep few and write a blank as `+`. -/

namespace CloudReconciler.Http

/-- A digit to base sixteen, in capitals. -/
def upperHexDigit (n : Nat) : Char := (Nat.digitChar n).toUpper

/-- An octet as a percent sign and two digits. -/
def percentByte (b : UInt8) : List Char :=
  ['%', upperHexDigit (b.toNat / 16), upperHexDigit (b.toNat % 16)]

/-- A character that stands for itself, or its octets. -/
def percentChar (stands : Char → Bool) (c : Char) : List Char :=
  if stands c then [c] else (Utf8.encodeChar c).flatMap percentByte

/-- A text with every character encoded that may not stand. -/
def percentEncode (stands : Char → Bool) (cs : List Char) : List Char :=
  cs.flatMap (percentChar stands)

/-- The value of a digit to base sixteen. -/
def hexDigit? (c : Char) : Option Nat :=
  if '0' ≤ c ∧ c ≤ '9' then some (c.toNat - '0'.toNat)
  else if 'a' ≤ c ∧ c ≤ 'f' then some (c.toNat - 'a'.toNat + 10)
  else if 'A' ≤ c ∧ c ≤ 'F' then some (c.toNat - 'A'.toNat + 10)
  else none

/-- The octets of a text in which `%` and two digits stand for an octet. -/
def percentDecode : List Char → List UInt8
  | [] => []
  | '%' :: a :: b :: rest =>
      match hexDigit? a, hexDigit? b with
      | some x, some y => UInt8.ofNat (x * 16 + y) :: percentDecode rest
      | _, _ => 37 :: percentDecode (a :: b :: rest)
  | c :: rest => Utf8.encodeChar c ++ percentDecode rest

/-! ## Sets of characters that stand for themselves -/

/-- Printable characters of ASCII. -/
def isPlain (c : Char) : Bool := ' ' ≤ c && c ≤ '~'

/-- Characters that stand in a fragment. -/
def standsInFragment (c : Char) : Bool := isPlain c && !(c ∈ [' ', '"', '<', '>', '\x60'])

/-- Characters that stand in a path. -/
def standsInPath (c : Char) : Bool := standsInFragment c && !(c ∈ ['#', '?', '\x7b', '\x7d'])

/-- Characters that stand in the query of an address of a known scheme. -/
def standsInQuery (c : Char) : Bool := isPlain c && !(c ∈ [' ', '"', '#', '<', '>', '\''])

/-- Characters that stand in the name and password of a user. -/
def standsInUser (c : Char) : Bool :=
  standsInPath c && !(c ∈ ['/', ':', ';', '=', '@', '[', '\\', ']', '^', '|'])

/-- Characters that stand in a form. -/
def standsInForm (c : Char) : Bool := c.isAlphanum || c ∈ ['-', '.', '_', '*']

/-- A text as the name or value of a form field. -/
def formText (s : String) : String :=
  String.ofList (s.toList.flatMap fun c => if c = ' ' then ['+'] else percentChar standsInForm c)

/-- The body of a form. -/
def formBody (fields : List (String × String)) : String :=
  "&".intercalate (fields.map fun (name, value) => formText name ++ "=" ++ formText value)

/-! ## Base 64 -/

/-- A digit to base sixty-four. -/
def base64Digit (n : Nat) : Char :=
  if n < 26 then Char.ofNat ('A'.toNat + n)
  else if n < 52 then Char.ofNat ('a'.toNat + (n - 26))
  else if n < 62 then Char.ofNat ('0'.toNat + (n - 52))
  else if n = 62 then '+' else '/'

/-- Octets to base sixty-four, padded to groups of four. -/
def base64 : List UInt8 → List Char
  | [] => []
  | [a] =>
      let n := a.toNat * 16
      [base64Digit (n / 64), base64Digit (n % 64), '=', '=']
  | [a, b] =>
      let n := (a.toNat * 256 + b.toNat) * 4
      [base64Digit (n / 4096), base64Digit (n / 64 % 64), base64Digit (n % 64), '=']
  | a :: b :: c :: rest =>
      let n := (a.toNat * 256 + b.toNat) * 256 + c.toNat
      base64Digit (n / 262144) :: base64Digit (n / 4096 % 64) :: base64Digit (n / 64 % 64) ::
        base64Digit (n % 64) :: base64 rest

example : formText "a b/é" = "a+b%2F%C3%A9" ∧ String.ofList (base64 [77, 97]) = "TWE=" := by
  decide +kernel

end CloudReconciler.Http
