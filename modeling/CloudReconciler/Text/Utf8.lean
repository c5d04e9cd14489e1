/-! # UTF-8 — characters as bytes and back

    `Utf8.encode` writes characters as bytes.  Reading runs a machine that
    takes one byte at a time and knows how many bytes the current character
    still owes.  `Utf8.pieces` gives the characters read, with a gap for
    every ill-formed piece; a strict reader refuses gaps, a lenient one
    shows each as the replacement character. -/

namespace CloudReconciler.Utf8

/-- The bytes of one character. -/
def encodeChar (c : Char) : List UInt8 :=
  let n := c.toNat
  let tail (shift : Nat) : UInt8 := UInt8.ofNat (0x80 + n / Nat.pow 2 shift % 0x40)
  if n < 0x80 then [UInt8.ofNat n]
  else if n < 0x800 then [UInt8.ofNat (0xC0 + n / 0x40), tail 0]
  else if n < 0x10000 then [UInt8.ofNat (0xE0 + n / 0x1000), tail 6, tail 0]
  else [UInt8.ofNat (0xF0 + n / 0x40000), tail 12, tail 6, tail 0]

/-- The bytes of a text. -/
def encode (s : String) : List UInt8 := s.toList.flatMap encodeChar

/-- A character begun: the bits so far, the bytes still owed, and the range of the next one. -/
structure Partial where
  value : Nat
  owed : Nat
  least : Nat
  greatest : Nat
  deriving DecidableEq, Repr

/-- Characters read so far, latest first, and the character begun, if any. -/
structure Reading where
  read : List (Option Char)
  begun : Option Partial
  deriving DecidableEq, Repr

/-- The first byte of a character: a whole character, a character begun, or a gap. -/
def Reading.first (read : List (Option Char)) (b : Nat) : Reading :=
  if b < 0x80 then ⟨some (Char.ofNat b) :: read, none⟩
  else if b < 0xC2 then ⟨none :: read, none⟩
  else if b < 0xE0 then ⟨read, some ⟨b - 0xC0, 1, 0x80, 0xBF⟩⟩
  else if b = 0xE0 then ⟨read, some ⟨0, 2, 0xA0, 0xBF⟩⟩
  else if b = 0xED then ⟨read, some ⟨0xD, 2, 0x80, 0x9F⟩⟩
  else if b < 0xF0 then ⟨read, some ⟨b - 0xE0, 2, 0x80, 0xBF⟩⟩
  else if b = 0xF0 then ⟨read, some ⟨0, 3, 0x90, 0xBF⟩⟩
  else if b < 0xF4 then ⟨read, some ⟨b - 0xF0, 3, 0x80, 0xBF⟩⟩
  else if b = 0xF4 then ⟨read, some ⟨4, 3, 0x80, 0x8F⟩⟩
  else ⟨none :: read, none⟩

/-- One byte: it continues the character begun, or leaves a gap there and starts the next one. -/
def Reading.step (r : Reading) (byte : UInt8) : Reading :=
  let b := byte.toNat
  match r.begun with
  | none => .first r.read b
  | some p =>
      if p.least ≤ b ∧ b ≤ p.greatest then
        let value := p.value * 0x40 + b % 0x40
        match p.owed with
        | 0 | 1 => ⟨some (Char.ofNat value) :: r.read, none⟩
        | owed + 1 => ⟨r.read, some ⟨value, owed, 0x80, 0xBF⟩⟩
      else .first (none :: r.read) b

/-- The characters of a byte sequence, with a gap for every ill-formed piece. -/
def pieces (bytes : List UInt8) : List (Option Char) :=
  let r := bytes.foldl Reading.step ⟨[], none⟩
  (match r.begun with
    | none => r.read
    | some _ => none :: r.read).reverse

/-- The characters of a list without gaps. -/
def solid : List (Option Char) → Option (List Char)
  | [] => some []
  | none :: _ => none
  | some c :: rest => (solid rest).map (c :: ·)

/-- The text of a well-formed byte sequence. -/
def decode? (bytes : List UInt8) : Option String := (solid (pieces bytes)).map String.ofList

/-- The text of any byte sequence, with the replacement character for every ill-formed piece. -/
def decodeLossy (bytes : List UInt8) : String :=
  String.ofList ((pieces bytes).map (·.getD '\uFFFD'))

example : decode? (encode "aé€😀") = some "aé€😀" ∧ decode? [0xC3] = none ∧
    decodeLossy [0x61, 0xE2, 0x82, 0x62, 0xC0] = "a\uFFFDb\uFFFD" := by decide +kernel

end CloudReconciler.Utf8
