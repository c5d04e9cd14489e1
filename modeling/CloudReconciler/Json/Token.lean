import CloudReconciler.Json.Basic
import CloudReconciler.Text.Utf8
import CloudReconciler.Time.Rfc3339

/-! # JSON tokens — the words of a document

    A document's bytes are taken one at a time by a machine that knows
    whether it stands between tokens or inside a string, a number or a
    word.  The machine decides the grammar of a token; whether a token
    denotes a value is part of the token: `text none` is a string that is
    not Unicode text, `number none` a number beyond the doubles. -/

namespace CloudReconciler.Json

/-- A token. -/
inductive Token where
  | openArray
  | closeArray
  | openObject
  | closeObject
  | colon
  | comma
  | null
  | bool (b : Bool)
  | number (n : Option Number)
  | text (s : Option String)
  deriving DecidableEq, Repr

namespace Token

/-! ## Numbers

    A number's significand keeps as many leading digits as fit in 64 bits;
    the digits dropped before the point raise the exponent.  The
    significand is rounded to a double and then multiplied or divided once
    by a power of ten, itself a double. -/

/-- The parts of a number as it is written. -/
structure Numeral where
  negative : Bool
  whole : List Char
  fraction : Option (List Char)
  exponent : Option (Bool × List Char)
  deriving DecidableEq, Repr

/-- Splits off the digits at the start. -/
def digits (s : List Char) : List Char × List Char := (s.takeWhile Char.isDigit, s.dropWhile Char.isDigit)

/-- The numeral that a text spells: no leading zero, and digits after a point and after an exponent mark. -/
def numeral? (s : List Char) : Option Numeral := do
  let (negative, s) := match s with
    | '-' :: rest => (true, rest)
    | s => (false, s)
  let (whole, s) := digits s
  if whole.isEmpty || (whole.head? == some '0' && whole.length ≠ 1) then none
  let (fraction, s) ← match s with
    | '.' :: rest =>
        let (fraction, s) := digits rest
        if fraction.isEmpty then none else some (some fraction, s)
    | s => some (none, s)
  let exponent ← match s with
    | [] => some none
    | mark :: rest =>
        if mark == 'e' || mark == 'E' then
          let (below, rest) := match rest with
            | '-' :: rest => (true, rest)
            | '+' :: rest => (false, rest)
            | rest => (false, rest)
          let (power, rest) := digits rest
          if power.isEmpty || !rest.isEmpty then none else some (some (below, power))
        else none
  return ⟨negative, whole, fraction, exponent⟩

/-- Largest natural of 64 bits. -/
def maxWord : Nat := UInt64.size - 1

/-- Takes digits into the significand while it fits in 64 bits: the significand and the digits left. -/
def significand : Nat → List Char → Nat × List Char
  | n, [] => (n, [])
  | n, d :: rest =>
      let next := n * 10 + (d.toNat - '0'.toNat)
      if next ≤ maxWord then significand next rest else (n, d :: rest)

/-- Divides by the power of ten, in steps of 308 while the power is beyond the doubles. -/
def divideByTens : Nat → Binary64 → Nat → Binary64
  | 0, x, _ => x
  | fuel + 1, x, power =>
      if power ≤ 308 then x.div (.ofNat (Nat.pow 10 power))
      else if x = .zero false then x
      else divideByTens fuel (x.div (.ofNat (Nat.pow 10 308))) (power - 308)

/-- `significand * 10 ^ exponent` as a double, unless it is too large. -/
def scaleByTens (significand : Nat) (exponent : Int) : Option Binary64 :=
  let x := Binary64.ofNat significand
  if 0 ≤ exponent then
    if exponent ≤ 308 then
      match x.mul (.ofNat (Nat.pow 10 exponent.toNat)) with
      | .infinite _ => none
      | product => some product
    else if significand = 0 then some x else none
  else some (divideByTens 5 x exponent.natAbs)

/-- Exponents are counted in 32 bits. -/
def maxExponent : Nat := 0x7FFFFFFF

/-- The value of a number with a fraction, an exponent, or too many digits for an integer. -/
def realValue (n : Numeral) : Option Binary64 :=
  let (wholePart, dropped) := significand 0 n.whole
  let fraction := n.fraction.getD []
  let (value, left) := significand wholePart fraction
  let shift : Int := dropped.length - (fraction.length - left.length : Nat)
  let unsigned := match n.exponent with
    | none => scaleByTens value shift
    | some (below, power) =>
        let power := Rfc3339.digitsValue power
        if maxExponent < power then
          if value ≠ 0 && !below then none else some (.zero false)
        else
          let exponent := if below then shift - power else shift + power
          scaleByTens value (max Int32.minValue.toInt (min Int32.maxValue.toInt exponent))
  unsigned.map fun x => if n.negative then x.neg else x

/-- The value of a numeral, unless it is beyond the doubles. -/
def numberValue (n : Numeral) : Option Number :=
  let real := (realValue n).map Number.real
  if n.fraction.isSome || n.exponent.isSome then real
  else
    let value := Rfc3339.digitsValue n.whole
    if n.negative then
      if 0 < value ∧ value ≤ Int64.minValue.toInt.natAbs then some (.negative value) else real
    else if value ≤ maxWord then some (.natural value) else real

/-! ## Strings

    The bytes of a string are collected latest first.  An escape of a high
    surrogate waits for one of a low surrogate; one that stays alone makes
    the string unreadable. -/

/-- A string being read. -/
structure Quoted where
  bytes : List UInt8
  high : Option Nat
  readable : Bool
  deriving DecidableEq, Repr

namespace Quoted

/-- Nothing read yet. -/
def empty : Quoted := ⟨[], none, true⟩

/-- A high surrogate that no low one follows is unreadable. -/
def settle (q : Quoted) : Quoted := ⟨q.bytes, none, q.readable && q.high.isNone⟩

/-- A byte that stands for itself. -/
def byte (q : Quoted) (b : UInt8) : Quoted :=
  let q := q.settle
  ⟨b :: q.bytes, none, q.readable⟩

/-- A character given by an escape. -/
def char (q : Quoted) (c : Char) : Quoted :=
  let q := q.settle
  ⟨(Utf8.encodeChar c).reverse ++ q.bytes, none, q.readable⟩

/-- A 16-bit unit given by an escape. -/
def unit (q : Quoted) (u : Nat) : Quoted :=
  if 0xDC00 ≤ u ∧ u < 0xE000 then
    match q.high with
    | some high =>
        char ⟨q.bytes, none, q.readable⟩
          (Char.ofNat (0x10000 + (high - 0xD800) * 0x400 + (u - 0xDC00)))
    | none => ⟨q.bytes, none, false⟩
  else if 0xD800 ≤ u ∧ u < 0xDC00 then
    let q := q.settle
    ⟨q.bytes, some u, q.readable⟩
  else q.char (Char.ofNat u)

/-- The finished string. -/
def finish (q : Quoted) : Token :=
  let q := q.settle
  .text (if q.readable then Utf8.decode? q.bytes.reverse else none)

end Quoted

/-! ## The machine -/

/-- Where the machine stands. -/
inductive Mode where
  /-- Between tokens. -/
  | between
  /-- Inside a number, its characters latest first. -/
  | number (read : List Char)
  /-- Inside a word, its characters latest first. -/
  | word (read : List Char)
  /-- Inside a string. -/
  | quoted (q : Quoted)
  /-- After a backslash. -/
  | escape (q : Quoted)
  /-- Inside the digits of a unit: the value so far and the digits owed. -/
  | unit (q : Quoted) (value : Nat) (owed : Nat)
  deriving DecidableEq, Repr

/-- Tokens read so far, latest first, and where the machine stands. -/
structure Scan where
  tokens : List Token
  mode : Mode
  deriving DecidableEq, Repr

/-- The word's token. -/
def ofWord (read : List Char) : Option Token :=
  match String.ofList read.reverse with
  | "null" => some .null
  | "true" => some (.bool true)
  | "false" => some (.bool false)
  | _ => none

/-- The number's token. -/
def ofNumeral (read : List Char) : Option Token :=
  (numeral? read.reverse).map fun n => .number (numberValue n)

/-- A character of a number. -/
def isNumeralChar (c : Char) : Bool := c.isDigit || c == '-' || c == '+' || c == '.' || c == 'e' || c == 'E'

/-- The value of a hexadecimal digit. -/
def hexValue? (c : Char) : Option Nat :=
  let n := c.toNat
  if c.isDigit then some (n - '0'.toNat)
  else if 'a' ≤ c ∧ c ≤ 'f' then some (n - 'a'.toNat + 10)
  else if 'A' ≤ c ∧ c ≤ 'F' then some (n - 'A'.toNat + 10)
  else none

/-- Ends the number or word that the machine is in. -/
def Scan.settle (s : Scan) : Option Scan :=
  match s.mode with
  | .number read => (ofNumeral read).map fun t => ⟨t :: s.tokens, .between⟩
  | .word read => (ofWord read).map fun t => ⟨t :: s.tokens, .between⟩
  | _ => some s

/-- A byte that starts a token or stands between two. -/
def Scan.start (s : Scan) (c : Char) : Option Scan :=
  match c with
  | ' ' | '\t' | '\n' | '\r' => some ⟨s.tokens, .between⟩
  | '[' => some ⟨.openArray :: s.tokens, .between⟩
  | ']' => some ⟨.closeArray :: s.tokens, .between⟩
  | '{' => some ⟨.openObject :: s.tokens, .between⟩
  | '}' => some ⟨.closeObject :: s.tokens, .between⟩
  | ':' => some ⟨.colon :: s.tokens, .between⟩
  | ',' => some ⟨.comma :: s.tokens, .between⟩
  | '"' => some ⟨s.tokens, .quoted .empty⟩
  | c =>
      if c == '-' || c.isDigit then some ⟨s.tokens, .number [c]⟩
      else if c.isLower then some ⟨s.tokens, .word [c]⟩
      else none

/-- One byte. -/
def Scan.step (s : Scan) (b : UInt8) : Option Scan :=
  let c := Char.ofNat b.toNat
  match s.mode with
  | .between => s.start c
  | .number read =>
      if isNumeralChar c then some ⟨s.tokens, .number (c :: read)⟩
      else s.settle.bind (·.start c)
  | .word read =>
      if c.isLower then some ⟨s.tokens, .word (c :: read)⟩ else s.settle.bind (·.start c)
  | .quoted q =>
      if c == '"' then some ⟨q.finish :: s.tokens, .between⟩
      else if c == '\\' then some ⟨s.tokens, .escape q⟩
      else if b < 0x20 then none
      else some ⟨s.tokens, .quoted (q.byte b)⟩
  | .escape q =>
      match c with
      | '"' => some ⟨s.tokens, .quoted (q.char '"')⟩
      | '\\' => some ⟨s.tokens, .quoted (q.char '\\')⟩
      | '/' => some ⟨s.tokens, .quoted (q.char '/')⟩
      | 'b' => some ⟨s.tokens, .quoted (q.char '\x08')⟩
      | 'f' => some ⟨s.tokens, .quoted (q.char '\x0c')⟩
      | 'n' => some ⟨s.tokens, .quoted (q.char '\n')⟩
      | 'r' => some ⟨s.tokens, .quoted (q.char '\r')⟩
      | 't' => some ⟨s.tokens, .quoted (q.char '\t')⟩
      | 'u' => some ⟨s.tokens, .unit q 0 4⟩
      | _ => none
  | .unit q value owed =>
      (hexValue? c).map fun digit =>
        let value := value * 16 + digit
        match owed with
        | 0 | 1 => ⟨s.tokens, .quoted (q.unit value)⟩
        | owed + 1 => ⟨s.tokens, .unit q value owed⟩

/-- All bytes, from a given state of the machine. -/
def Scan.run (s : Scan) : List UInt8 → Option Scan
  | [] => some s
  | b :: rest =>
      match s.step b with
      | some next => next.run rest
      | none => none

/-- The tokens of a document; strings must be closed. -/
def scan? (bytes : List UInt8) : Option (List Token) := do
  let s ← Scan.run ⟨[], .between⟩ bytes
  let s ← s.settle
  match s.mode with
  | .between => some s.tokens.reverse
  | _ => none

end Token

end CloudReconciler.Json
