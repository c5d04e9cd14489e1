import CloudReconciler.Time.Instant
import CloudReconciler.Text.Blank

/-! # RFC 3339 — instants as text

    Writing is strict: UTC with `Z`, four digits for years up to 9999, and
    the fewest of 0, 3, 6 or 9 fraction digits that are exact.  Reading is
    lenient about blanks, the case of the letters, the separator of date
    and time, and the form of the offset, which must be present. -/

namespace CloudReconciler.Rfc3339

/-! ## Writing -/

/-- A natural with at least `width` digits. -/
def padded (width n : Nat) : List Char :=
  let digits := (toString n).toList
  List.replicate (width - digits.length) '0' ++ digits

/-- A year, with a sign when it has not exactly four digits. -/
def yearText (y : Int) : List Char :=
  if 0 ≤ y ∧ y ≤ 9999 then padded 4 y.toNat
  else (if y < 0 then '-' else '+') :: padded 4 y.natAbs

/-- The fraction of a second in thousands, millions or billions, as few as are exact. -/
def fractionText (nanos : Nat) : List Char :=
  if nanos = 0 then []
  else if nanos % 1000000 = 0 then '.' :: padded 3 (nanos / 1000000)
  else if nanos % 1000 = 0 then '.' :: padded 6 (nanos / 1000)
  else '.' :: padded 9 nanos

/-- Date and time of day to the second; a leap second is the 61st of its minute. -/
def wholeText (t : Instant) : List Char :=
  let date := CivilDate.ofDays (t.seconds / 86400)
  let second := t.secondOfDay.toNat
  yearText date.year ++ '-' :: padded 2 date.month ++ '-' :: padded 2 date.day ++
    'T' :: padded 2 (second / 3600) ++ ':' :: padded 2 (second / 60 % 60) ++
    ':' :: padded 2 (second % 60 + (if t.inLeap then 1 else 0))

/-- The instant with its exact fraction. -/
def write (t : Instant) : String :=
  String.ofList (wholeText t ++ fractionText (t.nanos % Duration.nanosPerSecond) ++ ['Z'])

/-- The instant with its fraction cut off. -/
def writeSeconds (t : Instant) : String := String.ofList (wholeText t ++ ['Z'])

/-! ## Reading -/

/-- Text without the blanks it starts with. -/
def skipBlanks (s : List Char) : List Char := s.dropWhile Text.isBlank

/-- The natural that a list of decimal digits spells. -/
def digitsValue (ds : List Char) : Nat :=
  ds.foldl (fun n c => n * 10 + (c.toNat - '0'.toNat)) 0

/-- The first digits of a text, at most `most` of them. -/
def leadingDigits : Nat → List Char → List Char
  | 0, _ => []
  | most + 1, c :: rest => if c.isDigit then c :: leadingDigits most rest else []
  | _ + 1, [] => []

/-- A number of one to `most` digits after blanks. -/
def number? (most : Nat) (s : List Char) : Option (Nat × List Char) :=
  let s := skipBlanks s
  match leadingDigits most s with
  | [] => none
  | ds => some (digitsValue ds, s.drop ds.length)

/-- A year: up to four digits, or any number of them after a sign. -/
def year? (s : List Char) : Option (Int × List Char) :=
  match skipBlanks s with
  | '-' :: rest => signed (-1) rest
  | '+' :: rest => signed 1 rest
  | s => (number? 4 s).map fun (n, rest) => (n, rest)
where
  signed (sign : Int) (s : List Char) : Option (Int × List Char) :=
    match leadingDigits s.length s with
    | [] => none
    | ds => some (sign * digitsValue ds, s.drop ds.length)

/-- Exactly this character. -/
def exactly? (c : Char) : List Char → Option (List Char)
  | d :: rest => if d = c then some rest else none
  | [] => none

/-- A fraction of a second in nanoseconds, if there is one; digits after the ninth are cut. -/
def fraction? : List Char → Option (Nat × List Char)
  | '.' :: rest =>
      match leadingDigits 9 rest with
      | [] => none
      | ds =>
          some (digitsValue ds * Nat.pow 10 (9 - ds.length),
            (rest.drop ds.length).dropWhile Char.isDigit)
  | s => some (0, s)

/-- Two digits of an offset. -/
def twoDigits? : List Char → Option (Nat × List Char)
  | a :: b :: rest => if a.isDigit && b.isDigit then some (digitsValue [a, b], rest) else none
  | _ => none

/-- An offset from UTC in seconds. -/
def offset? (s : List Char) : Option (Int × List Char) :=
  match s with
  | 'Z' :: rest | 'z' :: rest => some (0, rest)
  | '+' :: rest => signed 1 rest
  | '-' :: rest => signed (-1) rest
  | '\u2212' :: rest => signed (-1) rest
  | a :: b :: c :: rest =>
      if [a, b, c].map Char.toUpper = ['U', 'T', 'C'] then some (0, rest) else none
  | _ => none
where
  signed (sign : Int) (s : List Char) : Option (Int × List Char) := do
    let (hours, s) ← twoDigits? s
    let (minutes, s) ← twoDigits? (s.dropWhile fun c => c == ':' || Text.isBlank c)
    if minutes < 60 then some (sign * (hours * 3600 + minutes * 60 : Nat), s) else none

/-- An instant from its text. -/
def read? (text : String) : Option Instant := do
  let (year, s) ← year? text.toList
  let s ← exactly? '-' (skipBlanks s)
  let (month, s) ← number? 2 s
  let s ← exactly? '-' (skipBlanks s)
  let (day, s) ← number? 2 s
  let s ← match s with
    | 'T' :: rest | 't' :: rest | ' ' :: rest => some rest
    | _ => none
  let (hour, s) ← number? 2 s
  let s ← exactly? ':' (skipBlanks s)
  let (minute, s) ← number? 2 s
  let s ← exactly? ':' (skipBlanks s)
  let (second, s) ← number? 2 s
  let (nanos, s) ← fraction? s
  let (offset, s) ← offset? (skipBlanks s)
  let date : CivilDate := ⟨year, month, day⟩
  if (skipBlanks s).isEmpty && date.isValid && hour < 24 && minute < 60 && second ≤ 60 &&
      offset.natAbs < 86400 then
    let leap := second == 60
    let second := if leap then 59 else second
    let t : Instant :=
      ⟨date.toDays * 86400 + (hour * 3600 + minute * 60 + second : Nat) - offset,
        nanos + (if leap then Duration.nanosPerSecond else 0)⟩
    if t.isHeld then some t else none
  else none

example : (read? "2024-05-01t14:00:00.123+02:00").map write = some "2024-05-01T12:00:00.123Z" ∧
    (read? " 2024-5-01 12:00:60 z").map write = some "2024-05-01T12:00:60Z" ∧
    read? "2024-05-01T12:00:00" = none ∧ read? "2023-02-29T00:00:00Z" = none ∧
    (read? "1969-12-31T23:59:59.9994Z").map write = some "1969-12-31T23:59:59.999400Z" := by
  decide +kernel

end CloudReconciler.Rfc3339
