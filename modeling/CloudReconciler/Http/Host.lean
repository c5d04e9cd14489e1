import CloudReconciler.Http.Domain
import CloudReconciler.Http.Encoding

/-! # Hosts — names and numbers in their normal form

    A host is a name unless its last label is a number; then it is an
    address of four octets, however it was written.  An address in brackets
    has eight groups, and its longest run of zeros is left out. -/

namespace CloudReconciler.Http

/-- The value of digits to a base. -/
def valueOf? (base : Nat) (digits : List Char) : Option Nat :=
  digits.foldlM (fun value c => do
    let d ← hexDigit? c
    if d < base then some (value * base + d) else none) 0

/-! ## Addresses of four octets -/

/-- A number that may be written to base ten, eight or sixteen. -/
def octetNumber? : List Char → Option Nat
  | '0' :: 'x' :: digits | '0' :: 'X' :: digits => valueOf? 16 digits
  | '0' :: digits => valueOf? 8 digits
  | [] => none
  | digits => valueOf? 10 digits

/-- The labels of a name without the empty one that a final dot leaves. -/
def labels (name : List Char) : List (List Char) :=
  let parts := splitAt (· == '.') name
  if 1 < parts.length ∧ parts.getLast? = some [] then parts.dropLast else parts

/-- The name has to be an address of four octets. -/
def endsInNumber (name : List Char) : Bool :=
  match (labels name).getLast? with
  | none | some [] => false
  | some last => last.all Char.isDigit || (octetNumber? last).isSome

/-- Four octets from at most four numbers, the last of which fills the rest. -/
def octets? (name : List Char) : Option Nat := do
  let numbers ← (labels name).mapM octetNumber?
  let last ← numbers.getLast?
  let front := numbers.dropLast
  if 4 < numbers.length ∨ front.any (255 < ·) ∨ Nat.pow 256 (5 - numbers.length) ≤ last then none
  else
    let value := front.foldl (fun (value, weight) n => (value + n * Nat.pow 256 weight, weight - 1)) (0, 3)
    some (value.1 + last)

/-- Four octets between dots. -/
def octetsText (value : Nat) : List Char :=
  (".".intercalate
    ([value / 16777216, value / 65536 % 256, value / 256 % 256, value % 256].map toString)).toList

/-! ## Addresses of eight groups -/

/-- The groups of a part of an address; the last one may be an address of four octets. -/
def groups? : List (List Char) → Option (List Nat)
  | [] => some []
  | [last] =>
      if '.' ∈ last then do
        let parts := splitAt (· == '.') last
        let plain := parts.all fun p => !p.isEmpty && p.all Char.isDigit && (p.length == 1 || p.head? != some '0')
        let numbers ← parts.mapM (valueOf? 10)
        if parts.length = 4 ∧ plain ∧ numbers.all (· ≤ 255) then
          let value := numbers.foldl (fun value n => value * 256 + n) 0
          some [value / 65536, value % 65536]
        else none
      else do return [← group? last]
  | part :: rest => do return (← group? part) :: (← groups? rest)
where
  group? (digits : List Char) : Option Nat :=
    if digits.isEmpty ∨ 4 < digits.length then none else valueOf? 16 digits

/-- The two sides of the first double colon. -/
def atDoubleColon : List Char → Option (List Char × List Char)
  | [] => none
  | ':' :: ':' :: rest => some ([], rest)
  | c :: rest => (atDoubleColon rest).map fun (before, after) => (c :: before, after)

/-- The groups of an address, possibly none. -/
def side? (cs : List Char) : Option (List Nat) :=
  if cs.isEmpty then some [] else groups? (splitAt (· == ':') cs)

/-- Eight groups, where a double colon stands for one or more zeros. -/
def eightGroups? (cs : List Char) : Option (List Nat) :=
  match atDoubleColon cs with
  | none => (side? cs).filter (·.length = 8)
  | some (before, after) => do
      if '.' ∈ before then none
      else
        let front ← side? before
        let back ← side? after
        if front.length + back.length < 8 then
          some (front ++ List.replicate (8 - front.length - back.length) 0 ++ back)
        else none

/-- Start and length of the first longest run of at least two zeros. -/
def longestZeros (groups : List Nat) : Option (Nat × Nat) :=
  let runs := (List.range groups.length).map fun i => (i, ((groups.drop i).takeWhile (· == 0)).length)
  runs.foldl (fun best (i, n) =>
    match best with
    | some (_, m) => if m < n then some (i, n) else best
    | none => if 2 ≤ n then some (i, n) else none) none

/-- Groups between colons. -/
def groupsText (groups : List Nat) : List Char :=
  (":".intercalate (groups.map fun n => String.ofList (Nat.toDigits 16 n))).toList

/-- An address of eight groups in brackets. -/
def bracketed (groups : List Nat) : List Char :=
  match longestZeros groups with
  | none => '[' :: groupsText groups ++ [']']
  | some (i, n) =>
      '[' :: groupsText (groups.take i) ++ [':', ':'] ++ groupsText (groups.drop (i + n)) ++ [']']

/-! ## Hosts -/

/-- The normal form of a host of a known scheme. -/
def host? (cs : List Char) : Option (List Char) :=
  match cs with
  | '[' :: rest =>
      if rest.getLast? = some ']' then (eightGroups? rest.dropLast).map bracketed else none
  | _ => do
      let name ← name? (Utf8.decodeLossy (percentDecode cs)).toList
      if name.isEmpty then none
      else if endsInNumber name then (octets? name).map octetsText
      else some name

/-- The normal form of a host of any other scheme. -/
def opaqueHost? (cs : List Char) : Option (List Char) :=
  match cs with
  | '[' :: rest =>
      if rest.getLast? = some ']' then (eightGroups? rest.dropLast).map bracketed else none
  | _ => if cs.any isForbidden then none else some (percentEncode isPlain cs)

example : host? "EXAMPLE.com".toList = some "example.com".toList ∧
    host? "0x7f.1".toList = some "127.0.0.1".toList ∧
    host? "[0:0:1::1]".toList = some "[0:0:1::1]".toList ∧ host? "a%20b".toList = none := by
  decide +kernel

end CloudReconciler.Http
