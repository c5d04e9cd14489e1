import CloudReconciler.Http.Delta
import CloudReconciler.Text.Canonical
import CloudReconciler.Text.Direction
import CloudReconciler.Text.Folding
import CloudReconciler.Text.Joining

/-! # Domain names — labels between dots in their normal form

    A name is folded and spelled canonically before it is taken apart.  A
    label beyond ASCII is written in delta code, and one that is given in
    delta code has to be the one that would be written.  Invisible joiners
    stand only where they join, and a name with letters from right to left
    keeps every label readable in one direction. -/

namespace CloudReconciler.Http

open Text

/-- The parts of a text between separators. -/
def splitAt (isSeparator : Char → Bool) : List Char → List (List Char)
  | [] => [[]]
  | c :: rest =>
      match splitAt isSeparator rest with
      | [] => [[]]
      | part :: parts => if isSeparator c then [] :: part :: parts else (c :: part) :: parts

/-- Characters that no host holds. -/
def isForbidden (c : Char) : Bool :=
  c ∈ ['\x00', '\t', '\n', '\r', ' ', '#', '/', ':', '<', '>', '?', '@', '[', '\\', ']', '^', '|']

/-- Characters that no label holds. -/
def isDenied (c : Char) : Bool := isForbidden c || c < ' ' || c == '%' || c == '\x7f' || c == '.'

/-- The character belongs to ASCII. -/
def isBasic (c : Char) : Bool := c.toNat < 128

/-- A text folded and spelled canonically. -/
def folded? (cs : List Char) : Option (List Char) := do
  return canonical (← cs.mapM fold?).flatten

/-! ## Joiners -/

/-- The joiner that joins, and the one that keeps apart. -/
def isJoiner (c : Char) : Bool := c == '\u200D' || c == '\u200C'

/-- The letters around a place would be joined; what is before comes latest first. -/
def joinsAt (before after : List Char) : Bool :=
  (before.dropWhile isTransparent).head?.any joinsNext &&
    (after.dropWhile isTransparent).head?.any joinsPrevious

/-- Every joiner follows a virama, or keeps apart letters that would be joined. -/
def joinersFit (before : List Char) : List Char → Bool
  | [] => true
  | c :: rest =>
      (!isJoiner c || before.head?.any (fun b => combiningClass b.toNat == viramaClass) ||
          (c == '\u200C' && joinsAt before rest)) &&
        joinersFit (c :: before) rest

/-! ## Directions -/

/-- The name has characters of text that is written from right to left. -/
def isBidirectional (name : List Char) : Bool :=
  name.any fun c => direction c == .right || direction c == .arabicNumber

/-- The label is readable in the direction of its first character. -/
def isReadable (label : List Char) : Bool :=
  let all := label.map direction
  let last := all.reverse.find? (· != .mark)
  match all.head? with
  | none => true
  | some .left =>
      all.all (· ∈ [.left, .number, .neutral, .mark]) && last.any (· ∈ [.left, .number])
  | some .right =>
      all.all (· ∈ [.right, .arabicNumber, .number, .neutral, .mark]) &&
        last.any (· ∈ [.right, .arabicNumber, .number]) &&
        !(all.contains .number && all.contains .arabicNumber)
  | some _ => false

/-! ## Labels -/

/-- The longest label beyond ASCII that is written in delta code. -/
def longestLabel : Nat := 1000

/-- The longest delta code that is read. -/
def longestCode : Nat := 2000

/-- The characters of a folded label, which may be given in delta code. -/
def decoded? : List Char → Option (List Char)
  | 'x' :: 'n' :: '-' :: '-' :: code => do
      if code.isEmpty ∨ code.getLast? = some '-' ∨ longestCode < code.length then none
      else
        let label ← Delta.decode? code
        if folded? label = some label then some label else none
  | label => if label.all isBasic ∨ label.length ≤ longestLabel then some label else none

/-- The label has no character that is denied, does not start with a mark, and its joiners join. -/
def isLabel (label : List Char) : Bool :=
  !label.any isDenied &&
    (label.all isBasic || (!label.head?.any isMark && joinersFit [] label))

/-- The text of a label. -/
def labelText (label : List Char) : List Char :=
  if label.all isBasic then label else "xn--".toList ++ Delta.encode label

/-- The normal form of a name. -/
def name? (cs : List Char) : Option (List Char) := do
  let labels ← (splitAt (· == '.') (← folded? cs)).mapM decoded?
  if labels.all isLabel && (!labels.any isBidirectional || labels.all isReadable) then
    some (List.intercalate ['.'] (labels.map labelText))
  else none

example : name? "A..b".toList = some "a..b".toList ∧ name? "a%".toList = none ∧
    name? "xn--a-".toList = none := by decide +kernel

end CloudReconciler.Http
