import CloudReconciler.Json.Writer

/-! # YAML — documents in block form

    Members and items stand on lines of their own; items of a list stand at
    the depth of the member that holds them.  A text is plain where no
    reader could take it for something else, a block of lines if it has
    several, and quoted otherwise. -/

namespace CloudReconciler.Yaml

/-- Plain texts that readers take for something other than a text. -/
def reserved : List String :=
  ["true", "True", "TRUE", "false", "False", "FALSE", "null", "Null", "NULL", "~", "y", "Y", "yes",
    "Yes", "YES", "n", "N", "no", "No", "NO", "on", "On", "ON", "off", "Off", "OFF"]

/-- Characters that give a text a meaning when they stand first. -/
def indicators : List Char :=
  ['-', '?', ':', ',', '[', ']', '\x7b', '\x7d', '#', '&', '*', '!', '|', '>', '\'', '"', '%', '@',
    '\x60']

/-- Some pair of neighbours satisfies the test. -/
def hasPair (test : Char → Char → Bool) : List Char → Bool
  | a :: b :: rest => test a b || hasPair test (b :: rest)
  | _ => false

/-- The text reads as a number. -/
def looksNumeric (cs : List Char) : Bool :=
  let digits := if cs.head? = some '-' ∨ cs.head? = some '+' then cs.drop 1 else cs
  (digits.head?.any Char.isDigit || hasPair (fun a b => a == '.' && b.isDigit) (digits.take 2)) &&
    digits.all fun c => c.isAlphanum || c ∈ ['.', '+', '-', '_']

/-- The text can stand as it is. -/
def isPlain (s : String) : Bool :=
  let cs := s.toList
  s ≠ "" && !(s ∈ reserved) && !looksNumeric cs && !(cs.head?.any (· ∈ indicators)) &&
    cs.head? != some ' ' && cs.getLast? != some ' ' && cs.getLast? != some ':' &&
    cs.all (fun c => ' ' ≤ c && c ≤ '~') &&
    !hasPair (fun a b => (a == ':' && b == ' ') || (a == ' ' && b == '#')) cs

/-- A text in single quotes, in which a quote is written twice. -/
def quoted (s : String) : String :=
  "'" ++ String.ofList (s.toList.flatMap fun c => if c = '\'' then ['\'', '\''] else [c]) ++ "'"

/-- Blanks before a line. -/
def indent (depth : Nat) : String := String.ofList (List.replicate (2 * depth) ' ')

/-- The lines of a text as a block one level deeper. -/
def block (depth : Nat) (s : String) : String :=
  "|-" ++ String.join (((s.splitOn "\n").map fun line =>
    "\n" ++ (if line = "" then "" else indent (depth + 1) ++ line)))

/-- A text at some depth. -/
def scalar (depth : Nat) (s : String) : String :=
  if '\n' ∈ s.toList then block depth s else if isPlain s then s else quoted s

mutual

/-- A value after the name of its member, with the line end. -/
def value (depth : Nat) : Json → String
  | .object [] => " \x7b\x7d\n"
  | .array [] => " []\n"
  | .object (m :: ms) => "\n" ++ members (depth + 1) (m :: ms)
  | .array (x :: xs) => "\n" ++ items depth (x :: xs)
  | .string s => " " ++ scalar depth s ++ "\n"
  | j => " " ++ j.write ++ "\n"

/-- The members of an object, one or more lines each. -/
def members (depth : Nat) : List (String × Json) → String
  | [] => ""
  | (name, j) :: rest => indent depth ++ name ++ ":" ++ value depth j ++ members depth rest

/-- The items of a list; the first member of an object stands beside the dash. -/
def items (depth : Nat) : List Json → String
  | [] => ""
  | .object ((name, j) :: ms) :: rest =>
      indent depth ++ "- " ++ name ++ ":" ++ value (depth + 1) j ++ members (depth + 1) ms ++
        items depth rest
  | j :: rest => indent depth ++ "-" ++ value depth j ++ items depth rest

end

/-- A document in block form. -/
def write : Json → String
  | .object (m :: ms) => members 0 (m :: ms)
  | .array (x :: xs) => items 0 (x :: xs)
  | .object [] => "\x7b\x7d\n"
  | .array [] => "[]\n"
  | .string s => scalar 0 s ++ "\n"
  | j => j.write ++ "\n"

end CloudReconciler.Yaml
