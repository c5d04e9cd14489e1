import CloudReconciler.Json.Basic
import CloudReconciler.Numeric.Shortest

/-! # Writing JSON — the compact form of a document

    No blanks stand between tokens and members keep their order.  A string
    escapes quotes, backslashes and control characters, and nothing else. -/

namespace CloudReconciler.Json

/-- A character as it stands inside a string. -/
def escapeChar (c : Char) : List Char :=
  match c with
  | '"' => ['\\', '"']
  | '\\' => ['\\', '\\']
  | '\x08' => ['\\', 'b']
  | '\x0c' => ['\\', 'f']
  | '\n' => ['\\', 'n']
  | '\r' => ['\\', 'r']
  | '\t' => ['\\', 't']
  | c =>
      if c.toNat < 0x20 then
        ['\\', 'u', '0', '0', Nat.digitChar (c.toNat / 16), Nat.digitChar (c.toNat % 16)]
      else [c]

/-- The characters of a text as they stand inside a string. -/
def escaped : List Char → List Char
  | [] => []
  | c :: rest => escapeChar c ++ escaped rest

/-- A text in quotes. -/
def quoted (s : String) : String := "\"" ++ String.ofList (escaped s.toList) ++ "\""

/-- A number's digits. -/
def numberText : Number → String
  | .natural n => toString n
  | .negative n => "-" ++ toString n
  | .real x => x.text

mutual

/-- The compact form. -/
def write : Json → String
  | .null => "null"
  | .bool b => if b then "true" else "false"
  | .number n => numberText n
  | .string s => quoted s
  | .array [] => "[]"
  | .array (item :: rest) => "[" ++ write item ++ writeItems rest ++ "]"
  | .object [] => "\x7b\x7d"
  | .object ((name, value) :: rest) =>
      "\x7b" ++ quoted name ++ ":" ++ write value ++ writeMembers rest ++ "\x7d"
  | .unreadable => "null"

def writeItems : List Json → String
  | [] => ""
  | item :: rest => "," ++ write item ++ writeItems rest

def writeMembers : List (String × Json) → String
  | [] => ""
  | (name, value) :: rest => "," ++ quoted name ++ ":" ++ write value ++ writeMembers rest

end

end CloudReconciler.Json
