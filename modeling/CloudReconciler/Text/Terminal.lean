import CloudReconciler.Text.Utf8

/-! # Terminal text — emphasis, and text without sequences

    A terminal takes the escape character and what belongs to it as a
    sequence that it obeys and does not show.  `emphasised` puts a text
    between two such sequences; `plain` leaves out all sequences and all
    controls that do not lay out the text.  A sequence in a text thus does
    nothing, and one that is not finished reaches to the next emphasis. -/

namespace CloudReconciler.Text

/-- A text in bold letters. -/
def emphasised (s : String) : String := "\x1b[1m" ++ s ++ "\x1b[0m"

/-- Where a terminal stands in its input. -/
inductive TerminalState where
  /-- Outside of sequences. -/
  | ground
  /-- Behind the escape character. -/
  | escape
  /-- In a sequence with further marks before its last character. -/
  | marked
  /-- In a control sequence. -/
  | control
  /-- In a command to the system, which a bell ends. -/
  | command
  /-- In a string for a device. -/
  | string
  deriving DecidableEq, Repr

/-- The character ends a line or moves within it. -/
def isLayout (c : Char) : Bool := c ∈ ['\t', '\n', '\x0c', '\r']

/-- The character is shown outside of sequences. -/
def isShown (c : Char) : Bool := isLayout c || (' ' ≤ c && c ≠ '\x7f')

namespace TerminalState

/-- The state behind a further character of a sequence. -/
def within : TerminalState → Char → TerminalState
  | .escape, '[' => .control
  | .escape, ']' => .command
  | .escape, 'P' | .escape, 'X' | .escape, '^' | .escape, '_' => .string
  | .escape, c =>
      if ' ' ≤ c ∧ c ≤ '/' then .marked else if '0' ≤ c ∧ c ≤ '~' then .ground else .escape
  | .marked, c => if '0' ≤ c ∧ c ≤ '~' then .ground else .marked
  | .control, c => if '@' ≤ c ∧ c ≤ '~' then .ground else .control
  | .command, c => if c = '\x07' then .ground else .command
  | .string, c => if 0x9C ∈ Utf8.encodeChar c then .ground else .string
  | .ground, _ => .ground

/-- The next state, and whether the character is shown.  Two controls cancel every sequence, and
    layout ends those that are not for a system or device. -/
def step (s : TerminalState) (c : Char) : TerminalState × Bool :=
  if c = '\x1b' then (.escape, false)
  else if c = '\x18' ∨ c = '\x1a' then (.ground, false)
  else if s = .ground then (.ground, isShown c)
  else if isLayout c ∧ s ≠ .command ∧ s ≠ .string then (.ground, true)
  else (s.within c, false)

/-- What is shown of the rest of a text. -/
def shown (s : TerminalState) : List Char → List Char
  | [] => []
  | c :: rest => if (s.step c).2 then c :: (s.step c).1.shown rest else (s.step c).1.shown rest

end TerminalState

/-- A text without sequences and controls. -/
def plain (s : String) : String := String.ofList (TerminalState.ground.shown s.toList)

example : plain (emphasised "a" ++ "\x07b\x1b]0;c\x07\x1b(Bd\x1b[3\ne") = "abd\ne" ∧
    plain ("\x1bPx" ++ emphasised "y") = "y" := by decide +kernel

end CloudReconciler.Text
