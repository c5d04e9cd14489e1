import CloudReconciler.Text.Graphic
import CloudReconciler.Text.Extending

/-! # Quoted text — a text between quotes on one line

    The quote, the backslash and the usual controls have short escapes.
    Other characters that are not graphic, that show nothing, or that would
    join the one before, are given by their code points in hexadecimal
    digits. -/

namespace CloudReconciler.Text

/-- The fillers of Hangul, which are letters without a glyph. -/
def isFiller (c : Char) : Bool := c ∈ ['\u115F', '\u1160', '\u3164', '\uFFA0']

/-- The voicing marks of halfwidth kana, which extend a character but have a cell of their own. -/
def isVoicingMark (c : Char) : Bool := c == '\uFF9E' || c == '\uFF9F'

/-- The character is seen as itself behind any other. -/
def isSeen (c : Char) : Bool :=
  isGraphic c && !isFiller c && (!isExtending c || isVoicingMark c)

/-- The character as it is written between quotes. -/
def quotedChar (c : Char) : List Char :=
  if c = '"' then ['\\', '"']
  else if c = '\\' then ['\\', '\\']
  else if c = '\n' then ['\\', 'n']
  else if c = '\r' then ['\\', 'r']
  else if c = '\t' then ['\\', 't']
  else if c = '\x00' then ['\\', '0']
  else if isSeen c then [c]
  else ['\\', 'u', '\x7b'] ++ Nat.toDigits 16 c.toNat ++ ['\x7d']

/-- The text between quotes. -/
def quoted (s : String) : String := "\"" ++ String.ofList (s.toList.flatMap quotedChar) ++ "\""

example : quoted "a\u200b\x07'é\"" = "\"a\\u\x7b200b\x7d\\u\x7b7\x7d'é\\\"\"" := by decide +kernel

end CloudReconciler.Text
