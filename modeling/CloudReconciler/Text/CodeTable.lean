/-! # Code tables — rows of code points as text

    A table is written in hexadecimal digits.  Blanks stand between the
    numbers of a row and semicolons between the rows on a line, and the
    first number of a row is its key. -/

namespace CloudReconciler.Text

/-- A row: its key and what belongs to it. -/
abbrev CodeRow := List Nat

/-- What has been read of a line, latest first: whole rows, a row, and a number. -/
structure LineReading where
  rows : List CodeRow
  row : CodeRow
  number : Nat

/-- The rows with the one that was begun. -/
def LineReading.settle (r : LineReading) : List CodeRow := (r.number :: r.row).reverse :: r.rows

/-- Reads a character of a line. -/
def LineReading.step (r : LineReading) (c : Char) : LineReading :=
  if c = ';' then ⟨r.settle, [], 0⟩
  else if c = ' ' then ⟨r.rows, r.number :: r.row, 0⟩
  else ⟨r.rows, r.row, r.number * 16 + (if c.isDigit then c.toNat - 48 else c.toNat - 55)⟩

/-- The rows of a line. -/
def rowsOfLine (s : String) : List CodeRow :=
  (s.toList.foldl LineReading.step ⟨[], [], 0⟩).settle.reverse

/-- The rows of a table by its lines. -/
def rowsOf (lines : List String) : List CodeRow := lines.flatMap rowsOfLine

/-- What belongs to a key. -/
def keyed? (rows : List CodeRow) (key : Nat) : Option (List Nat) :=
  (rows.find? (·.head? == some key)).map List.tail

example : rowsOf ["1F 2;A 0 B", "C"] = [[31, 2], [10, 0, 11], [12]] ∧
    keyed? [[31, 2], [10, 0, 11]] 10 = some [0, 11] := by decide +kernel

end CloudReconciler.Text
