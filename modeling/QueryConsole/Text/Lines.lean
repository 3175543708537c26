import QueryConsole.Text.Basic

/-!
# Lines

Lines are separated by newline characters, and a newline at the end of a text begins no further
line when lines are counted.
-/

namespace QueryConsole.Text

def inLine (c : Char) : Bool := c != '\n'

/-- The line that holds the byte offset `n`. Offsets beyond the text mean its end, and one inside
a character means the start of that character. -/
def lineAt (t : Text) (n : Nat) : Text :=
  let (before, after) := splitAt n t
  (before.reverse.takeWhile inLine).reverse ++ after.takeWhile inLine

/-- The number of lines. -/
def lineCount (t : Text) : Nat :=
  t.count '\n' + if t.getLast?.all (· == '\n') then 0 else 1

/-- The text `t` with a further line behind it. -/
def addLine (t line : Text) : Text := if t.isEmpty then line else t ++ '\n' :: line

end QueryConsole.Text
