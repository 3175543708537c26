import QueryConsole.Text.Basic
import QueryConsole.Text.CodeRange

/-!
# Blank characters

The blank characters are those of the Unicode property White_Space. A text is trimmed of the
blanks at its ends.
-/

namespace QueryConsole.Text

/-- The property White_Space, ascending. -/
def blankRanges : List CodeRange := [
  ⟨0x0009, 0x000d⟩, ⟨0x0020, 0x0020⟩, ⟨0x0085, 0x0085⟩, ⟨0x00a0, 0x00a0⟩, ⟨0x1680, 0x1680⟩,
  ⟨0x2000, 0x200a⟩, ⟨0x2028, 0x2029⟩, ⟨0x202f, 0x202f⟩, ⟨0x205f, 0x205f⟩, ⟨0x3000, 0x3000⟩]

/-- Whether a character separates words. -/
def isBlank (c : Char) : Bool := CodeRange.covers c.toNat blankRanges

/-- The text without the blanks at its start. -/
def trimStart (t : Text) : Text := t.dropWhile isBlank

/-- The text without the blanks at its end. -/
def trimEnd (t : Text) : Text := (t.reverse.dropWhile isBlank).reverse

/-- The text without the blanks at either end. -/
def trim (t : Text) : Text := trimEnd (trimStart t)

end QueryConsole.Text
