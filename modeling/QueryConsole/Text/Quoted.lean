import QueryConsole.Text.Basic
import QueryConsole.Text.PrintableTable

/-!
# Quoted texts for messages

A message shows a text between double quotes. Quotes, backslashes and the common controls have
short escapes; other characters that would not show, or would attach themselves to their
neighbour, are written by their code.
-/

namespace QueryConsole.Text

/-- Whether a character is shown as it is: it has a form of its own and does not extend the
character before it. -/
def isShown (c : Char) : Bool :=
  !CodeRange.covers c.toNat invisibleRanges && !CodeRange.covers c.toNat extendingMarkRanges

/-- A character as it stands in a quoted text. -/
def escapeChar (c : Char) : Text :=
  match c with
  | '"' => ['\\', '"']
  | '\\' => ['\\', '\\']
  | '\t' => ['\\', 't']
  | '\r' => ['\\', 'r']
  | '\n' => ['\\', 'n']
  | '\x00' => ['\\', '0']
  | c =>
    if isShown c then [c] else ['\\', 'u', '{'] ++ Nat.toDigits 16 c.toNat ++ ['}']

/-- The text between double quotes, with escapes. -/
def quoted (t : Text) : Text := '"' :: t.flatMap escapeChar ++ ['"']

end QueryConsole.Text
