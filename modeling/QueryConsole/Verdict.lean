import QueryConsole.Sql.Dialect
import QueryConsole.Text.Lines

/-!
# Is the input complete?

A console reads lines until they make something to run. The detector looks at everything typed so
far and at the place of the caret, and decides whether there is a whole statement or a command, or
why there is not. It keeps nothing between calls.
-/

namespace QueryConsole

/-- What is to be done with the input. -/
inductive Verdict where
  /-- A statement ends at a terminator with this offset. -/
  | terminated (offset : Nat)
  /-- The line of the caret is a command. -/
  | command
  /-- Every line is run as it is entered. -/
  | singleLine
  /-- There is nothing but blanks. -/
  | blank
  /-- The input stops inside a construct. -/
  | unclosed (k : Sql.Construct)
  /-- The statement has no terminator yet. -/
  | unterminated
deriving DecidableEq, Repr

def Verdict.isComplete : Verdict → Bool
  | terminated _ | command | singleLine => true
  | blank | unclosed _ | unterminated => false

structure Detector where
  terminator : Char
  /-- Whether a statement may span several lines. -/
  multiLine : Bool := true
  dialect : Sql.Dialect := .ansi
deriving DecidableEq, Repr

namespace Detector

/-- Judges a buffer with the caret at a byte offset. A construct that is left open outweighs a
terminator before it, and a terminator behind the caret does not count. -/
def detect (d : Detector) (buffer : Text) (caret : Nat) : Verdict :=
  if !d.multiLine then .singleLine
  else if buffer.all Text.isBlank then .blank
  else
    let a := d.dialect.analyze d.terminator buffer
    match a.unclosed with
    | some k => .unclosed k
    | none =>
      match a.terminator?.filter (· ≤ caret) with
      | some offset => .terminated offset
      | none =>
        if (Text.trimStart (Text.lineAt buffer caret)).head? = some '\\' then .command
        else .unterminated

/-- Judges a buffer with the caret at its end. -/
def detectAtEnd (d : Detector) (buffer : Text) : Verdict := d.detect buffer (Text.size buffer)

end Detector

end QueryConsole
