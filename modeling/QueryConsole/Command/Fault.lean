import QueryConsole.Command.Render

/-!
# Faults in a command line

A fault is a cause and the offset at which it lies. Its diagnostic adds the words for the user and
the line, under which a caret points at the place.
-/

namespace QueryConsole.Command

inductive Quote where
  | single
  | double
deriving DecidableEq, Repr

namespace Quote

def mark : Quote → Char
  | single => '\''
  | double => '"'

def ofMark? (c : Char) : Option Quote :=
  if c = '\'' then some single else if c = '"' then some double else none

theorem ofMark?_eq_some_iff {c : Char} {q : Quote} : ofMark? c = some q ↔ c = q.mark := by
  unfold ofMark?
  split
  · next h => cases q <;> simp [mark, h]
  · split
    · next h => cases q <;> simp_all [mark]
    · cases q <;> simp_all [mark]

end Quote

/-- What a number in a command line names. -/
inductive Numbered where
  | descriptor
  | session
deriving DecidableEq, Repr

/-- Why a command line cannot be read. -/
inductive Cause where
  /-- A quotation is not closed. -/
  | openQuote (q : Quote)
  /-- Nothing follows a backslash. -/
  | danglingEscape
  /-- No token can begin with this character, or at the end of the line. -/
  | unexpected (c : Option Char)
  /-- Nothing follows a pipe. -/
  | noCommand
  /-- The target of a redirection is missing or empty. -/
  | noTarget
  /-- The number of a descriptor to follow is missing. -/
  | noDescriptor
  /-- A number does not fit into 32 bits. -/
  | outOfRange (what : Numbered)
  /-- A descriptor is named where output goes to a session. -/
  | sessionDescriptor
deriving DecidableEq, Repr

inductive Fault.Kind where
  | unterminatedLiteral
  | malformedRedirect
  | syntaxError
deriving DecidableEq, Repr

def Fault.Kind.name : Fault.Kind → String
  | unterminatedLiteral => "unterminated literal"
  | malformedRedirect => "malformed redirect"
  | syntaxError => "syntax error"

namespace Cause

def kind : Cause → Fault.Kind
  | openQuote _ => .unterminatedLiteral
  | danglingEscape | unexpected _ | noCommand => .syntaxError
  | noTarget | noDescriptor | outOfRange _ | sessionDescriptor => .malformedRedirect

def message : Cause → Text
  | openQuote .single => "Closing single quote not found".toList
  | openQuote .double => "Closing double quote not found".toList
  | danglingEscape => "Expected character following '\\'".toList
  | unexpected (some c) => "Unexpected character '".toList ++ [c, '\'']
  | unexpected none => "Unexpected end of line".toList
  | noCommand => "Expected a command following '|'".toList
  | noTarget => "Expected a target filename following redirection".toList
  | noDescriptor =>
    "Expected a number following file descriptor duplication token '>&'".toList
  | outOfRange .descriptor => "File descriptor out of range".toList
  | outOfRange .session => "Session number out of range".toList
  | sessionDescriptor => "Session redirection does not take a file descriptor".toList

end Cause

/-- A fault at an offset of a command line. -/
structure Fault where
  cause : Cause
  position : Nat
deriving DecidableEq, Repr

/-- A fault as it is shown to the user. -/
structure Diagnostic where
  kind : Fault.Kind
  message : Text
  position : Nat
  line : Text
deriving DecidableEq, Repr

/-- The diagnostic of a fault in the given line. -/
def Fault.diagnose (line : Text) (f : Fault) : Diagnostic :=
  { kind := f.cause.kind, message := f.cause.message, position := f.position, line }

namespace Diagnostic

/-- The number of characters before the position. A position that is not at a character counts as
a column itself. -/
def column (d : Diagnostic) : Nat :=
  match Text.splitAt? (min d.position (Text.size d.line)) d.line with
  | some (before, _) => before.length
  | none => d.position

/-- The line, with a caret under the faulty place. -/
def caret (d : Diagnostic) : Text := d.line ++ '\n' :: List.replicate d.column ' ' ++ ['^']

def text (d : Diagnostic) : Text :=
  d.message ++ " (at position ".toList ++ digits d.position ++ [')']

end Diagnostic

end QueryConsole.Command
