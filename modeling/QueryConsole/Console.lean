import QueryConsole.Settings

/-!
# The console

A console gathers lines until they make a whole statement or a command, and shows what each one
reads as; nothing is run. Everything it writes is a function of the lines it is given. A line that
cannot be read is reported and dropped, and leaves nothing behind.
-/

namespace QueryConsole

/-- A console between two lines of input. -/
structure Console where
  detector : Detector
  /-- How command lines are read. -/
  options : Command.Options
  /-- The lines gathered so far. -/
  buffer : Text := []

namespace Console

/-- A console with the given settings, where the variables are those of the environment. -/
def ofSettings (s : Settings) (env : Command.Environment) : Except SettingsError Console := do
  let detector ← s.detector
  let options ← s.lineOptions
  let known : Command.Variables := { environment := env }
  return { detector, options := { options with lookup := some known.get? } }

/-- The prompt for a line behind the given buffer: the number of that line, the delimiter that is
missing if there is one, and an angle. -/
def prompt (buffer : Text) (unclosed : Option Sql.Construct) : Text :=
  let number := if buffer.isEmpty then 1 else Text.lineCount buffer + 1
  Command.digits number ++ (unclosed.map (·.closing)).getD [] ++ ['>', ' ']

/-- What a command line reads as, behind a label, or the fault in it. A blank line shows nothing. -/
def describe (o : Command.Options) (label line : Text) : Text :=
  if line.all Text.isBlank then []
  else
    match Command.tokenize o line with
    | .ok ts => label ++ [':', ' '] ++ Command.render (ts.map (·.kind)) ++ ['\n']
    | .error d => "error: ".toList ++ d.message ++ '\n' :: d.caret ++ ['\n']

def showStatement (t : Text) : Text := "statement: ".toList ++ t ++ ['\n']

/-- What is shown of a statement that ends with the terminator at the given offset, and of the
arguments behind it. -/
def submitStatement (c : Console) (offset : Nat) : Text :=
  let (statement, rest) := Text.splitAt offset c.buffer
  showStatement (Text.trim statement) ++ describe c.options "args".toList (rest.drop 1)

/-- What is shown of a command in the last line, and of the statement that it interrupts. -/
def submitCommand (c : Console) : Text :=
  let command := Text.lineAt c.buffer (Text.size c.buffer)
  let pending := Text.trim (c.buffer.take (c.buffer.length - command.length))
  (if pending.isEmpty then [] else showStatement pending) ++
    describe c.options "command".toList command

/-- What is shown of a buffer that is run as it was entered. -/
def submitLine (c : Console) : Text :=
  let line := Text.trim c.buffer
  if line.head? = some '\\' then describe c.options "command".toList line else showStatement line

/-- Takes a line of input. Returns what is written, up to the next prompt, and the console after. -/
def enter (c : Console) (line : Text) : Text × Console :=
  let c := { c with buffer := Text.addLine c.buffer line }
  let idle := { c with buffer := [] }
  match c.detector.detectAtEnd c.buffer with
  | .terminated offset => (c.submitStatement offset ++ prompt [] none, idle)
  | .command => (c.submitCommand ++ prompt [] none, idle)
  | .singleLine => (c.submitLine ++ prompt [] none, idle)
  | .blank => (prompt [] none, idle)
  | .unclosed k => (prompt c.buffer (some k), c)
  | .unterminated => (prompt c.buffer none, c)

/-- Takes lines of input in order. -/
def enterAll (c : Console) : List Text → Text × Console
  | [] => ([], c)
  | line :: lines =>
    let (out, c) := c.enter line
    let (outs, c) := enterAll c lines
    (out ++ outs, c)

/-- Everything that is written for lines that are the whole input. -/
def transcript (c : Console) (lines : List Text) : Text :=
  prompt c.buffer none ++ (c.enterAll lines).1 ++ ['\n']

end Console

end QueryConsole
