import QueryConsole.Command.Scanner
import QueryConsole.Verdict

/-!
# Settings

The settings of a session come from the environment. They hold the texts that were given for the
terminator and the dialect; whether those make sense is found out where they are needed.
-/

namespace QueryConsole

/-- A setting that is either on or off. -/
inductive Flag where
  | multiLine
  | keepDoubleQuotes
  | keepInitialEscape
deriving DecidableEq, Repr

namespace Flag

def name : Flag → String
  | multiLine => "multi_line"
  | keepDoubleQuotes => "retain_double_quotes"
  | keepInitialEscape => "retain_initial_escape"

def source : Flag → String
  | multiLine => "SQLSH_MULTI_LINE"
  | keepDoubleQuotes => "SQLSH_RETAIN_DOUBLE_QUOTES"
  | keepInitialEscape => "SQLSH_RETAIN_INITIAL_ESCAPE"

end Flag

/-- Why settings cannot be used. -/
inductive SettingsError where
  /-- The terminator is not a single character, or is a blank. -/
  | badTerminator (given : Text)
  /-- There is no dialect of this name. -/
  | unknownDialect (name : Text)
  /-- The value of a flag is neither on nor off. -/
  | badFlag (flag : Flag) (value : Text)
deriving DecidableEq, Repr

def SettingsError.message : SettingsError → Text
  | badTerminator given =>
    "terminator must be a single non-whitespace character, got ".toList ++ Text.quoted given
  | unknownDialect name =>
    "unknown analyzer ".toList ++ Text.quoted name ++ ", expected ansi or snowflake".toList
  | badFlag flag value =>
    s!"failed to deserialize value `Config::{flag.name}` from environment variable ".toList ++
      s!"`{flag.source}`: invalid value for bool: '".toList ++ value ++ ['\'']

/-- The settings of a session. -/
structure Settings where
  /-- The text given for the terminator. -/
  terminator : Text := [';']
  /-- Whether a statement may span several lines. -/
  multiLine : Bool := true
  /-- The name given for the dialect. -/
  dialect : Text := "ansi".toList
  /-- Whether words keep the marks of their double quotations. -/
  keepDoubleQuotes : Bool := false
  /-- Whether a command keeps the backslash before its name. -/
  keepInitialEscape : Bool := true
deriving DecidableEq, Repr

/-- Reads a flag, ignoring case and blanks around it. -/
def Flag.parse? (value : Text) : Option Bool :=
  let word := Text.asciiLower (Text.trim value)
  if ["1".toList, "true".toList, "yes".toList].contains word then some true
  else if ["0".toList, "false".toList, "no".toList].contains word then some false
  else none

/-- The value of a flag in an environment. An empty value counts as none. -/
def Flag.ofEnvironment (flag : Flag) (fallback : Bool) (env : Command.Environment) :
    Except SettingsError Bool :=
  match (env.get? flag.source.toList).filter (!·.isEmpty) with
  | none => .ok fallback
  | some value =>
    match Flag.parse? value with
    | some b => .ok b
    | none => .error (.badFlag flag (Text.trim value))

namespace Settings

/-- The terminator, which must be one character and no blank. -/
def terminatorChar (s : Settings) : Except SettingsError Char :=
  match s.terminator with
  | [c] => if Text.isBlank c then .error (.badTerminator s.terminator) else .ok c
  | _ => .error (.badTerminator s.terminator)

/-- The dialect that the settings name. -/
def chosenDialect (s : Settings) : Except SettingsError Sql.Dialect :=
  (Sql.Dialect.ofName s.dialect).mapError .unknownDialect

/-- How input is judged under the settings. -/
def detector (s : Settings) : Except SettingsError Detector := do
  let terminator ← s.terminatorChar
  let dialect ← s.chosenDialect
  return { terminator, multiLine := s.multiLine, dialect }

/-- How command lines are read under the settings. -/
def lineOptions (s : Settings) : Except SettingsError Command.Options := do
  let terminator ← s.terminatorChar
  return { terminator := some terminator, keepDoubleQuotes := s.keepDoubleQuotes,
           keepInitialEscape := s.keepInitialEscape }

/-- The settings that an environment asks for, which must be usable. -/
def ofEnvironment (env : Command.Environment) : Except SettingsError Settings := do
  let standard : Settings := {}
  let terminator := (env.get? "SQLSH_TERMINATOR".toList).getD standard.terminator
  let multiLine ← Flag.multiLine.ofEnvironment standard.multiLine env
  let dialect := (env.get? "SQLSH_ANALYZER".toList).getD standard.dialect
  let keepDoubleQuotes ← Flag.keepDoubleQuotes.ofEnvironment standard.keepDoubleQuotes env
  let keepInitialEscape ← Flag.keepInitialEscape.ofEnvironment standard.keepInitialEscape env
  let s : Settings := { terminator, multiLine, dialect, keepDoubleQuotes, keepInitialEscape }
  let _ ← s.terminatorChar
  let _ ← s.chosenDialect
  return s

end Settings

end QueryConsole
