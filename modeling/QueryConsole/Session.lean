import QueryConsole.Console

/-!
# Sessions

A session reads bytes and writes text. Its lines end with a newline, before which a carriage
return is dropped; the last line may lack it. A line is decoded when its turn comes, so what was
written before a line that is not UTF-8 stays written.
-/

namespace QueryConsole

/-- Why a session ends early, or does not begin. -/
inductive SessionError where
  /-- A command line cannot be read. -/
  | badLine (d : Command.Diagnostic)
  /-- The input is not UTF-8. -/
  | badEncoding
  /-- The settings cannot be used. -/
  | badSettings (e : SettingsError)
deriving DecidableEq, Repr

def SessionError.message : SessionError → Text
  | badLine d => "Syntax error: ".toList ++ d.text
  | badEncoding => "I/O error: stream did not contain valid UTF-8".toList
  | badSettings e => "Configuration error: ".toList ++ e.message

namespace Session

/-- A line whose bytes are given in reverse, without the carriage return at its end. -/
def closeLine : List UInt8 → List UInt8
  | 13 :: line => line.reverse
  | line => line.reverse

/-- The lines of the input behind the bytes `line`, which are given in reverse. -/
def linesFrom (line : List UInt8) : List UInt8 → List (List UInt8)
  | [] => if line.isEmpty then [] else [line.reverse]
  | b :: bytes => if b = 10 then closeLine line :: linesFrom [] bytes else linesFrom (b :: line) bytes

def lines (bytes : List UInt8) : List (List UInt8) := linesFrom [] bytes

/-- The text that is written in UTF-8 as the given bytes. -/
def decode? (bytes : List UInt8) : Option Text :=
  (String.fromUTF8? ⟨bytes.toArray⟩).map String.toList

/-- The texts of the lines before the first that is not UTF-8, and whether there is no such line. -/
def decodeAll : List (List UInt8) → List Text × Bool
  | [] => ([], true)
  | line :: lines =>
    match decode? line with
    | none => ([], false)
    | some t =>
      let (ts, all) := decodeAll lines
      (t :: ts, all)

/-- What a console writes for an input, and the error that ends it early, if any. -/
def run (c : Console) (bytes : List UInt8) : Text × Option SessionError :=
  let (ts, all) := decodeAll (lines bytes)
  if all then (c.transcript ts, none)
  else (Console.prompt c.buffer none ++ (c.enterAll ts).1, some .badEncoding)

/-- A variable of an environment, given as `name=value` in UTF-8. -/
def ofEntry? (entry : List UInt8) : Option (Text × Text) := do
  let t ← decode? entry
  let value ← (t.dropWhile (· != '=')).tail?
  return (t.takeWhile (· != '='), value)

/-- The console that an environment asks for. -/
def console (env : Command.Environment) : Except SessionError Console :=
  ((Settings.ofEnvironment env).bind fun s => Console.ofSettings s env).mapError .badSettings

end Session

end QueryConsole
