import QueryConsole.Session

/-!
# Command line

Runs a console over standard input and output. Each prompt is flushed before a line is waited for,
and an input that is not UTF-8 ends the run with an error.
-/

namespace QueryConsole.Main

/-- The environment of the process, as the system lists it. -/
def environment : IO Command.Environment := do
  let block ← try IO.FS.readBinFile "/proc/self/environ" catch _ => pure ByteArray.empty
  return (block.toList.splitOn 0).filterMap Session.ofEntry?

/-- Writes a text and flushes it. -/
def write (output : IO.FS.Stream) (t : Text) : IO Unit := do
  output.putStr (String.ofList t)
  output.flush

/-- The next line of the input behind the bytes `line`, given in reverse, or nothing at its end. -/
partial def readLine (input : IO.FS.Stream) (line : List UInt8) : IO (Option (List UInt8)) := do
  match (← input.read 1).toList with
  | [] => return if line.isEmpty then none else some line.reverse
  | b :: _ => if b = 10 then return some (Session.closeLine line) else readLine input (b :: line)

/-- Takes lines until the input ends. -/
partial def serve (input output : IO.FS.Stream) (c : Console) : IO (Option SessionError) := do
  match ← readLine input [] with
  | none =>
    write output ['\n']
    return none
  | some line =>
    match Session.decode? line with
    | none => return some .badEncoding
    | some t =>
      let (out, c) := c.enter t
      write output out
      serve input output c

end QueryConsole.Main

open QueryConsole in
/-- Runs a console with the settings of the environment. -/
def main : IO UInt32 := do
  let env ← Main.environment
  let error ← match Session.console env with
    | .error e => pure (some e)
    | .ok c => do
      let output ← IO.getStdout
      Main.write output (Console.prompt c.buffer none)
      Main.serve (← IO.getStdin) output c
  match error with
  | none => return 0
  | some e =>
    IO.eprintln (String.ofList e.message)
    return 1
