import QueryConsole.Sql.Lexer
import QueryConsole.Sql.Script
import QueryConsole.Text.Quoted

/-!
# Dialects

Where a statement ends depends on the dialect. In plain SQL the first terminator ends it. A
scripting dialect also has blocks with terminators of their own, either at the start of the batch
or as the body of a procedure, and quotes text with dollar signs.
-/

namespace QueryConsole.Sql

inductive Dialect where
  | ansi
  | snowflake
deriving DecidableEq, Repr

/-- What is known of a buffer after reading all of it. -/
structure Analysis where
  /-- The offset of the terminator that ends the statement. -/
  terminator? : Option Nat
  /-- The construct that is still open at the end. -/
  unclosed : Option Construct
deriving DecidableEq, Repr

def Analysis.isTerminated (a : Analysis) : Bool := a.terminator?.isSome

/-- Whether a batch begins with a block instead of a statement. -/
def opensBlock : List Token → Bool
  | [] => false
  | t :: ts =>
    match t.keyword? with
    | some .declare => true
    | some .begin => beginsBlock ts
    | _ => false

namespace Dialect

/-- The name by which a dialect is chosen. -/
def name : Dialect → String
  | ansi => "ansi"
  | snowflake => "snowflake"

/-- The name by which a dialect is known. -/
def title : Dialect → String
  | ansi => "ANSI SQL"
  | snowflake => "Snowflake"

/-- The dialect with the given name, ignoring case and blanks around it, or else the name that was
looked for. -/
def ofName (name : Text) : Except Text Dialect :=
  let wanted := Text.asciiLower (Text.trim name)
  match [ansi, snowflake].find? (·.name.toList == wanted) with
  | some d => .ok d
  | none => .error wanted

/-- How text of the dialect is read. -/
def options (d : Dialect) (terminator : Char) : Lexer.Options :=
  { terminator, dollarQuoting := d == snowflake }

/-- The token that ends the first statement of a batch. -/
def terminator? : Dialect → List Token → Option Token
  | ansi, ts => ts.find? Token.isTerminator
  | snowflake, ts =>
    if opensBlock ts then (Script.skip? {} ts).bind statementEnd? else statementEnd? ts

def analyze (d : Dialect) (terminator : Char) (buffer : Text) : Analysis :=
  let (ts, l) := (Lexer.ofText (d.options terminator) buffer).readAll
  { terminator? := (d.terminator? ts).map (·.start), unclosed := l.unclosed }

theorem terminator?_analyze (d : Dialect) (c : Char) (t : Text) :
    (d.analyze c t).terminator? = (d.terminator? (tokens (d.options c) t)).map (·.start) := rfl

end Dialect

end QueryConsole.Sql
