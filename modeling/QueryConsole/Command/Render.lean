import QueryConsole.Command.Token
import QueryConsole.Text.Extent
import QueryConsole.Text.Identifier

/-!
# Writing command lines

Tokens are written so that reading them again gives the same tokens. Words are quoted unless all
their characters are plain, and a target that begins like a session redirection is quoted as well.
-/

namespace QueryConsole.Command

/-- Whether a character can stand in a word without quotes. -/
def isPlain (c : Char) : Bool :=
  Text.isAlphanumeric c || "_-./:,@%+=*?!#~^()[]\x7b\x7d".toList.contains c

/-- A text between single quotes, the quotes inside it doubled. -/
def singleQuoted (t : Text) : Text := '\'' :: Extent.double '\'' t ++ ['\'']

def quoteWord (t : Text) : Text := if !t.isEmpty && t.all isPlain then t else singleQuoted t

/-- The target of a redirection as it is written. -/
def quoteTarget (t : Text) : Text := if t.head? = some '+' then singleQuoted t else quoteWord t

def digits (n : Nat) : Text := Nat.toDigits 10 n

def arrow (append : Bool) : Text := if append then ['>', '>'] else ['>']

/-- A token as it is written. -/
def Token.Kind.render : Token.Kind → Text
  | word t => quoteWord t
  | terminator c => [c]
  | pipe command => '|' :: ' ' :: command
  | redirect fd target append => digits fd ++ arrow append ++ quoteTarget target
  | duplicate old new => digits old ++ ['>', '&'] ++ digits new.toNat
  | session id append => arrow append ++ '+' :: (id.map fun n => digits n.toNat).getD []

/-- Tokens as they are written, with single spaces between them. -/
def render (kinds : List Token.Kind) : Text := [' '].intercalate (kinds.map Token.Kind.render)

end QueryConsole.Command
