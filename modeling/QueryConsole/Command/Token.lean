import QueryConsole.Text.Basic

/-!
# Tokens of a command line

A command line holds words, redirections of its output, at most one pipe and at most one
terminator. Redirections go to files, to other descriptors or to other sessions.
-/

namespace QueryConsole.Command

/-- A file descriptor that is written as one digit. -/
abbrev Fd := Fin 10

/-- The descriptor that is redirected when none is named. -/
def Fd.stdout : Fd := ⟨1, by decide⟩

def Fd.ofNat? (n : Nat) : Option Fd := if h : n < 10 then some ⟨n, h⟩ else none

inductive Token.Kind where
  /-- A word, its quotes and escapes resolved. -/
  | word (text : Text)
  /-- The end of the command line. -/
  | terminator (c : Char)
  /-- A pipe, with the command behind it unread. -/
  | pipe (command : Text)
  /-- Output of a descriptor to a file. -/
  | redirect (fd : Fd) (target : Text) (append : Bool)
  /-- A descriptor made to follow another. -/
  | duplicate (old : Fd) (new : UInt32)
  /-- Output to a session, the current one if it has no number. -/
  | session (id : Option UInt32) (append : Bool)
deriving DecidableEq, Repr

/-- A token, with the line that it was read from and its offset there. A token that was not read
has neither. -/
structure Token where
  kind : Token.Kind
  position : Option Nat := none
  line : Text := []
deriving DecidableEq, Repr

namespace Token

def Kind.word? : Kind → Option Text
  | word t => some t
  | _ => none

def Kind.isTerminator : Kind → Bool
  | terminator _ => true
  | _ => false

end Token

end QueryConsole.Command
