import QueryConsole.Command.Word

/-!
# Tokens before resolution

What a token is, where it ends and whether it is well formed is decided without regard to
variables. A raw token holds its words as segments; resolving it gives the token. The one thing
that can go wrong then is that the target of a redirection turns out to be empty.
-/

namespace QueryConsole.Command

/-- A token whose words are still segments. -/
inductive RawToken where
  | word (w : List Segment)
  | terminator (c : Char)
  | pipe (command : Text)
  /-- A redirection to the file whose name begins at the offset `place`, if it has a name. -/
  | redirect (fd : Fd) (target : List Segment) (append : Bool) (place : Nat)
  | duplicate (old : Fd) (new : UInt32)
  | session (id : Option UInt32) (append : Bool)
deriving DecidableEq, Repr

/-- Resolves the words of a token. -/
def RawToken.resolve (o : Options) : RawToken → Except Fault Token.Kind
  | word w => .ok (.word (w.flatMap (Segment.resolve o o.keepDoubleQuotes)))
  | terminator c => .ok (.terminator c)
  | pipe command => .ok (.pipe command)
  | redirect fd target append place =>
    -- a file name never keeps its quotes
    match target.flatMap (Segment.resolve o false) with
    | [] => .error ⟨.noTarget, place⟩
    | name => .ok (.redirect fd name append)
  | duplicate old new => .ok (.duplicate old new)
  | session id append => .ok (.session id append)

/-- The value of a row of decimal digits. -/
def ofDigits (ds : Text) : Nat := ds.foldl (fun n d => 10 * n + (d.toNat - '0'.toNat)) 0

/-- Reads the digits at the cursor as a number of 32 bits. -/
def readNumber (what : Numbered) (k : Cursor) : Reading UInt32 :=
  let n := ofDigits (k.rest.takeWhile Char.isDigit)
  if n < UInt32.size then .ok (.ofNat n, k.skipWhile Char.isDigit)
  else fail (.outOfRange what) k.offset (k.skipWhile Char.isDigit)

def digitNext (k : Cursor) : Bool := k.rest.head?.any Char.isDigit

/-- The cursor behind the character `c`, if it is at the cursor. -/
def skipChar? (c : Char) (k : Cursor) : Option Cursor :=
  match k.rest with
  | [] => none
  | d :: t => if d = c then some (k.advance [c] t) else none

/-- Reads what follows the `>&` of a redirection. -/
def readDuplicate (fd : Option Fd) (k : Cursor) : Reading RawToken :=
  let k := k.skipBlanks
  if digitNext k then (readNumber .descriptor k).map (.duplicate (fd.getD Fd.stdout))
  else fail .noDescriptor k.offset k

/-- Reads what follows the `>+` or `>>+` of a redirection whose arrow is at the offset `arrow`. The
session with number zero is the current one. -/
def readSession (fd : Option Fd) (append : Bool) (arrow : Nat) (k : Cursor) : Reading RawToken :=
  if fd.isSome then fail .sessionDescriptor arrow k
  else if digitNext k then
    (readNumber .session k).map fun n => .session (if n = 0 then none else some n) append
  else .ok (.session none append, k)

/-- Reads the target of a redirection to a file. -/
def readTarget (terminator : Option Char) (fd : Option Fd) (append : Bool) (k : Cursor) :
    Reading RawToken :=
  let k := k.skipBlanks
  -- a backslash that is the terminator begins no name
  (readSegments terminator false k).map fun w =>
    .redirect (fd.getD Fd.stdout) w append k.offset

/-- Reads a redirection from the `>` of its arrow on, when `k` is the cursor behind that. -/
def readRedirect (terminator : Option Char) (fd : Option Fd) (arrow : Nat) (k : Cursor) :
    Reading RawToken :=
  match skipChar? '>' k with
  | some k =>
    match skipChar? '+' k with
    | some k => readSession fd true arrow k
    | none => readTarget terminator fd true k
  | none =>
    match skipChar? '&' k, skipChar? '+' k with
    | some k, _ => readDuplicate fd k
    | none, some k => readSession fd false arrow k
    | none, none => readTarget terminator fd false k

def readPipe (k : Cursor) : Reading RawToken :=
  let k := k.skipBlanks
  if k.rest.isEmpty then fail .noCommand k.offset k else .ok (.pipe k.rest, k.finish)

/-- Reads the token that begins with the character `c` before the text `t`. `first` says whether it
is the first token of its line. -/
def readToken (o : Options) (first : Bool) (k : Cursor) (c : Char) (t : Text) : Reading RawToken :=
  let behind := k.advance [c] t
  if o.terminator = some c then .ok (.terminator c, behind)
  else if c = '>' then readRedirect o.terminator none k.offset behind
  else if c = '|' then readPipe behind
  else
    -- a digit directly before an arrow is a descriptor
    match if c.isDigit then skipChar? '>' behind else none with
    | some k' =>
      readRedirect o.terminator (Fd.ofNat? (c.toNat - '0'.toNat)) behind.offset k'
    | none =>
      match readWord o first k with
      | .ok ([], _) => fail (.unexpected k.rest.head?) k.offset k
      | r => r.map .word

end QueryConsole.Command
