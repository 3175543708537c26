import QueryConsole.Sql.Construct
import QueryConsole.Text.Identifier

/-!
# Skipping one construct

The reach of a single construct that begins at a given byte offset of a text. Quotes and brackets
are looked for byte by byte; the others read characters, so they have no answer where the place at
which they would begin to read is beyond the text or inside a character.
-/

namespace QueryConsole.Sql

structure Reach where
  /-- The offset behind the construct, or the length of the text if it is not closed. -/
  stop : Nat
  closed : Bool
deriving DecidableEq, Repr

namespace Reach

/-- The reach of a quoted construct. The byte at `start` is its delimiter. -/
def ofQuoted? (t : Text) (start : Nat) : Option Reach :=
  match (Text.bytes t).drop start with
  | [] => none
  | q :: body =>
    let e := Extent.toSingle q body
    some ⟨start + 1 + e.taken.length, e.closed⟩

def ofBracketed (t : Text) (start : Nat) : Reach :=
  let e := Extent.toSingle ']'.toUInt8 ((Text.bytes t).drop (start + 1))
  ⟨if e.closed then start + 1 + e.taken.length else Text.size t, e.closed⟩

/-- The reach of a line comment, which ends before the newline. -/
def ofLineComment? (t : Text) (start : Nat) : Option Reach :=
  (Text.drop? start t).map fun body => ⟨start + Text.size (body.takeWhile (· != '\n')), true⟩

/-- The reach of a construct whose opening delimiter has two characters. -/
def ofPair? (k : Construct) (t : Text) (start : Nat) : Option Reach :=
  (Text.drop? (start + 2) t).map fun body =>
    let e := k.extent body
    ⟨start + 2 + Text.size e.taken, e.closed⟩

def ofBlockComment? : Text → Nat → Option Reach := ofPair? .blockComment

def ofHereDocument? : Text → Nat → Option Reach := ofPair? .hereDocument

/-- The reach of a variable: its sigil, which counts as one byte where no character begins, and the
identifier behind it. -/
def ofVariable? (t : Text) (start : Nat) : Option Reach :=
  let sigil := match (Text.drop? start t).bind List.head? with
    | some c => c.utf8Size
    | none => 1
  (Text.drop? (start + sigil) t).map fun body =>
    ⟨start + sigil + Text.size (body.takeWhile Text.isIdentifierChar), true⟩

end Reach

end QueryConsole.Sql
