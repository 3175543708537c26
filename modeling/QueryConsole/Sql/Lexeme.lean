import QueryConsole.Sql.Construct
import QueryConsole.Sql.Token
import QueryConsole.Text.Blank
import QueryConsole.Text.Identifier

/-!
# Lexemes

SQL text is a sequence of lexemes: blanks and comments, which yield nothing, and the pieces that
become tokens. What a lexeme is depends on its first character and the one behind it; how far it
reaches depends on its kind. The terminator is recognised first, even where it is a blank, a
quote or a character of identifiers.
-/

namespace QueryConsole.Sql

inductive LetterCase where
  | upper
  | lower
  | preserve
deriving DecidableEq, Repr

def LetterCase.apply : LetterCase → Text → Text
  | upper => Text.toUpper
  | lower => Text.toLower
  | preserve => id

structure Lexer.Options where
  /-- The character that ends a statement. -/
  terminator : Char
  /-- The case in which words are returned. -/
  letterCase : LetterCase := .upper
  /-- Whether `$name` is a variable and `$$` begins a here document. -/
  dollarQuoting : Bool := false
deriving DecidableEq, Repr

/-- What begins at a character. -/
inductive Opening where
  | terminator
  | blank
  | lineComment
  | construct (k : Construct)
  | variable
  | punct
  | word
deriving DecidableEq, Repr

/-- What begins at the character `c`, when `next` follows it. -/
def Opening.at (o : Lexer.Options) (c : Char) (next : Option Char) : Opening :=
  if c = o.terminator then .terminator
  else if Text.isBlank c then .blank
  else if c = '-' ∧ next = some '-' then .lineComment
  else if c = '/' ∧ next = some '*' then .construct .blockComment
  else if c = '\'' then .construct .stringLiteral
  else if c = '"' then .construct .quotedIdentifier
  else if c = '[' then .construct .bracketedIdentifier
  else if c = '@' then .variable
  else if c = '$' ∧ o.dollarQuoting then
    if next = some '$' then .construct .hereDocument else .variable
  else if Text.isIdentifierChar c then .word
  else .punct

/-- The token kind that a construct yields, if any. -/
def Construct.kind? : Construct → Option Token.Kind
  | stringLiteral => some (.placeholder .stringLiteral)
  | quotedIdentifier => some (.placeholder .quotedIdentifier)
  | bracketedIdentifier => some (.placeholder .quotedIdentifier)
  | blockComment => none
  | hereDocument => some (.placeholder .stringLiteral)

/-- A piece of SQL text that is read at once. -/
structure Lexeme where
  /-- The text that it covers. -/
  text : Text
  /-- The token that it yields, or nothing for blanks and comments. -/
  kind? : Option Token.Kind
  /-- The construct that it leaves open at the end of the text. -/
  openIn : Option Construct := none
deriving DecidableEq, Repr

namespace Lexeme

/-- Reads the lexeme that begins with the character `c` before the text `t`, and returns the text
behind it. -/
def read (o : Lexer.Options) (c : Char) (t : Text) : Lexeme × Text :=
  match Opening.at o c t.head? with
  | .terminator => (⟨[c], some (.terminator c), none⟩, t)
  | .blank => (⟨[c], none, none⟩, t)
  | .lineComment => (⟨c :: t.takeWhile (· != '\n'), none, none⟩, t.dropWhile (· != '\n'))
  | .construct k =>
    -- the rest of the opening delimiter is skipped before the closing one is looked for
    let tail := k.opening.length - 1
    let e := k.extent (t.drop tail)
    (⟨c :: t.take tail ++ e.taken, k.kind?, if e.closed then none else some k⟩, e.rest)
  | .variable =>
    (⟨c :: t.takeWhile Text.isIdentifierChar, some (.placeholder .variable), none⟩,
      t.dropWhile Text.isIdentifierChar)
  | .punct => (⟨[c], some (.punct c), none⟩, t)
  | .word =>
    let continues := fun d => Text.isIdentifierChar d && d != o.terminator
    let w := c :: t.takeWhile continues
    (⟨w, some (.word (o.letterCase.apply w)), none⟩, t.dropWhile continues)

/-- A lexeme and the text behind it make up the text that was read. -/
theorem text_append_rest (o : Lexer.Options) (c : Char) (t : Text) :
    (read o c t).1.text ++ (read o c t).2 = c :: t := by
  unfold read
  split <;> simp [List.takeWhile_append_dropWhile, Construct.taken_append_rest_extent]

/-- A lexeme covers at least its first character. -/
theorem length_rest_lt (o : Lexer.Options) (c : Char) (t : Text) :
    (read o c t).2.length < (c :: t).length := by
  have h := congrArg List.length (text_append_rest o c t)
  have hpos : 0 < (read o c t).1.text.length := by
    unfold read
    split <;> simp
  simp only [List.length_append] at h
  omega

/-- A construct is left open only by the last lexeme. -/
theorem rest_of_openIn {o : Lexer.Options} {c : Char} {t : Text} {k : Construct}
    (h : (read o c t).1.openIn = some k) : (read o c t).2 = [] := by
  revert h
  unfold read
  split <;> simp
  intro hopen _
  exact Construct.rest_extent_of_open hopen

end Lexeme

end QueryConsole.Sql
