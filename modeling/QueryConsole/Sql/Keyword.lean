import QueryConsole.Text.Casing

/-!
# Keywords

The words that open or close a scripting block, or lead up to one in the header of a procedure.
Every other word is an ordinary one. Keywords are recognised ignoring the case of ASCII letters.
-/

namespace QueryConsole.Sql

/-- A word that matters to the search for the end of a statement. -/
inductive Keyword where
  | as | begin | case | create | declare | do | end | execute | for | function | if | language
  | loop | name | or | procedure | repeat | replace | secure | sql | temp | temporary
  | transaction | when | while | work
deriving DecidableEq, Repr

namespace Keyword

def all : List Keyword :=
  [as, begin, case, create, declare, .do, .end, execute, .for, function, .if, language, loop, name,
    or, procedure, .repeat, replace, secure, sql, temp, temporary, transaction, when, .while, work]

def spelling : Keyword → Text
  | as => "AS".toList
  | begin => "BEGIN".toList
  | case => "CASE".toList
  | create => "CREATE".toList
  | declare => "DECLARE".toList
  | .do => "DO".toList
  | .end => "END".toList
  | execute => "EXECUTE".toList
  | .for => "FOR".toList
  | function => "FUNCTION".toList
  | .if => "IF".toList
  | language => "LANGUAGE".toList
  | loop => "LOOP".toList
  | name => "NAME".toList
  | or => "OR".toList
  | procedure => "PROCEDURE".toList
  | .repeat => "REPEAT".toList
  | replace => "REPLACE".toList
  | secure => "SECURE".toList
  | sql => "SQL".toList
  | temp => "TEMP".toList
  | temporary => "TEMPORARY".toList
  | transaction => "TRANSACTION".toList
  | when => "WHEN".toList
  | .while => "WHILE".toList
  | work => "WORK".toList

/-- The keyword that a word spells, ignoring the case of ASCII letters. -/
def ofWord? (word : Text) : Option Keyword :=
  let upper := Text.asciiUpper word
  all.find? (·.spelling == upper)

/-- A keyword is recognised by its spelling. -/
theorem ofWord?_spelling (k : Keyword) : ofWord? k.spelling = some k := by
  cases k <;> decide +kernel

theorem asciiUpper_spelling (k : Keyword) : Text.asciiUpper k.spelling = k.spelling := by
  cases k <;> decide +kernel

theorem ofWord?_eq_some_iff {word : Text} {k : Keyword} :
    ofWord? word = some k ↔ k.spelling = Text.asciiUpper word := by
  constructor
  · intro h
    have hfound := List.find?_some h
    exact eq_of_beq hfound
  · intro h
    rw [← ofWord?_spelling k, ofWord?, ofWord?, asciiUpper_spelling, h]

/-- Whether the keyword makes a preceding `BEGIN` the start of a transaction and not of a block. -/
def beginsTransaction (k : Keyword) : Bool := k ∈ [transaction, work, name]

end Keyword

end QueryConsole.Sql
