import QueryConsole.Text.Basic
import QueryConsole.Text.Extent

/-!
# Delimited constructs

The pieces of SQL text inside which nothing is looked for, from their opening delimiter to their
closing one. Any of them can be left open at the end of a buffer.
-/

namespace QueryConsole.Sql

/-- A construct that can be left open at the end of a buffer. -/
inductive Construct where
  | stringLiteral
  | quotedIdentifier
  | bracketedIdentifier
  | blockComment
  | hereDocument
deriving DecidableEq, Repr

namespace Construct

def name : Construct → String
  | stringLiteral => "string literal"
  | quotedIdentifier => "quoted identifier"
  | bracketedIdentifier => "bracketed identifier"
  | blockComment => "block comment"
  | hereDocument => "here document"

def opening : Construct → Text
  | stringLiteral => ['\'']
  | quotedIdentifier => ['"']
  | bracketedIdentifier => ['[']
  | blockComment => ['/', '*']
  | hereDocument => ['$', '$']

/-- The delimiter that would close a construct. -/
def closing : Construct → Text
  | stringLiteral => ['\'']
  | quotedIdentifier => ['"']
  | bracketedIdentifier => [']']
  | blockComment => ['*', '/']
  | hereDocument => ['$', '$']

/-- How far a construct reaches in the text behind its opening delimiter. Constructs do not nest,
and a closing quote or bracket that is doubled belongs to the body. -/
def extent : Construct → Text → Extent Char
  | stringLiteral => Extent.toSingle '\''
  | quotedIdentifier => Extent.toSingle '"'
  | bracketedIdentifier => Extent.toSingle ']'
  | blockComment => Extent.toPair '*' '/'
  | hereDocument => Extent.toPair '$' '$'

theorem taken_append_rest_extent (k : Construct) (t : Text) :
    (k.extent t).taken ++ (k.extent t).rest = t := by
  cases k
  all_goals first
    | exact Extent.taken_append_rest_toSingle _ t
    | exact Extent.taken_append_rest_toPair _ _ t

theorem rest_extent_of_open {k : Construct} {t : Text} (h : (k.extent t).closed = false) :
    (k.extent t).rest = [] := by
  cases k
  all_goals first
    | exact Extent.rest_toSingle_of_open h
    | exact Extent.rest_toPair_of_open h

end Construct

end QueryConsole.Sql
