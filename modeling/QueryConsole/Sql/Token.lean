import QueryConsole.Sql.Keyword

/-!
# Tokens of SQL text

The search for the end of a statement needs words, punctuation and terminators. Literals, quoted
identifiers and variables matter only by their presence, so a placeholder stands for each.
-/

namespace QueryConsole.Sql

inductive Placeholder where
  | stringLiteral
  | quotedIdentifier
  | variable
deriving DecidableEq, Repr

/-- The text shown in place of the covered construct. -/
def Placeholder.sentinel : Placeholder → Text
  | stringLiteral => "__STRING_LITERAL__".toList
  | quotedIdentifier => "__QUOTED_IDENTIFIER__".toList
  | .variable => "__VARIABLE__".toList

/-- The class of a token, with what is kept of its text. -/
inductive Token.Kind where
  /-- A keyword or identifier, its case normalised. -/
  | word (text : Text)
  /-- The character that ends a statement. -/
  | terminator (c : Char)
  /-- A literal, quoted identifier or variable. -/
  | placeholder (p : Placeholder)
  /-- Any other character. -/
  | punct (c : Char)
deriving DecidableEq, Repr

/-- A token with the offsets of its first byte and of the byte behind its last. -/
structure Token where
  kind : Token.Kind
  start : Nat
  stop : Nat
deriving DecidableEq, Repr

namespace Token

def Kind.text : Kind → Text
  | word t => t
  | terminator c => [c]
  | placeholder p => p.sentinel
  | punct c => [c]

def word? (t : Token) : Option Text :=
  match t.kind with
  | .word w => some w
  | _ => none

/-- The keyword that a word spells. -/
def keyword? (t : Token) : Option Keyword := t.word?.bind Keyword.ofWord?

/-- Whether the token is the word `w`, ignoring the case of ASCII letters. -/
def isWord (w : Text) (t : Token) : Bool := t.word?.any (Text.sameIgnoringCase w)

/-- Whether the token is a word that spells the keyword `k`. -/
def isKeyword (k : Keyword) (t : Token) : Bool := t.isWord k.spelling

def isTerminator (t : Token) : Bool :=
  match t.kind with
  | .terminator _ => true
  | _ => false

def isPunct (c : Char) (t : Token) : Bool := t.kind == .punct c

theorem isKeyword_iff {t : Token} {k : Keyword} : t.isKeyword k = true ↔ t.keyword? = some k := by
  unfold isKeyword isWord keyword?
  cases t.word? with
  | none => simp
  | some w =>
    simp [Text.sameIgnoringCase, Keyword.asciiUpper_spelling, Keyword.ofWord?_eq_some_iff]

theorem isKeyword_eq_decide {t : Token} {k l : Keyword} (h : t.keyword? = some k) :
    t.isKeyword l = decide (k = l) := by
  rw [Bool.eq_iff_iff, isKeyword_iff, h, Option.some.injEq, decide_eq_true_iff]

theorem keyword?_of_isTerminator {t : Token} (h : t.isTerminator = true) : t.keyword? = none := by
  cases hk : t.kind <;> simp_all [isTerminator, keyword?, word?]

theorem keyword?_of_isPunct {t : Token} {c : Char} (h : t.isPunct c = true) : t.keyword? = none := by
  cases hk : t.kind <;> simp_all [isPunct, keyword?, word?]

theorem isTerminator_of_keyword? {t : Token} {k : Keyword} (h : t.keyword? = some k) :
    t.isTerminator = false := by
  rw [Bool.eq_false_iff]
  intro ht
  simp [keyword?_of_isTerminator ht] at h

theorem isKeyword_of_isTerminator {t : Token} (h : t.isTerminator = true) (k : Keyword) :
    t.isKeyword k = false := by
  rw [Bool.eq_false_iff, Ne, isKeyword_iff, keyword?_of_isTerminator h]
  simp

theorem isPunct_of_isTerminator {t : Token} (h : t.isTerminator = true) (c : Char) :
    t.isPunct c = false := by
  cases hk : t.kind <;> simp_all [isTerminator, isPunct]

def size (t : Token) : Nat := t.stop - t.start

def isEmpty (t : Token) : Bool := t.start == t.stop

end Token

end QueryConsole.Sql
