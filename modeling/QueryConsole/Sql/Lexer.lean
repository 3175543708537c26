import QueryConsole.Sql.Lexeme
import QueryConsole.Text.Cursor

/-!
# The lexer

A lexer reads the tokens of a SQL text one by one. Tokens can be pushed back, and come out again
before anything further is read. Reading never fails: a construct that is still open at the end of
the text is remembered until the lexer is given another text.
-/

namespace QueryConsole.Sql

/-- A lexer in the middle of a text. -/
structure Lexer where
  options : Lexer.Options
  /-- The text not read yet. -/
  cursor : Cursor
  /-- Tokens pushed back, the next one first. -/
  pushed : List Token := []
  /-- The construct found open at the end of the text. -/
  unclosed : Option Construct := none
deriving DecidableEq, Repr

namespace Lexer

def ofText (o : Options) (t : Text) : Lexer := { options := o, cursor := Cursor.ofText t }

/-- The lexer at the start of another text, with the same options. -/
def reset (l : Lexer) (t : Text) : Lexer := ofText l.options t

/-- Pushes a token back; it is the next one returned. -/
def unget (t : Token) (l : Lexer) : Lexer := { l with pushed := t :: l.pushed }

/-- The lexer behind a lexeme that was read at its cursor. -/
def pass (l : Lexer) (x : Lexeme) (rest : Text) : Lexer :=
  { l with cursor := l.cursor.advance x.text rest, unclosed := x.openIn.or l.unclosed }

/-- Reads lexemes up to and including the next one that yields a token. -/
def scan (l : Lexer) : Option Token × Lexer :=
  match _h : l.cursor.rest with
  | [] => (none, l)
  | c :: t =>
    let x := Lexeme.read l.options c t
    let l' := l.pass x.1 x.2
    match x.1.kind? with
    | none => scan l'
    | some k => (some ⟨k, l.cursor.offset, l'.cursor.offset⟩, l')
termination_by l.cursor.rest.length
decreasing_by
  rw [_h]
  exact Lexeme.length_rest_lt l.options c t

/-- The next token, with the lexer behind it. -/
def next (l : Lexer) : Option Token × Lexer :=
  match l.pushed with
  | t :: ts => (some t, { l with pushed := ts })
  | [] => scan l

/-- The next token, with a lexer that still has it ahead. -/
def peek (l : Lexer) : Option Token × Lexer :=
  match l.next with
  | (some t, l') => (some t, l'.unget t)
  | (none, l') => (none, l')

/-- Reads the words `ws` in order, all or none of them. On a mismatch everything read is pushed
back. -/
def skipWords : List Text → Lexer → Bool × Lexer
  | [], l => (true, l)
  | w :: ws, l =>
    match l.next with
    | (none, l') => (false, l')
    | (some t, l') =>
      if t.isWord w then
        match skipWords ws l' with
        | (true, l'') => (true, l'')
        | (false, l'') => (false, l''.unget t)
      else (false, l'.unget t)

/-- The number of tokens pushed back and characters not read, which bounds the number of reads. -/
def remaining (l : Lexer) : Nat := l.pushed.length + l.cursor.rest.length

@[simp] theorem pushed_pass (l : Lexer) (x : Lexeme) (rest : Text) :
    (l.pass x rest).pushed = l.pushed := rfl

@[simp] theorem rest_pass (l : Lexer) (x : Lexeme) (rest : Text) :
    (l.pass x rest).cursor.rest = rest := rfl

theorem pushed_scan (l : Lexer) : l.scan.2.pushed = l.pushed := by
  fun_induction scan l with
  | case1 => rfl
  | case2 l c t h x l' hk ih => exact ih
  | case3 => rfl

theorem length_rest_scan_lt {l : Lexer} {t : Token} (h : l.scan.1 = some t) :
    l.scan.2.cursor.rest.length < l.cursor.rest.length := by
  fun_induction scan l with
  | case1 l hr => simp at h
  | case2 l c r hr x l' hk ih =>
    have := Lexeme.length_rest_lt l.options c r
    simp only [hr]
    exact Nat.lt_trans (ih h) this
  | case3 l c r hr x l' k hk =>
    simp only [hr]
    exact Lexeme.length_rest_lt l.options c r

theorem remaining_next_lt {l : Lexer} {t : Token} (h : l.next.1 = some t) :
    l.next.2.remaining < l.remaining := by
  unfold next at h ⊢
  split <;> simp_all [remaining, pushed_scan, length_rest_scan_lt]

/-- All tokens still ahead, with the lexer at the end of its text. -/
def readAll (l : Lexer) : List Token × Lexer :=
  match _h : l.next with
  | (none, l') => ([], l')
  | (some t, l') =>
    let (ts, l'') := readAll l'
    (t :: ts, l'')
termination_by l.remaining
decreasing_by
  have := remaining_next_lt (l := l) (t := t) (by rw [_h])
  rwa [_h] at this

def toList (l : Lexer) : List Token := l.readAll.1

def drain (l : Lexer) : Lexer := l.readAll.2

end Lexer

def tokens (o : Lexer.Options) (t : Text) : List Token := (Lexer.ofText o t).toList

end QueryConsole.Sql
