import QueryConsole.Command.TokenForm

/-!
# Reading command lines

A scanner reads the tokens of one line in order. It stops for good at the end of the line, behind
a terminator, and at the first fault, with its cursor at what it has not read.
-/

namespace QueryConsole.Command

/-- A scanner in the middle of a line. -/
structure Scanner where
  options : Options
  line : Text
  /-- The text not read yet. -/
  cursor : Cursor
  /-- Whether a token has been read. -/
  started : Bool := false
  /-- Whether nothing further will be read. -/
  finished : Bool := false

namespace Scanner

def ofLine (o : Options) (line : Text) : Scanner :=
  { options := o, line, cursor := Cursor.ofText line }

def stopAt (s : Scanner) (k : Cursor) : Scanner := { s with cursor := k, finished := true }

/-- The next token or the fault in its place, with the scanner behind it. -/
def next (s : Scanner) : Option (Except Diagnostic Token) × Scanner :=
  if s.finished then (none, s)
  else
    let k := s.cursor.skipBlanks
    match k.rest with
    | [] => (none, s.stopAt k)
    | c :: t =>
      match readToken s.options (!s.started) k c t with
      | .error e => (some (.error (e.fault.diagnose s.line)), s.stopAt e.cursor)
      | .ok (raw, k') =>
        match raw.resolve s.options with
        | .error f => (some (.error (f.diagnose s.line)), s.stopAt k')
        | .ok kind =>
          (some (.ok { kind, position := some k.offset, line := s.line }),
            { s with cursor := k', started := true, finished := kind.isTerminator })

theorem length_rest_next_lt {s : Scanner} {t : Token} (h : s.next.1 = some (.ok t)) :
    s.next.2.cursor.rest.length < s.cursor.rest.length := by
  have hskip := (Cursor.Reaches.skipBlanks s.cursor).length_le
  unfold next at h ⊢
  split at h
  · cases h
  · next hf =>
    rw [if_neg hf]
    dsimp only at h ⊢
    split at h
    · cases h
    · next c r hr =>
      split at h
      · cases h
      · next raw k' hraw =>
        split at h
        · cases h
        · exact Nat.lt_of_lt_of_le (length_rest_lt_of_readToken hr hraw) hskip

/-- What a scanner makes of the rest of its line: the tokens, the fault that stopped it, if any,
and the stopped scanner. -/
structure Outcome where
  tokens : List Token
  fault : Option Diagnostic
  scanner : Scanner

def run (s : Scanner) : Outcome :=
  match _h : s.next with
  | (none, s') => ⟨[], none, s'⟩
  | (some (.error d), s') => ⟨[], some d, s'⟩
  | (some (.ok t), s') =>
    let r := run s'
    { r with tokens := t :: r.tokens }
termination_by s.cursor.rest.length
decreasing_by
  have := length_rest_next_lt (s := s) (t := t) (by rw [_h])
  rwa [_h] at this

end Scanner

/-- The tokens of a command line, or the first fault in it. -/
def tokenize (o : Options) (line : Text) : Except Diagnostic (List Token) :=
  let r := (Scanner.ofLine o line).run
  match r.fault with
  | some d => .error d
  | none => .ok r.tokens

theorem fault_of_tokenize_eq_error {o : Options} {line : Text} {d : Diagnostic}
    (h : tokenize o line = .error d) : (Scanner.ofLine o line).run.fault = some d := by
  unfold tokenize at h
  dsimp only at h
  split at h
  · next hrun => rw [hrun, Except.error.inj h]
  · cases h

theorem run_of_tokenize_eq_ok {o : Options} {line : Text} {ts : List Token}
    (h : tokenize o line = .ok ts) :
    (Scanner.ofLine o line).run.fault = none ∧ (Scanner.ofLine o line).run.tokens = ts := by
  unfold tokenize at h
  dsimp only at h
  split at h
  · cases h
  · next hfault => exact ⟨hfault, Except.ok.inj h⟩

end QueryConsole.Command
