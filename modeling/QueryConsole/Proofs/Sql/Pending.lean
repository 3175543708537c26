import QueryConsole.Proofs.Sql.Tiling

/-!
# A lexer is a list of tokens

Seen from outside a lexer is the list of the tokens that are still to come. Reading takes the head
of the list, pushing a token back puts it in front, and reading several words takes all of them or
none. Which tokens were pushed back and which are not read yet makes no difference, in whatever
order the operations come, and a lexer that is drained has always seen the whole of its text.
-/

namespace QueryConsole.Sql

namespace Lexer

/-- What can be done with a lexer. -/
inductive Op where
  | next
  | peek
  | unget (t : Token)
  | skipWords (ws : List Text)
  | drain
  | reset (t : Text)
deriving DecidableEq, Repr

/-- What an operation returns. -/
inductive Answer where
  | token (t : Option Token)
  | found (b : Bool)
  | done
deriving DecidableEq, Repr

def step (l : Lexer) : Op → Answer × Lexer
  | .next => (.token l.next.1, l.next.2)
  | .peek => (.token l.peek.1, l.peek.2)
  | .unget t => (.done, l.unget t)
  | .skipWords ws => (.found (l.skipWords ws).1, (l.skipWords ws).2)
  | .drain => (.done, l.drain)
  | .reset t => (.done, l.reset t)

/-- Performs operations in order, and collects what they return. -/
def run (l : Lexer) : List Op → List Answer × Lexer
  | [] => ([], l)
  | op :: ops =>
    let (a, l) := l.step op
    let (as, l) := run l ops
    (a :: as, l)

end Lexer

/-- The first tokens are the given words, up to the case of ASCII letters. -/
def BeginsWith (ws : List Text) (ts : List Token) : Prop :=
  (ts.take ws.length).map (fun t => t.word?.map Text.asciiUpper) =
    ws.map fun w => some (Text.asciiUpper w)

instance (ws : List Text) (ts : List Token) : Decidable (BeginsWith ws ts) :=
  inferInstanceAs (Decidable (_ = _))

/-- A text, with the tokens of it or pushed back before it that are still to come. -/
structure Pending where
  text : Text
  tokens : List Token
deriving DecidableEq, Repr

namespace Pending

variable (o : Lexer.Options)

def ofText (t : Text) : Pending := ⟨t, Sql.tokens o t⟩

def step (p : Pending) : Lexer.Op → Lexer.Answer × Pending
  | .next => (.token p.tokens.head?, { p with tokens := p.tokens.tail })
  | .peek => (.token p.tokens.head?, p)
  | .unget t => (.done, { p with tokens := t :: p.tokens })
  | .skipWords ws =>
    if BeginsWith ws p.tokens then
      (.found true, { p with tokens := p.tokens.drop ws.length })
    else (.found false, p)
  | .drain => (.done, { p with tokens := [] })
  | .reset t => (.done, ofText o t)

def run (p : Pending) : List Lexer.Op → List Lexer.Answer × Pending
  | [] => ([], p)
  | op :: ops =>
    let (a, p) := p.step o op
    let (as, p) := run p ops
    (a :: as, p)

end Pending

theorem not_beginsWith_nil (w : Text) (ws : List Text) : ¬BeginsWith (w :: ws) [] := by
  simp [BeginsWith]

theorem beginsWith_cons_cons_iff {w : Text} {ws : List Text} {t : Token} {ts : List Token} :
    BeginsWith (w :: ws) (t :: ts) ↔ t.isWord w = true ∧ BeginsWith ws ts := by
  have hword : t.isWord w = true ↔ t.word?.map Text.asciiUpper = some (Text.asciiUpper w) := by
    cases h : t.word? with
    | none => simp [Token.isWord, h]
    | some v =>
      rw [Token.isWord, h, Option.any_some, Text.sameIgnoringCase, beq_iff_eq, Option.map_some,
        Option.some.injEq]
      exact eq_comm
  rw [hword, BeginsWith, BeginsWith, List.length_cons, List.take_succ_cons, List.map_cons,
    List.map_cons, List.cons.injEq]

namespace Lexer

variable {o : Options} {l e : Lexer} {ts : List Token} {p : Pending}

/-! ### Reading to the end -/

/-- What is pushed back comes first, and has no influence on the state at the end. -/
theorem readAll_eq (l : Lexer) : l.readAll =
    (l.pushed ++ Lexeme.tokens l.cursor.offset (lexemes l.options l.cursor.rest),
      ⟨l.options, l.cursor.finish, [],
        (Lexeme.leftOpen? (lexemes l.options l.cursor.rest)).or l.unclosed⟩) := by
  obtain ⟨o, ⟨n, t⟩, pushed, u⟩ := l
  induction pushed with
  | nil => exact readAll_mk o n t u
  | cons a as ih =>
    have hnext : next ⟨o, ⟨n, t⟩, a :: as, u⟩ = (some a, ⟨o, ⟨n, t⟩, as, u⟩) := rfl
    rw [readAll_of_next_some hnext, ih]
    rfl

theorem readAll_drain (l : Lexer) : l.drain.readAll = ([], l.drain) := by
  rw [drain, readAll_eq l, readAll_eq]
  simp [Cursor.finish, Cursor.advance, lexemes, Lexeme.tokens, Lexeme.leftOpen?]

theorem options_drain (l : Lexer) : l.drain.options = l.options := by
  rw [drain, readAll_eq]

theorem readAll_unget (l : Lexer) (t : Token) :
    (l.unget t).readAll = (t :: l.readAll.1, l.readAll.2) :=
  readAll_of_next_some rfl

/-! ### Operations -/

theorem exists_next (h : l.readAll = (ts, e)) :
    ∃ l', l.next = (ts.head?, l') ∧ l'.readAll = (ts.tail, e) := by
  rcases hnext : l.next with ⟨_ | t, l'⟩
  · have hend := readAll_of_next_none hnext
    have hl' : l.drain = l' := by rw [drain, hend]
    obtain ⟨rfl, rfl⟩ := Prod.mk.inj (h.symm.trans hend)
    exact ⟨e, rfl, hl' ▸ readAll_drain l⟩
  · obtain ⟨rfl, rfl⟩ := Prod.mk.inj (h.symm.trans (readAll_of_next_some hnext))
    exact ⟨l', rfl, rfl⟩

theorem exists_peek (h : l.readAll = (ts, e)) :
    ∃ l', l.peek = (ts.head?, l') ∧ l'.readAll = (ts, e) := by
  obtain ⟨l', hnext, hl'⟩ := exists_next h
  cases ts with
  | nil => exact ⟨l', by rw [peek, hnext]; rfl, hl'⟩
  | cons t ts =>
    refine ⟨l'.unget t, by rw [peek, hnext]; rfl, ?_⟩
    rw [readAll_unget, hl']
    rfl

theorem exists_skipWords (ws : List Text) (h : l.readAll = (ts, e)) :
    ∃ l', l.skipWords ws = (decide (BeginsWith ws ts), l') ∧
      l'.readAll = (if BeginsWith ws ts then ts.drop ws.length else ts, e) := by
  induction ws generalizing l ts with
  | nil => exact ⟨l, rfl, h⟩
  | cons w ws ih =>
    obtain ⟨l', hnext, hl'⟩ := exists_next h
    rw [skipWords, hnext]
    cases ts with
    | nil => exact ⟨l', by simp [not_beginsWith_nil], by simpa [not_beginsWith_nil] using hl'⟩
    | cons t ts =>
      obtain ⟨l'', hskip, hl''⟩ := ih hl'
      by_cases ht : t.isWord w = true
      · by_cases hws : BeginsWith ws ts
        · refine ⟨l'', ?_, ?_⟩
          · simp [beginsWith_cons_cons_iff, ht, hws, hskip]
          · simpa [beginsWith_cons_cons_iff, ht, hws] using hl''
        · refine ⟨l''.unget t, ?_, ?_⟩
          · simp [beginsWith_cons_cons_iff, ht, hws, hskip]
          · simp [beginsWith_cons_cons_iff, hws, readAll_unget, hl'']
      · refine ⟨l'.unget t, ?_, ?_⟩
        · simp [beginsWith_cons_cons_iff, ht]
        · simp [beginsWith_cons_cons_iff, ht, readAll_unget, hl']

/-! ### Runs -/

/-- The lexer has the given tokens to come, and the end of the given text to reach. -/
def Shows (o : Options) (l : Lexer) (p : Pending) : Prop :=
  l.readAll = (p.tokens, (ofText o p.text).drain)

theorem shows_ofText (o : Options) (t : Text) : Shows o (ofText o t) (.ofText o t) := rfl

theorem Shows.toList_eq (h : Shows o l p) : l.toList = p.tokens := by
  rw [toList, h]

theorem Shows.drain_eq (h : Shows o l p) : l.drain = (ofText o p.text).drain := by
  rw [drain, h]

theorem Shows.options_eq (h : Shows o l p) : l.options = o := by
  rw [← options_drain l, h.drain_eq, options_drain]
  rfl

/-- Each operation returns what it returns on the list, and leaves a lexer that shows the list that
is left. -/
theorem Shows.step (h : Shows o l p) (op : Op) :
    (l.step op).1 = (p.step o op).1 ∧ Shows o (l.step op).2 (p.step o op).2 := by
  cases op with
  | next =>
    obtain ⟨l', hnext, hl'⟩ := exists_next h
    have hstep : l.step .next = (.token p.tokens.head?, l') := by rw [Lexer.step, hnext]
    rw [hstep]
    exact ⟨rfl, hl'⟩
  | peek =>
    obtain ⟨l', hpeek, hl'⟩ := exists_peek h
    have hstep : l.step .peek = (.token p.tokens.head?, l') := by rw [Lexer.step, hpeek]
    rw [hstep]
    exact ⟨rfl, hl'⟩
  | unget t =>
    have hunget : (l.unget t).readAll = (t :: p.tokens, (ofText o p.text).drain) := by
      rw [readAll_unget, h]
    exact ⟨rfl, hunget⟩
  | skipWords ws =>
    obtain ⟨l', hskip, hl'⟩ := exists_skipWords ws h
    have hstep : l.step (.skipWords ws) = (.found (decide (BeginsWith ws p.tokens)), l') := by
      rw [Lexer.step, hskip]
    rw [hstep, Pending.step]
    split
    · next hws =>
      rw [if_pos hws] at hl'
      exact ⟨congrArg Answer.found (decide_eq_true hws), hl'⟩
    · next hws =>
      rw [if_neg hws] at hl'
      exact ⟨congrArg Answer.found (decide_eq_false hws), hl'⟩
  | drain =>
    have hdrain : l.drain.readAll = ([], (ofText o p.text).drain) := by
      rw [readAll_drain, h.drain_eq]
    exact ⟨rfl, hdrain⟩
  | reset t =>
    have hreset : l.reset t = ofText o t := by rw [reset, h.options_eq]
    refine ⟨rfl, ?_⟩
    change Shows o (l.reset t) (.ofText o t)
    rw [hreset]
    exact shows_ofText o t

theorem Shows.run (h : Shows o l p) (ops : List Op) :
    (l.run ops).1 = (p.run o ops).1 ∧ Shows o (l.run ops).2 (p.run o ops).2 := by
  induction ops generalizing l p with
  | nil => exact ⟨rfl, h⟩
  | cons op ops ih =>
    obtain ⟨hanswer, hstep⟩ := h.step op
    obtain ⟨hanswers, hrun⟩ := ih hstep
    exact ⟨congrArg₂ List.cons hanswer hanswers, hrun⟩

/-- Operations on a lexer return what they return on the list of its tokens. When the lexer is
drained after them, it is at the end of its text and knows what that text leaves open. -/
theorem run_ofText (o : Options) (t : Text) (ops : List Op) :
    ((ofText o t).run ops).1 = ((Pending.ofText o t).run o ops).1 ∧
    ((ofText o t).run ops).2.toList = ((Pending.ofText o t).run o ops).2.tokens ∧
    ((ofText o t).run ops).2.drain.cursor =
      ⟨Text.size ((Pending.ofText o t).run o ops).2.text, []⟩ ∧
    ((ofText o t).run ops).2.drain.unclosed =
      (ofText o ((Pending.ofText o t).run o ops).2.text).drain.unclosed := by
  obtain ⟨hanswers, hshows⟩ := (shows_ofText o t).run ops
  refine ⟨hanswers, hshows.toList_eq, ?_, congrArg unclosed hshows.drain_eq⟩
  rw [hshows.drain_eq, drain_ofText]

end Lexer

end QueryConsole.Sql
