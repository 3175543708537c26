import QueryConsole.Sql.Dialect

/-!
# Searching through a lexer

The search for the end of a statement in a scripting dialect, on a lexer instead of a list of
tokens. A token that was read too far is pushed back. What a loop does with one token is a round,
which ends the loop or leaves a lexer for the next round.

The body of a procedure that is created inside a script may be a script, and the reading of a script
and that of a creation call each other. Nothing counts these calls, so it is a relation what they
leave. That they leave something is a theorem.
-/

namespace QueryConsole.Sql.Lexer

/-- What a round of a loop leaves. -/
inductive Round (α β : Type) where
  /-- The loop goes on. -/
  | again (a : α) (l : Lexer)
  /-- The loop has ended with a result. -/
  | done (b : β) (l : Lexer)
deriving DecidableEq, Repr

/-! ### Looking ahead -/

/-- The keyword that comes next, which is not read. -/
def peekKeyword (l : Lexer) : Option Keyword × Lexer :=
  let (t, l) := l.peek
  (t.bind Token.keyword?, l)

/-- Reads the keyword `k`, if it comes next. -/
def takeKeyword (k : Keyword) (l : Lexer) : Bool × Lexer := l.skipWords [k.spelling]

/-- Whether the `BEGIN` that was read is the start of a block, and not of a transaction. -/
def beginsBlock (l : Lexer) : Bool × Lexer :=
  let (k, l) := l.peekKeyword
  (!k.any Keyword.beginsTransaction, l)

/-- Whether a batch begins with a block instead of a statement. Nothing is read. -/
def opensBlock (l : Lexer) : Bool × Lexer :=
  match l.next with
  | (none, l) => (false, l)
  | (some t, l) =>
    let (opens, l) := match t.keyword? with
      | some .declare => (true, l)
      | some .begin => l.beginsBlock
      | _ => (false, l)
    (opens, l.unget t)

/-- Whether the `END` that was read closes the given kind of block. The words that qualify it are
read. -/
def closes (b : Block) (l : Lexer) : Bool × Lexer :=
  match b with
  | .case => (true, (l.takeKeyword .case).2)
  | .if => l.takeKeyword .if
  | .repeat => l.takeKeyword .repeat
  | .do =>
    match l.takeKeyword .for with
    | (true, l) => (true, l)
    | (false, l) => l.takeKeyword .while
  | .loop => l.takeKeyword .loop
  | .begin =>
    let (k, l) := l.peekKeyword
    (!k.any (· ∈ [.if, .case, .for, .loop]), l)

section Remaining

variable {l l' : Lexer}

theorem remaining_unget (t : Token) (l : Lexer) : (l.unget t).remaining = l.remaining + 1 :=
  Nat.succ_add l.pushed.length l.cursor.rest.length

theorem length_rest_scan_le (l : Lexer) :
    l.scan.2.cursor.rest.length ≤ l.cursor.rest.length := by
  rcases hscan : l.scan.1 with _ | t
  · fun_induction scan l with
    | case1 => exact Nat.le_refl _
    | case2 l c t h x l' hk ih =>
      have hlt := Lexeme.length_rest_lt l.options c t
      rw [h]
      exact Nat.le_of_lt (Nat.lt_of_le_of_lt (ih hscan) hlt)
    | case3 => cases hscan
  · exact Nat.le_of_lt (length_rest_scan_lt hscan)

theorem remaining_next_le (l : Lexer) : l.next.2.remaining ≤ l.remaining := by
  unfold next
  split
  · next hpushed => simp [remaining, hpushed]
  · simp [remaining, pushed_scan, length_rest_scan_le]

theorem remaining_lt_of_next {t : Token} (h : l.next = (some t, l')) :
    l'.remaining < l.remaining := by
  have hlt := remaining_next_lt (l := l) (t := t) (by rw [h])
  rwa [h] at hlt

theorem remaining_peek_le (l : Lexer) : l.peek.2.remaining ≤ l.remaining := by
  have hle := l.remaining_next_le
  unfold peek
  split
  · next t l' hnext =>
    rw [remaining_unget]
    exact remaining_lt_of_next hnext
  · next hnext => rwa [hnext] at hle

theorem remaining_skipWords_le (ws : List Text) (l : Lexer) :
    (l.skipWords ws).2.remaining ≤ l.remaining := by
  induction ws generalizing l with
  | nil => exact Nat.le_refl _
  | cons w ws ih =>
    have hle := l.remaining_next_le
    unfold skipWords
    split
    · next hnext => rwa [hnext] at hle
    · next t l' hnext =>
      have hlt := remaining_lt_of_next hnext
      have hrest := ih l'
      split
      · split
        · next hskip =>
          rw [hskip] at hrest
          exact Nat.le_of_lt (Nat.lt_of_le_of_lt hrest hlt)
        · next hskip =>
          rw [hskip] at hrest
          rw [remaining_unget]
          exact Nat.lt_of_le_of_lt hrest hlt
      · rw [remaining_unget]
        exact hlt

theorem remaining_takeKeyword_le (k : Keyword) (l : Lexer) :
    (l.takeKeyword k).2.remaining ≤ l.remaining := remaining_skipWords_le _ l

theorem remaining_beginsBlock_le (l : Lexer) : l.beginsBlock.2.remaining ≤ l.remaining :=
  remaining_peek_le l

end Remaining

/-! ### Parentheses and declarations -/

/-- A round of the search for the parenthesis that closes the group at hand, inside which `depth`
further groups are open. -/
def parensRound (depth : Nat) (l : Lexer) : Round Nat Bool :=
  match l.next with
  | (none, l) => .done false l
  | (some t, l) =>
    if t.isPunct '(' then .again (depth + 1) l
    else if t.isPunct ')' then
      match depth with
      | 0 => .done true l
      | depth + 1 => .again depth l
    else .again depth l

theorem remaining_lt_of_parensRound {depth depth' : Nat} {l l' : Lexer}
    (h : l.parensRound depth = .again depth' l') : l'.remaining < l.remaining := by
  unfold parensRound at h
  split at h
  · cases h
  · next hnext =>
    have hlt := remaining_lt_of_next hnext
    split at h
    · cases h
      exact hlt
    · split at h
      · split at h <;> cases h
        exact hlt
      · cases h
        exact hlt

def closeParens (depth : Nat) (l : Lexer) : Bool × Lexer :=
  match _h : l.parensRound depth with
  | .again depth l => closeParens depth l
  | .done closed l => (closed, l)
termination_by l.remaining
decreasing_by exact remaining_lt_of_parensRound _h

/-- Reads a parenthesised group, if one comes next. -/
def skipParens (l : Lexer) : Bool × Lexer :=
  match l.next with
  | (none, l) => (false, l)
  | (some t, l) => if t.isPunct '(' then l.closeParens 0 else (false, l.unget t)

/-- A round of the search for the `BEGIN` of a block. -/
def beginRound (l : Lexer) : Round Unit Bool :=
  match l.next with
  | (none, l) => .done false l
  | (some t, l) =>
    if t.isKeyword .begin then
      match l.beginsBlock with
      | (true, l) => .done true (l.unget t)
      | (false, l) => .again () l
    else .again () l

theorem remaining_lt_of_beginRound {u : Unit} {l l' : Lexer} (h : l.beginRound = .again u l') :
    l'.remaining < l.remaining := by
  unfold beginRound at h
  split at h
  · cases h
  · next t l₁ hnext =>
    have hlt := remaining_lt_of_next hnext
    split at h
    · split at h
      · cases h
      · next hbegins =>
        cases h
        have hle := l₁.remaining_beginsBlock_le
        rw [hbegins] at hle
        exact Nat.lt_of_le_of_lt hle hlt
    · cases h
      exact hlt

/-- Reads up to the `BEGIN` of a block, which is not read. -/
def seekBegin (l : Lexer) : Bool × Lexer :=
  match _h : l.beginRound with
  | .again () l => seekBegin l
  | .done found l => (found, l)
termination_by l.remaining
decreasing_by exact remaining_lt_of_beginRound _h

/-! ### Headers -/

/-- Reads the words that may stand between `CREATE` and the kind of object. -/
def skipModifiers (l : Lexer) : Lexer :=
  let l := (l.skipWords [Keyword.or.spelling, Keyword.replace.spelling]).2
  let l := (l.takeKeyword .secure).2
  match l.takeKeyword .temp with
  | (true, l) => l
  | (false, l) => (l.takeKeyword .temporary).2

/-- A round of the reading of the header of a procedure, with the language known to be SQL so far or
not. The result is whether a body in SQL follows. -/
def headerRound (isSql : Bool) (l : Lexer) : Round Bool Bool :=
  match l.next with
  | (none, l) => .done false l
  | (some t, l) =>
    if t.isTerminator then .done false (l.unget t)
    else match t.keyword? with
      | some .execute => .again isSql (l.takeKeyword .as).2
      | some .language =>
        let (u, l) := l.next
        .again (u.any (·.isKeyword .sql)) l
      | some .as => .done isSql l
      | _ => .again isSql l

theorem remaining_lt_of_headerRound {isSql isSql' : Bool} {l l' : Lexer}
    (h : l.headerRound isSql = .again isSql' l') : l'.remaining < l.remaining := by
  unfold headerRound at h
  split at h
  · cases h
  · next t l₁ hnext =>
    have hlt := remaining_lt_of_next hnext
    split at h
    · cases h
    · split at h
      · cases h
        exact Nat.lt_of_le_of_lt (l₁.remaining_takeKeyword_le .as) hlt
      · cases h
        exact Nat.lt_of_le_of_lt l₁.remaining_next_le hlt
      · cases h
      · cases h
        exact hlt

def readHeader (isSql : Bool) (l : Lexer) : Bool × Lexer :=
  match _h : l.headerRound isSql with
  | .again isSql l => readHeader isSql l
  | .done follows l => (follows, l)
termination_by l.remaining
decreasing_by exact remaining_lt_of_headerRound _h

/-- Reads the header of a `CREATE` statement behind the word `CREATE`. The result is whether a script
follows. -/
def skipHeader (l : Lexer) : Bool × Lexer :=
  let l := l.skipModifiers
  match l.takeKeyword .function with
  | (true, l) => (false, l)
  | (false, l) =>
    match l.takeKeyword .procedure with
    | (false, l) => (false, l)
    | (true, l) =>
      match l.readHeader true with
      | (false, l) => (false, l)
      | (true, l) =>
        let (k, l) := l.peekKeyword
        (k.any fun k => k = .declare || k = .begin, l)

/-! ### Scripts -/

/-- A round of the search for the end of a script at an `END`, which closes the innermost block or
belongs to no block. -/
def endRound (blocks : List Block) (l : Lexer) : Round (List Block) Bool :=
  match blocks with
  | [] => .again [] l
  | b :: outer =>
    match l.closes b with
    | (false, l) => .again (b :: outer) l
    | (true, l) => if outer.isEmpty then .done true l else .again outer l

/-- A round of the search for the end of a script, behind the token `t` that is not a `CREATE`. The
blocks that are open are given innermost first. The result is whether the script has come to its
end. -/
def blockRound (blocks : List Block) (t : Token) (l : Lexer) : Round (List Block) Bool :=
  match t.keyword? with
  | some .case =>
    -- the operand of a CASE may stand in parentheses
    let (found, l) := l.skipParens.2.takeKeyword .when
    .again (if found then .case :: blocks else blocks) l
  | some .begin =>
    let (begins, l) := l.beginsBlock
    .again (if begins then .begin :: blocks else blocks) l
  | some .if =>
    let (found, l) := l.skipParens
    .again (if found then .if :: blocks else blocks) l
  | some .do => .again (.do :: blocks) l
  | some .loop => .again (.loop :: blocks) l
  | some .repeat => .again (.repeat :: blocks) l
  | some .end => l.endRound blocks
  | some .declare =>
    -- declarations belong to the block that must follow them
    match l.seekBegin with
    | (true, l) => .again blocks l
    | (false, l) => .done false l
  | _ => .again blocks l

mutual

/-- The rest of a `CREATE` statement is read as far as a script may be part of it: the header of a
procedure and, if that is followed by a script, the script. The second lexer is left. -/
inductive SkipsCreate : Lexer → Lexer → Prop
  | header {l l' : Lexer} (h : l.skipHeader = (false, l')) : SkipsCreate l l'
  | script {l l₁ l' : Lexer} {ended : Bool} (h : l.skipHeader = (true, l₁)) :
      SkipsScript [] l₁ ended l' → SkipsCreate l l'

/-- A round of the search for the end of a script. -/
inductive ScriptRound : List Block → Lexer → Round (List Block) Bool → Prop
  | none {blocks : List Block} {l l' : Lexer} (h : l.next = (none, l')) :
      ScriptRound blocks l (.done blocks.isEmpty l')
  | create {blocks : List Block} {t : Token} {l l₁ l' : Lexer} (h : l.next = (some t, l₁))
      (hcreate : t.keyword? = some .create) :
      SkipsCreate l₁ l' → ScriptRound blocks l (.again blocks l')
  | block {blocks : List Block} {t : Token} {l l₁ : Lexer} (h : l.next = (some t, l₁))
      (hcreate : t.keyword? ≠ some .create) : ScriptRound blocks l (l₁.blockRound blocks t)

/-- A script is read up to the `END` that closes its outermost block, with the given blocks open. The
result is whether that was found, and the second lexer is left. -/
inductive SkipsScript : List Block → Lexer → Bool → Lexer → Prop
  | done {blocks : List Block} {l l' : Lexer} {ended : Bool} :
      ScriptRound blocks l (.done ended l') → SkipsScript blocks l ended l'
  | again {blocks blocks' : List Block} {l l₁ l' : Lexer} {ended : Bool} :
      ScriptRound blocks l (.again blocks' l₁) → SkipsScript blocks' l₁ ended l' →
      SkipsScript blocks l ended l'

end

end QueryConsole.Sql.Lexer
