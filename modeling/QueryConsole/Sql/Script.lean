import QueryConsole.Sql.Header

/-!
# Scripts

A script is a block of statements, nested to any depth, whose inner terminators separate
statements of the script and do not end the batch. `Script.skip?` finds the tokens behind a
script. The state of the search holds the blocks that are open and, while it reads the body of a
procedure created inside a script, the open blocks of the scripts around it.
-/

namespace QueryConsole.Sql

inductive Block where
  | case | if | do | loop | repeat | begin
deriving DecidableEq, Repr

/-- Whether the tokens behind a `BEGIN` make it the start of a block, and not of a transaction. -/
def beginsBlock (ts : List Token) : Bool := !(nextKeyword? ts).any Keyword.beginsTransaction

/-- The tokens behind an `END` that closes the given kind of block, with the words that qualify it,
or nothing if the `END` does not close it. -/
def Block.close? : Block → List Token → Option (List Token)
  | .case, ts => some (dropKeyword .case ts)
  | .if, ts => dropKeyword? .if ts
  | .do, ts => (dropKeyword? .for ts).or (dropKeyword? .while ts)
  | .loop, ts => dropKeyword? .loop ts
  | .repeat, ts => dropKeyword? .repeat ts
  | .begin, ts =>
    if (nextKeyword? ts).any (· ∈ [.if, .case, .for, .loop]) then none else some ts

/-- Skips to the `BEGIN` of a block. -/
def seekBegin? : List Token → Option (List Token)
  | [] => none
  | t :: ts => if t.isKeyword .begin && beginsBlock ts then some (t :: ts) else seekBegin? ts

theorem Block.suffix_of_close? {b : Block} {ts rest : List Token} (h : b.close? ts = some rest) :
    rest <:+ ts := by
  cases b
  case case => exact Option.some.inj h ▸ dropKeyword_suffix _ ts
  case «if» => exact suffix_of_dropKeyword? h
  case «do» =>
    rcases Option.or_eq_some_iff.1 h with h | ⟨_, h⟩ <;> exact suffix_of_dropKeyword? h
  case loop => exact suffix_of_dropKeyword? h
  case «repeat» => exact suffix_of_dropKeyword? h
  case begin =>
    simp only [close?] at h
    split at h
    · simp at h
    · exact Option.some.inj h ▸ List.suffix_refl ts

theorem suffix_of_seekBegin? {ts rest : List Token} (h : seekBegin? ts = some rest) :
    rest <:+ ts := by
  induction ts with
  | nil => simp [seekBegin?] at h
  | cons t ts ih =>
    rw [seekBegin?] at h
    split at h
    · exact Option.some.inj h ▸ List.suffix_refl _
    · exact (ih h).trans (List.suffix_cons t ts)

/-- The blocks that are open while a script is read. -/
structure Script where
  /-- The open blocks of the script, innermost first. -/
  blocks : List Block := []
  /-- The open blocks of the scripts in which it is the body of a procedure, innermost first. -/
  outer : List (List Block) := []
deriving DecidableEq, Repr

namespace Script

def push (b : Block) (s : Script) : Script := { s with blocks := b :: s.blocks }

/-- Begins the body of a procedure. -/
def enter (s : Script) : Script := ⟨[], s.blocks :: s.outer⟩

/-- Closes the innermost block. A script without open blocks gives way to the one around it; there
is none around the outermost. -/
def pop? (s : Script) : Option Script :=
  match s.blocks.tail, s.outer with
  | b :: bs, outer => some ⟨b :: bs, outer⟩
  | [], bs :: outer => some ⟨bs, outer⟩
  | [], [] => none

/-- What a token makes of the search for the end of a script. -/
inductive Step where
  /-- The search goes on with other blocks open. -/
  | next (s : Script) (rest : List Token)
  /-- The outermost block was closed. -/
  | done (rest : List Token)
  /-- The script has no end. -/
  | fail
deriving DecidableEq, Repr

/-- What the token `t` before the tokens `ts` makes of the search. -/
def step (s : Script) (t : Token) (ts : List Token) : Step :=
  match t.keyword? with
  | some .create =>
    let h := Header.read ts
    .next (if h.opensScript then s.enter else s) h.rest
  | some .case =>
    -- the operand of a CASE may stand in parentheses
    let rest := (skipParens ts).2
    match dropKeyword? .when rest with
    | some rest => .next (s.push .case) rest
    | none => .next s rest
  | some .begin => .next (if beginsBlock ts then s.push .begin else s) ts
  | some .if =>
    let (found, rest) := skipParens ts
    .next (if found then s.push .if else s) rest
  | some .do => .next (s.push .do) ts
  | some .loop => .next (s.push .loop) ts
  | some .repeat => .next (s.push .repeat) ts
  | some .end =>
    match s.blocks.head?.bind (·.close? ts) with
    | none => .next s ts
    | some rest =>
      match s.pop? with
      | some s => .next s rest
      | none => .done rest
  | some .declare =>
    -- declarations belong to the block that must follow them
    match seekBegin? ts with
    | some rest => .next s rest
    | none => .fail
  | _ => .next s ts

theorem suffix_of_step_next {s s' : Script} {t : Token} {ts rest : List Token}
    (h : s.step t ts = .next s' rest) : rest <:+ ts := by
  unfold step at h
  split at h
  · exact (Step.next.inj h).2 ▸ Header.read_suffix ts
  · dsimp only at h
    split at h
    · next hw => exact (Step.next.inj h).2 ▸ (suffix_of_dropKeyword? hw).trans (skipParens_suffix ts)
    · exact (Step.next.inj h).2 ▸ skipParens_suffix ts
  · exact (Step.next.inj h).2 ▸ List.suffix_refl ts
  · exact (Step.next.inj h).2 ▸ skipParens_suffix ts
  · exact (Step.next.inj h).2 ▸ List.suffix_refl ts
  · exact (Step.next.inj h).2 ▸ List.suffix_refl ts
  · exact (Step.next.inj h).2 ▸ List.suffix_refl ts
  · split at h
    · exact (Step.next.inj h).2 ▸ List.suffix_refl ts
    · next hc =>
      obtain ⟨b, _, hb⟩ := Option.bind_eq_some_iff.1 hc
      split at h
      · exact (Step.next.inj h).2 ▸ Block.suffix_of_close? hb
      · cases h
  · split at h
    · next hs => exact (Step.next.inj h).2 ▸ suffix_of_seekBegin? hs
    · cases h
  · exact (Step.next.inj h).2 ▸ List.suffix_refl ts

/-- Only an `END` can close the outermost block. -/
theorem close?_of_step_done {s : Script} {t : Token} {ts rest : List Token}
    (h : s.step t ts = .done rest) :
    t.keyword? = some .end ∧ ∃ b : Block, b.close? ts = some rest := by
  unfold step at h
  split at h
  case h_8 hend =>
    split at h
    · cases h
    · next hc =>
      obtain ⟨b, _, hb⟩ := Option.bind_eq_some_iff.1 hc
      split at h
      · cases h
      · exact ⟨hend, b, Step.done.inj h ▸ hb⟩
  case h_2 => dsimp only at h; split at h <;> cases h
  case h_9 => split at h <;> cases h
  all_goals cases h

theorem suffix_of_step_done {s : Script} {t : Token} {ts rest : List Token}
    (h : s.step t ts = .done rest) : rest <:+ ts := by
  obtain ⟨-, b, hclose⟩ := close?_of_step_done h
  exact Block.suffix_of_close? hclose

/-- The tokens behind the `END` that closes the outermost block, or nothing if the tokens run out
first. -/
def skip? (s : Script) : List Token → Option (List Token)
  | [] => none
  | t :: ts =>
    match _h : s.step t ts with
    | .next s rest => skip? s rest
    | .done rest => some rest
    | .fail => none
termination_by ts => ts.length
decreasing_by exact Nat.lt_succ_of_le (suffix_of_step_next _h).length_le

theorem skip?_of_next {s s' : Script} {t : Token} {ts rest : List Token}
    (h : s.step t ts = .next s' rest) : s.skip? (t :: ts) = s'.skip? rest := by
  rw [skip?]
  split <;> simp_all

theorem skip?_of_done {s : Script} {t : Token} {ts rest : List Token}
    (h : s.step t ts = .done rest) : s.skip? (t :: ts) = some rest := by
  rw [skip?]
  split <;> simp_all

theorem skip?_of_fail {s : Script} {t : Token} {ts : List Token} (h : s.step t ts = .fail) :
    s.skip? (t :: ts) = none := by
  rw [skip?]
  split <;> simp_all

theorem suffix_of_skip? {s : Script} {ts rest : List Token} (h : s.skip? ts = some rest) :
    rest <:+ ts := by
  fun_induction skip? s ts with
  | case1 => cases h
  | case2 s t ts s' rest' hs ih =>
    exact ((ih h).trans (suffix_of_step_next hs)).trans (List.suffix_cons t ts)
  | case3 s t ts rest' hs =>
    exact Option.some.inj h ▸ (suffix_of_step_done hs).trans (List.suffix_cons t ts)
  | case4 => cases h

end Script

/-- Skips a `CREATE` statement behind the word `CREATE`: its header and, if that is followed by a
script, the script. -/
def skipCreate (ts : List Token) : List Token :=
  let h := Header.read ts
  if h.opensScript then (Script.skip? {} h.rest).getD [] else h.rest

theorem skipCreate_suffix (ts : List Token) : skipCreate ts <:+ ts := by
  have hr := Header.read_suffix ts
  unfold skipCreate
  dsimp only
  split
  · cases h : Script.skip? {} (Header.read ts).rest with
    | none => simp
    | some rest => simpa using (Script.suffix_of_skip? h).trans hr
  · exact hr

/-- The first terminator outside the bodies of procedures. -/
def statementEnd? : List Token → Option Token
  | [] => none
  | t :: ts =>
    if t.isTerminator then some t
    else if t.isKeyword .create then statementEnd? (skipCreate ts)
    else statementEnd? ts
termination_by ts => ts.length
decreasing_by
  · exact Nat.lt_succ_of_le (skipCreate_suffix ts).length_le
  · exact Nat.lt_succ_self _

end QueryConsole.Sql
