import QueryConsole.Sql.Dialect

/-!
# The search does not look at offsets

Of a token the search for the end of a statement sees only the kind. Moving tokens about therefore
moves the offset that is reported, but never makes the search find another token. Each reader of
tokens commutes with a map that keeps the kinds, and so does the search that is made of them.
-/

namespace QueryConsole.Sql

namespace Token

variable {a b : Token}

theorem keyword?_congr (h : a.kind = b.kind) : a.keyword? = b.keyword? := by
  simp only [keyword?, word?, h]

theorem isKeyword_congr (h : a.kind = b.kind) (k : Keyword) : a.isKeyword k = b.isKeyword k := by
  simp only [isKeyword, isWord, word?, h]

theorem isTerminator_congr (h : a.kind = b.kind) : a.isTerminator = b.isTerminator := by
  simp only [isTerminator, h]

theorem isPunct_congr (h : a.kind = b.kind) (c : Char) : a.isPunct c = b.isPunct c := by
  simp only [isPunct, h]

end Token

/-- A step of the search with the tokens behind it changed. -/
def Script.Step.map (f : Token → Token) : Step → Step
  | next s rest => next s (rest.map f)
  | done rest => done (rest.map f)
  | fail => fail

section Map

variable {f : Token → Token} (hf : ∀ t, (f t).kind = t.kind)

include hf

/-! ### Keywords and parentheses -/

theorem dropKeyword?_map (k : Keyword) (ts : List Token) :
    dropKeyword? k (ts.map f) = (dropKeyword? k ts).map (List.map f) := by
  cases ts with
  | nil => rfl
  | cons t ts =>
    rw [List.map_cons, dropKeyword?, dropKeyword?, Token.isKeyword_congr (hf t)]
    split
    · rfl
    · rfl

theorem dropKeyword_map (k : Keyword) (ts : List Token) :
    dropKeyword k (ts.map f) = (dropKeyword k ts).map f := by
  rw [dropKeyword, dropKeyword, dropKeyword?_map hf, Option.getD_map]

theorem nextKeyword?_map (ts : List Token) : nextKeyword? (ts.map f) = nextKeyword? ts := by
  cases ts with
  | nil => rfl
  | cons t ts => exact Token.keyword?_congr (hf t)

theorem beginsBlock_map (ts : List Token) : beginsBlock (ts.map f) = beginsBlock ts := by
  rw [beginsBlock, beginsBlock, nextKeyword?_map hf]

theorem closeParens_map (depth : Nat) (ts : List Token) :
    closeParens depth (ts.map f) = (closeParens depth ts).map id (List.map f) := by
  induction ts generalizing depth with
  | nil => rfl
  | cons t ts ih =>
    unfold closeParens
    rw [List.map_cons]
    dsimp only
    rw [Token.isPunct_congr (hf t), Token.isPunct_congr (hf t)]
    split
    · exact ih (depth + 1)
    · split
      · cases depth with
        | zero => rfl
        | succ depth => exact ih depth
      · exact ih depth

theorem skipParens_map (ts : List Token) :
    skipParens (ts.map f) = (skipParens ts).map id (List.map f) := by
  cases ts with
  | nil => rfl
  | cons t ts =>
    rw [List.map_cons, skipParens, skipParens, Token.isPunct_congr (hf t)]
    split
    · exact closeParens_map hf 0 ts
    · rfl

/-! ### Headers -/

theorem skipModifiers_map (ts : List Token) :
    Header.skipModifiers (ts.map f) = (Header.skipModifiers ts).map f := by
  have hor (us : List Token) :
      ((dropKeyword? .or (us.map f)).bind (dropKeyword? .replace)).getD (us.map f) =
        (((dropKeyword? .or us).bind (dropKeyword? .replace)).getD us).map f := by
    rw [dropKeyword?_map hf]
    cases dropKeyword? .or us with
    | none => rfl
    | some vs => rw [Option.map_some, Option.bind_some, Option.bind_some, dropKeyword?_map hf,
        Option.getD_map]
  simp only [Header.skipModifiers]
  rw [hor, dropKeyword_map hf, dropKeyword?_map hf, dropKeyword_map hf, Option.getD_map]

theorem ofProcedure_map (isSql : Bool) (ts : List Token) :
    Header.ofProcedure isSql (ts.map f) =
      ⟨(Header.ofProcedure isSql ts).opensScript, (Header.ofProcedure isSql ts).rest.map f⟩ := by
  fun_induction Header.ofProcedure isSql ts with
  | case1 => rw [List.map_nil, Header.ofProcedure]
  | case2 isSql t ts ht =>
    rw [← Token.isTerminator_congr (hf t)] at ht
    rw [List.map_cons, Header.ofProcedure_of_isTerminator ht]
  | case3 isSql t ts _ hk ih =>
    rw [← Token.keyword?_congr (hf t)] at hk
    rw [List.map_cons, Header.ofProcedure_of_execute hk, dropKeyword_map hf, ih]
  | case4 isSql t ht hk =>
    rw [← Token.isTerminator_congr (hf t)] at ht
    rw [← Token.keyword?_congr (hf t)] at hk
    rw [List.map_cons, List.map_nil, Header.ofProcedure]
    simp [ht, hk]
  | case5 isSql t _ hk u ts ih =>
    rw [← Token.keyword?_congr (hf t)] at hk
    rw [List.map_cons, List.map_cons, Header.ofProcedure_of_language hk,
      Token.isKeyword_congr (hf u), ih]
  | case6 isSql t ts _ hk =>
    rw [← Token.keyword?_congr (hf t)] at hk
    rw [List.map_cons, Header.ofProcedure_of_as hk, nextKeyword?_map hf]
  | case7 isSql t ts ht hexecute hlanguage has ih =>
    rw [← Token.isTerminator_congr (hf t), Bool.not_eq_true] at ht
    rw [← Token.keyword?_congr (hf t)] at hexecute hlanguage has
    rw [List.map_cons, Header.ofProcedure_of_ne ht hexecute hlanguage has, ih]

theorem read_map (ts : List Token) :
    Header.read (ts.map f) = ⟨(Header.read ts).opensScript, (Header.read ts).rest.map f⟩ := by
  simp only [Header.read]
  rw [skipModifiers_map hf, dropKeyword?_map hf, dropKeyword?_map hf]
  cases dropKeyword? .function (Header.skipModifiers ts) with
  | some rest => rfl
  | none =>
    cases dropKeyword? .procedure (Header.skipModifiers ts) with
    | some rest => exact ofProcedure_map hf true rest
    | none => rfl

/-! ### Scripts -/

theorem close?_map (b : Block) (ts : List Token) :
    b.close? (ts.map f) = (b.close? ts).map (List.map f) := by
  cases b with
  | case => exact congrArg some (dropKeyword_map hf .case ts)
  | «if» => exact dropKeyword?_map hf .if ts
  | «do» =>
    simp only [Block.close?]
    rw [dropKeyword?_map hf, dropKeyword?_map hf, Option.map_or]
  | loop => exact dropKeyword?_map hf .loop ts
  | «repeat» => exact dropKeyword?_map hf .repeat ts
  | begin =>
    simp only [Block.close?]
    rw [nextKeyword?_map hf]
    split
    · rfl
    · rfl

theorem seekBegin?_map (ts : List Token) :
    seekBegin? (ts.map f) = (seekBegin? ts).map (List.map f) := by
  induction ts with
  | nil => rfl
  | cons t ts ih =>
    rw [List.map_cons, seekBegin?, seekBegin?, Token.isKeyword_congr (hf t), beginsBlock_map hf]
    split
    · rfl
    · exact ih

theorem step_map (s : Script) (t : Token) (ts : List Token) :
    s.step (f t) (ts.map f) = (s.step t ts).map f := by
  have hkeyword := Token.keyword?_congr (hf t)
  unfold Script.step
  rw [hkeyword]
  split
  · -- CREATE
    dsimp only
    rw [read_map hf]
    rfl
  · -- CASE
    dsimp only
    rw [skipParens_map hf, Prod.map_snd, dropKeyword?_map hf]
    cases dropKeyword? .when (skipParens ts).2 with
    | some rest => rfl
    | none => rfl
  · -- BEGIN
    rw [beginsBlock_map hf]
    rfl
  · -- IF
    rw [skipParens_map hf]
    rfl
  · rfl
  · rfl
  · rfl
  · -- END
    have hclose : (s.blocks.head?.bind (·.close? (ts.map f))) =
        (s.blocks.head?.bind (·.close? ts)).map (List.map f) := by
      cases s.blocks.head? with
      | none => rfl
      | some b => exact close?_map hf b ts
    rw [hclose]
    cases s.blocks.head?.bind (·.close? ts) with
    | none => rfl
    | some rest => cases s.pop? <;> rfl
  · -- DECLARE
    rw [seekBegin?_map hf]
    cases seekBegin? ts <;> rfl
  · rfl

theorem skip?_map (s : Script) (ts : List Token) :
    s.skip? (ts.map f) = (s.skip? ts).map (List.map f) := by
  fun_induction Script.skip? s ts with
  | case1 => rw [List.map_nil, Script.skip?, Option.map_none]
  | case2 s t ts s' rest hstep ih =>
    have hstep' := step_map hf s t ts
    rw [hstep] at hstep'
    rw [List.map_cons, Script.skip?_of_next hstep', ih]
  | case3 s t ts rest hstep =>
    have hstep' := step_map hf s t ts
    rw [hstep] at hstep'
    rw [List.map_cons, Script.skip?_of_done hstep', Option.map_some]
  | case4 s t ts hstep =>
    have hstep' := step_map hf s t ts
    rw [hstep] at hstep'
    rw [List.map_cons, Script.skip?_of_fail hstep', Option.map_none]

theorem skipCreate_map (ts : List Token) : skipCreate (ts.map f) = (skipCreate ts).map f := by
  simp only [skipCreate]
  rw [read_map hf, skip?_map hf]
  split
  · cases Script.skip? {} (Header.read ts).rest <;> rfl
  · rfl

/-! ### The end of a statement -/

theorem statementEnd?_map (ts : List Token) :
    statementEnd? (ts.map f) = (statementEnd? ts).map f := by
  fun_induction statementEnd? ts with
  | case1 => rw [List.map_nil, statementEnd?, Option.map_none]
  | case2 t ts ht =>
    rw [← Token.isTerminator_congr (hf t)] at ht
    rw [List.map_cons, statementEnd?, if_pos ht, Option.map_some]
  | case3 t ts ht hcreate ih =>
    rw [← Token.isTerminator_congr (hf t)] at ht
    rw [← Token.isKeyword_congr (hf t)] at hcreate
    rw [List.map_cons, statementEnd?, if_neg ht, if_pos hcreate, skipCreate_map hf, ih]
  | case4 t ts ht hcreate ih =>
    rw [← Token.isTerminator_congr (hf t)] at ht
    rw [← Token.isKeyword_congr (hf t)] at hcreate
    rw [List.map_cons, statementEnd?, if_neg ht, if_neg hcreate, ih]

theorem opensBlock_map (ts : List Token) : opensBlock (ts.map f) = opensBlock ts := by
  cases ts with
  | nil => rfl
  | cons t ts =>
    rw [List.map_cons, opensBlock, opensBlock, Token.keyword?_congr (hf t), beginsBlock_map hf]

/-- The search finds the same token among tokens that were moved. -/
theorem Dialect.terminator?_map (d : Dialect) (ts : List Token) :
    d.terminator? (ts.map f) = (d.terminator? ts).map f := by
  cases d with
  | ansi =>
    have hcomp : Token.isTerminator ∘ f = Token.isTerminator := by
      funext t
      exact Token.isTerminator_congr (hf t)
    rw [terminator?, terminator?, List.find?_map, hcomp]
  | snowflake =>
    rw [terminator?, terminator?, opensBlock_map hf]
    split
    · rw [skip?_map hf]
      cases Script.skip? {} ts with
      | none => rfl
      | some rest => exact statementEnd?_map hf rest
    · exact statementEnd?_map hf ts

end Map

/-- The token with nothing between its offsets. -/
def Token.collapse (t : Token) : Token := { t with stop := t.start }

/-- Where a terminator is found does not depend on where the tokens end. -/
theorem Dialect.start_terminator?_congr (d : Dialect) {ts ts' : List Token}
    (h : ts.map Token.collapse = ts'.map Token.collapse) :
    (d.terminator? ts).map Token.start = (d.terminator? ts').map Token.start := by
  have hstart (us : List Token) : (d.terminator? us).map Token.start =
      (d.terminator? (us.map Token.collapse)).map Token.start := by
    have hkind (t : Token) : t.collapse.kind = t.kind := rfl
    rw [d.terminator?_map hkind, Option.map_map]
    rfl
  rw [hstart ts, hstart ts', h]

end QueryConsole.Sql
