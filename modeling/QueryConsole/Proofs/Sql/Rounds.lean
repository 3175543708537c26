import QueryConsole.Sql.Search
import QueryConsole.Proofs.Sql.Passing
import QueryConsole.Proofs.Sql.Pending

/-!
# Loops over a lexer

What the readers of a lexer find is what is found on the list of the tokens to come, and they leave a
lexer with the rest of that list. This is so for a loop if it is so for its rounds: each leaves a
shorter rest for the next one, or ends the loop.
-/

namespace QueryConsole.Sql

/-- The tokens behind the keywords `ks`, if all of them come next. -/
def dropKeywords? : List Keyword → List Token → Option (List Token)
  | [], ts => some ts
  | k :: ks, ts => (dropKeyword? k ts).bind (dropKeywords? ks)

namespace Lexer

variable {l e : Lexer} {ts : List Token} {t : Token}

/-! ### Looking ahead -/

theorem exists_peekKeyword (h : l.readAll = (ts, e)) :
    ∃ l', l.peekKeyword = (nextKeyword? ts, l') ∧ l'.readAll = (ts, e) := by
  obtain ⟨l', hpeek, hl'⟩ := exists_peek h
  exact ⟨l', by rw [peekKeyword, hpeek]; rfl, hl'⟩

theorem exists_skipKeywords (ks : List Keyword) (h : l.readAll = (ts, e)) :
    ∃ l', l.skipWords (ks.map Keyword.spelling) = ((dropKeywords? ks ts).isSome, l') ∧
      l'.readAll = ((dropKeywords? ks ts).getD ts, e) := by
  induction ks generalizing l ts with
  | nil => exact ⟨l, rfl, h⟩
  | cons k ks ih =>
    obtain ⟨l₁, hnext, hl₁⟩ := exists_next h
    rw [List.map_cons, skipWords, hnext]
    cases ts with
    | nil => exact ⟨l₁, rfl, hl₁⟩
    | cons t ts =>
      obtain ⟨l₂, hskip, hl₂⟩ := ih hl₁
      rw [dropKeywords?, dropKeyword?, Token.isKeyword]
      dsimp only [List.head?_cons, List.tail_cons] at hl₁ hl₂ hskip ⊢
      cases t.isWord k.spelling with
      | false => exact ⟨l₁.unget t, rfl, by rw [readAll_unget, hl₁]; rfl⟩
      | true =>
        rw [if_pos rfl, if_pos rfl, hskip, Option.bind_some]
        cases hdrop : dropKeywords? ks ts with
        | some rest => exact ⟨l₂, rfl, by rw [hl₂, hdrop]; rfl⟩
        | none => exact ⟨l₂.unget t, rfl, by rw [readAll_unget, hl₂, hdrop]; rfl⟩

theorem exists_takeKeyword (k : Keyword) (h : l.readAll = (ts, e)) :
    ∃ l', l.takeKeyword k = ((dropKeyword? k ts).isSome, l') ∧
      l'.readAll = (dropKeyword k ts, e) := by
  have hdrop : dropKeywords? [k] ts = dropKeyword? k ts := Option.bind_fun_some _
  rw [dropKeyword, ← hdrop]
  exact exists_skipKeywords [k] h

theorem exists_beginsBlock (h : l.readAll = (ts, e)) :
    ∃ l', l.beginsBlock = (Sql.beginsBlock ts, l') ∧ l'.readAll = (ts, e) := by
  obtain ⟨l', hpeek, hl'⟩ := exists_peekKeyword h
  exact ⟨l', by rw [beginsBlock, hpeek]; rfl, hl'⟩

theorem exists_opensBlock (h : l.readAll = (ts, e)) :
    ∃ l', l.opensBlock = (Sql.opensBlock ts, l') ∧ l'.readAll = (ts, e) := by
  obtain ⟨l₁, hnext, hl₁⟩ := exists_next h
  cases ts with
  | nil => exact ⟨l₁, by rw [opensBlock, hnext]; rfl, hl₁⟩
  | cons t ts =>
    obtain ⟨l₂, hbegins, hl₂⟩ := exists_beginsBlock hl₁
    have hback : (l₁.unget t).readAll = (t :: ts, e) := by rw [readAll_unget, hl₁]; rfl
    have hback' : (l₂.unget t).readAll = (t :: ts, e) := by rw [readAll_unget, hl₂]; rfl
    rw [opensBlock, hnext, Sql.opensBlock]
    dsimp only [List.head?_cons, List.tail_cons] at hbegins ⊢
    cases t.keyword? with
    | none => exact ⟨l₁.unget t, rfl, hback⟩
    | some k =>
      cases k
      case begin => exact ⟨l₂.unget t, by rw [hbegins], hback'⟩
      all_goals exact ⟨l₁.unget t, rfl, hback⟩

theorem exists_closes (b : Block) (h : l.readAll = (ts, e)) :
    ∃ l', l.closes b = ((b.close? ts).isSome, l') ∧ l'.readAll = ((b.close? ts).getD ts, e) := by
  cases b
  case case =>
    obtain ⟨l', htake, hl'⟩ := exists_takeKeyword .case h
    exact ⟨l', by rw [closes, htake]; rfl, hl'⟩
  case «if» => exact exists_takeKeyword .if h
  case «repeat» => exact exists_takeKeyword .repeat h
  case loop => exact exists_takeKeyword .loop h
  case «do» =>
    obtain ⟨l₁, hfor, hl₁⟩ := exists_takeKeyword .for h
    rw [closes, hfor, Block.close?]
    rw [dropKeyword] at hl₁
    cases hdrop : dropKeyword? .for ts with
    | some rest =>
      rw [hdrop] at hl₁
      exact ⟨l₁, rfl, hl₁⟩
    | none =>
      rw [hdrop] at hl₁
      exact exists_takeKeyword .while hl₁
  case begin =>
    obtain ⟨l', hpeek, hl'⟩ := exists_peekKeyword h
    rw [closes, hpeek, Block.close?]
    dsimp only
    split
    · next hany => exact ⟨l', by rw [hany]; rfl, hl'⟩
    · next hany => exact ⟨l', by rw [eq_false_of_ne_true hany]; rfl, hl'⟩

/-! ### Rounds -/

section Rounds

variable {α β : Type} (P : α → List Token → β → List Token → Prop)

/-- The round of a loop leaves a shorter rest of the tokens `ts`, on which the loop ends as it does
on `ts`, or ends the loop. That the loop, in the state `a` before `ts`, ends with `b` before `rest`
is `P a ts b rest`, and `e` is the lexer at the end of its text. -/
inductive Round.Finds (a : α) (ts : List Token) (e : Lexer) : Round α β → Prop
  | again {a' : α} {l : Lexer} {rest : List Token} (readAll_eq : l.readAll = (rest, e))
      (suffix : rest <:+ ts) (length_lt : rest.length < ts.length)
      (goes : ∀ b us, P a' rest b us → P a ts b us) : Finds a ts e (.again a' l)
  | done {b : β} {l : Lexer} {rest : List Token} (readAll_eq : l.readAll = (rest, e))
      (suffix : rest <:+ ts) (ends : P a ts b rest) : Finds a ts e (.done b l)

variable {P}

/-- A round that leaves tokens behind the first one goes on with fewer of them. -/
theorem Round.Finds.again_of_suffix {a a' : α} {rest : List Token} (hl : l.readAll = (rest, e))
    (hrest : rest <:+ ts) (hgoes : ∀ b us, P a' rest b us → P a (t :: ts) b us) :
    (Round.again a' l).Finds P a (t :: ts) e :=
  .again hl (hrest.trans (List.suffix_cons t ts)) (Nat.lt_succ_of_le hrest.length_le) hgoes

/-- A loop finds what its rounds find. -/
theorem exists_of_finds (loop : α → Lexer → β × Lexer) (round : α → Lexer → Round α β)
    (hloop : ∀ a l, loop a l = match round a l with
      | .again a l => loop a l
      | .done b l => (b, l))
    (hround : ∀ (a : α) (l : Lexer) (ts : List Token) (e : Lexer), l.readAll = (ts, e) →
      (round a l).Finds P a ts e)
    (a : α) (h : l.readAll = (ts, e)) :
    ∃ b l' rest, loop a l = (b, l') ∧ l'.readAll = (rest, e) ∧ P a ts b rest := by
  induction hn : ts.length using Nat.strong_induction_on generalizing a l ts with
  | _ n ih =>
    have hfinds := hround a l ts e h
    rw [hloop]
    cases hr : round a l with
    | done b l' =>
      rw [hr] at hfinds
      cases hfinds with
      | done hl _ hends => exact ⟨b, l', _, rfl, hl, hends⟩
    | again a' l' =>
      rw [hr] at hfinds
      cases hfinds with
      | again hl _ hlt hgoes =>
        obtain ⟨b, l₂, rest, hrun, hl₂, hends⟩ := ih _ (hn ▸ hlt) a' hl rfl
        exact ⟨b, l₂, rest, hrun, hl₂, hgoes b rest hends⟩

end Rounds

/-! ### Parentheses and declarations -/

theorem finds_parensRound (depth : Nat) (h : l.readAll = (ts, e)) :
    (l.parensRound depth).Finds (fun depth ts b rest => Sql.closeParens depth ts = (b, rest))
      depth ts e := by
  obtain ⟨l', hnext, hl'⟩ := exists_next h
  rw [parensRound, hnext]
  cases ts with
  | nil => exact .done hl' (List.suffix_refl _) rfl
  | cons t ts =>
    have hall := List.suffix_refl ts
    dsimp only [List.head?_cons, List.tail_cons] at hl' ⊢
    split
    · next hopen => exact .again_of_suffix hl' hall fun b us => (closeParens_open ts hopen).trans
    · next hopen =>
      split
      · next hclose =>
        cases depth with
        | zero =>
          refine .done hl' (List.suffix_cons t ts) ?_
          rw [Sql.closeParens, if_neg hopen, if_pos hclose]
        | succ depth =>
          exact .again_of_suffix hl' hall fun b us => (closeParens_close ts hclose).trans
      · next hclose =>
        exact .again_of_suffix hl' hall fun b us => (closeParens_other ts hopen hclose).trans

theorem exists_closeParens (depth : Nat) (h : l.readAll = (ts, e)) :
    ∃ l', l.closeParens depth = ((Sql.closeParens depth ts).1, l') ∧
      l'.readAll = ((Sql.closeParens depth ts).2, e) := by
  obtain ⟨b, l', rest, hl, hl', hends⟩ :=
    exists_of_finds closeParens parensRound
      (fun depth l => by rw [closeParens]; cases l.parensRound depth <;> rfl)
      (fun depth _ _ _ h => finds_parensRound depth h) depth h
  rw [hends]
  exact ⟨l', hl, hl'⟩

theorem exists_skipParens (h : l.readAll = (ts, e)) :
    ∃ l', l.skipParens = ((Sql.skipParens ts).1, l') ∧
      l'.readAll = ((Sql.skipParens ts).2, e) := by
  obtain ⟨l', hnext, hl'⟩ := exists_next h
  rw [skipParens, hnext]
  cases ts with
  | nil => exact ⟨l', rfl, hl'⟩
  | cons t ts =>
    rw [Sql.skipParens]
    dsimp only [List.head?_cons, List.tail_cons] at hl' ⊢
    cases t.isPunct '(' with
    | true => exact exists_closeParens 0 hl'
    | false => exact ⟨l'.unget t, rfl, by rw [readAll_unget, hl']; rfl⟩

theorem exists_cons_of_seekBegin? {rest : List Token} (h : seekBegin? ts = some rest) :
    ∃ t us, rest = t :: us ∧ t.isKeyword .begin = true ∧ Sql.beginsBlock us = true := by
  induction ts with
  | nil => cases h
  | cons t ts ih =>
    rw [seekBegin?] at h
    split at h
    · next hbegin => exact ⟨t, ts, (Option.some.inj h).symm, Bool.and_eq_true_iff.1 hbegin⟩
    · exact ih h

/-- The search for the `BEGIN` of a block ends there, or at the end of the tokens. -/
def FindsBegin (_ : Unit) (ts : List Token) (found : Bool) (rest : List Token) : Prop :=
  found = (seekBegin? ts).isSome ∧ rest = (seekBegin? ts).getD []

theorem finds_beginRound (h : l.readAll = (ts, e)) : l.beginRound.Finds FindsBegin () ts e := by
  obtain ⟨l₁, hnext, hl₁⟩ := exists_next h
  rw [beginRound, hnext]
  cases ts with
  | nil => exact .done hl₁ (List.suffix_refl _) ⟨rfl, rfl⟩
  | cons t ts =>
    have hall := List.suffix_refl ts
    obtain ⟨l₂, hbegins, hl₂⟩ := exists_beginsBlock hl₁
    have hseek : seekBegin? (t :: ts) =
      if t.isKeyword .begin && Sql.beginsBlock ts then some (t :: ts) else seekBegin? ts := rfl
    dsimp only [List.head?_cons, List.tail_cons] at hl₁ hl₂ hbegins ⊢
    rw [hbegins]
    cases hkeyword : t.isKeyword .begin with
    | false =>
      refine .again_of_suffix hl₁ hall fun b us hb => ?_
      rwa [FindsBegin, hseek, hkeyword]
    | true =>
      cases hblock : Sql.beginsBlock ts with
      | false =>
        refine .again_of_suffix hl₂ hall fun b us hb => ?_
        rwa [FindsBegin, hseek, hkeyword, hblock]
      | true =>
        have hunget : (l₂.unget t).readAll = (t :: ts, e) := by rw [readAll_unget, hl₂]
        refine .done hunget (List.suffix_refl _) ?_
        rw [FindsBegin, hseek, hkeyword, hblock]
        exact ⟨rfl, rfl⟩

theorem exists_seekBegin (h : l.readAll = (ts, e)) :
    ∃ l', l.seekBegin = ((seekBegin? ts).isSome, l') ∧
      l'.readAll = ((seekBegin? ts).getD [], e) := by
  obtain ⟨b, l', rest, hl, hl', rfl, rfl⟩ :=
    exists_of_finds (fun _ => seekBegin) (fun _ l => l.beginRound)
      (fun _ l => by rw [seekBegin]; cases l.beginRound <;> rfl)
      (fun _ _ _ _ h => finds_beginRound h) () h
  exact ⟨l', hl, hl'⟩

/-! ### Headers -/

theorem readAll_skipModifiers (h : l.readAll = (ts, e)) :
    l.skipModifiers.readAll = (Header.skipModifiers ts, e) := by
  have hdrop : dropKeywords? [.or, .replace] ts =
      (dropKeyword? .or ts).bind (dropKeyword? .replace) :=
    congrArg _ (funext fun us => Option.bind_fun_some _)
  obtain ⟨l₁, hor, hl₁⟩ := exists_skipKeywords [.or, .replace] h
  obtain ⟨l₂, hsecure, hl₂⟩ := exists_takeKeyword .secure hl₁
  obtain ⟨l₃, htemp, hl₃⟩ := exists_takeKeyword .temp hl₂
  have hfirst : (l.skipWords [Keyword.or.spelling, Keyword.replace.spelling]).2 = l₁ :=
    congrArg Prod.snd hor
  have hsecond : (l₁.takeKeyword .secure).2 = l₂ := congrArg Prod.snd hsecure
  rw [hdrop] at hl₂ hl₃ htemp
  rw [dropKeyword] at hl₃
  rw [skipModifiers, hfirst, hsecond, htemp, Header.skipModifiers]
  generalize dropKeyword .secure (((dropKeyword? .or ts).bind (dropKeyword? .replace)).getD ts) = us
    at hl₂ hl₃ ⊢
  cases htaken : dropKeyword? .temp us with
  | some rest =>
    rw [htaken] at hl₃
    exact hl₃
  | none =>
    rw [htaken] at hl₃
    obtain ⟨l₄, htemporary, hl₄⟩ := exists_takeKeyword .temporary hl₃
    have hthird : (l₃.takeKeyword .temporary).2 = l₄ := congrArg Prod.snd htemporary
    exact (congrArg readAll hthird).trans hl₄

/-- The header of a procedure ends before a body in the scripting language if the word `AS` was
found and the language is SQL, as `follows` says, and a block begins there. -/
def FindsHeader (isSql : Bool) (ts : List Token) (follows : Bool) (rest : List Token) : Prop :=
  Header.ofProcedure isSql ts =
    ⟨follows && (nextKeyword? rest).any fun k => k = .declare || k = .begin, rest⟩

theorem finds_headerRound (isSql : Bool) (h : l.readAll = (ts, e)) :
    (l.headerRound isSql).Finds FindsHeader isSql ts e := by
  obtain ⟨l₁, hnext, hl₁⟩ := exists_next h
  rw [headerRound, hnext]
  cases ts with
  | nil =>
    refine .done hl₁ (List.suffix_refl _) ?_
    rw [FindsHeader, Header.ofProcedure, Bool.false_and]
    rfl
  | cons t ts =>
    dsimp only [List.head?_cons, List.tail_cons] at hl₁ ⊢
    split
    · next hterminator =>
      have hunget : (l₁.unget t).readAll = (t :: ts, e) := by rw [readAll_unget, hl₁]
      exact .done hunget (List.suffix_refl _) (Header.ofProcedure_of_isTerminator hterminator)
    · next hterminator =>
      split
      · next hexecute =>
        obtain ⟨l₂, has, hl₂⟩ := exists_takeKeyword .as hl₁
        rw [has]
        exact .again_of_suffix hl₂ (dropKeyword_suffix .as ts)
          fun b us => (Header.ofProcedure_of_execute hexecute).trans
      · next hlanguage =>
        obtain ⟨l₂, hnext₂, hl₂⟩ := exists_next hl₁
        rw [hnext₂]
        refine .again_of_suffix hl₂ (List.tail_suffix ts) fun b us hb => ?_
        cases ts with
        | nil =>
          have hnil : Header.ofProcedure isSql [t] = ⟨false, []⟩ := by
            rw [Header.ofProcedure.eq_def]
            dsimp only
            rw [if_neg hterminator, hlanguage]
          rw [FindsHeader, List.tail_nil, Header.ofProcedure] at hb
          exact hnil.trans hb
        | cons u ts => exact (Header.ofProcedure_of_language hlanguage).trans hb
      · next has =>
        exact .done hl₁ (List.suffix_cons t ts) (Header.ofProcedure_of_as has)
      · next hexecute hlanguage has =>
        have hplain : t.isTerminator = false := eq_false_of_ne_true hterminator
        exact .again_of_suffix hl₁ (List.suffix_refl ts)
          fun b us => (Header.ofProcedure_of_ne hplain hexecute hlanguage has).trans

theorem exists_readHeader (isSql : Bool) (h : l.readAll = (ts, e)) :
    ∃ follows l' rest, l.readHeader isSql = (follows, l') ∧ l'.readAll = (rest, e) ∧
      FindsHeader isSql ts follows rest :=
  exists_of_finds readHeader headerRound
    (fun isSql l => by rw [readHeader]; cases l.headerRound isSql <;> rfl)
    (fun isSql _ _ _ h => finds_headerRound isSql h) isSql h

theorem exists_skipHeader (h : l.readAll = (ts, e)) :
    ∃ l', l.skipHeader = ((Header.read ts).opensScript, l') ∧
      l'.readAll = ((Header.read ts).rest, e) := by
  have hmodifiers := readAll_skipModifiers h
  obtain ⟨l₁, hfunction, hl₁⟩ := exists_takeKeyword .function hmodifiers
  rw [dropKeyword] at hl₁
  rw [skipHeader, hfunction, Header.read]
  cases hrest : dropKeyword? .function (Header.skipModifiers ts) with
  | some rest =>
    rw [hrest] at hl₁
    exact ⟨l₁, rfl, hl₁⟩
  | none =>
    rw [hrest] at hl₁
    obtain ⟨l₂, hprocedure, hl₂⟩ := exists_takeKeyword .procedure hl₁
    rw [dropKeyword] at hl₂
    rw [Option.getD_none] at hl₂ hprocedure
    dsimp only [Option.isSome_none]
    rw [hprocedure]
    cases hrest' : dropKeyword? .procedure (Header.skipModifiers ts) with
    | none =>
      rw [hrest'] at hl₂
      exact ⟨l₂, rfl, hl₂⟩
    | some rest =>
      rw [hrest'] at hl₂
      obtain ⟨follows, l₃, us, hheader, hl₃, hfinds⟩ := exists_readHeader true hl₂
      obtain ⟨l₄, hpeek, hl₄⟩ := exists_peekKeyword hl₃
      dsimp only [Option.isSome_some]
      rw [hheader, show Header.ofProcedure true rest = _ from hfinds]
      cases follows with
      | false => exact ⟨l₃, rfl, hl₃⟩
      | true =>
        dsimp only
        rw [hpeek]
        exact ⟨l₄, rfl, hl₄⟩

end Lexer

end QueryConsole.Sql
