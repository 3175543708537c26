import QueryConsole.Sql.Dialect

/-!
# The search for the end of a statement is local

The search looks ahead, but never beyond a terminator that it goes on to report. Two token lists
that agree up to a terminator are therefore searched alike, as long as the search leaves the
terminator unread. Each reader of tokens has a lemma that says so, and a search that finds a
terminator finds it whatever tokens stand behind it.
-/

namespace QueryConsole.Sql

/-- Both lists hold the same tokens up to `e` and including it, with `ds` and `ds'` behind it. -/
def AgreeTo (e : Token) (ds ds' ts ts' : List Token) : Prop :=
  ∃ as, ts = as ++ e :: ds ∧ ts' = as ++ e :: ds'

section Search

variable {e : Token} {ds ds' ts ts' : List Token}

theorem agreeTo_cons_iff {t : Token} : AgreeTo e ds ds' (t :: ts) ts' ↔
    (t = e ∧ ts = ds ∧ ts' = e :: ds') ∨ ∃ us, ts' = t :: us ∧ AgreeTo e ds ds' ts us := by
  constructor
  · rintro ⟨as, hts, hts'⟩
    cases as with
    | nil =>
      obtain ⟨rfl, rfl⟩ := List.cons.inj hts
      exact .inl ⟨rfl, rfl, hts'⟩
    | cons a as =>
      obtain ⟨rfl, rfl⟩ := List.cons.inj hts
      exact .inr ⟨as ++ e :: ds', hts', as, rfl, rfl⟩
  · rintro (⟨rfl, rfl, rfl⟩ | ⟨us, rfl, as, rfl, rfl⟩)
    · exact ⟨[], rfl, rfl⟩
    · exact ⟨t :: as, rfl, rfl⟩

theorem not_agreeTo_nil : ¬AgreeTo e ds ds' [] ts' := by
  rintro ⟨as, h, -⟩
  simp at h

theorem AgreeTo.head?_eq (h : AgreeTo e ds ds' ts ts') : ts'.head? = ts.head? := by
  obtain ⟨as, rfl, rfl⟩ := h
  cases as <;> rfl

/-- Whoever has read past the terminator has lost it. -/
theorem not_pending (h : ts <:+ ds) : ¬e :: ds <:+ ts := by
  intro hp
  have := h.length_le
  have := hp.length_le
  simp only [List.length_cons] at this
  omega

/-! ### Keywords and parentheses -/

theorem AgreeTo.nextKeyword?_eq (h : AgreeTo e ds ds' ts ts') :
    nextKeyword? ts' = nextKeyword? ts := by
  rw [nextKeyword?, nextKeyword?, h.head?_eq]

theorem AgreeTo.beginsBlock_eq (h : AgreeTo e ds ds' ts ts') :
    beginsBlock ts' = beginsBlock ts := by
  rw [beginsBlock, beginsBlock, h.nextKeyword?_eq]

/-- A terminator is no keyword, so it is not read where one is looked for. -/
theorem AgreeTo.dropKeyword? (he : e.isTerminator = true) (k : Keyword)
    (h : AgreeTo e ds ds' ts ts') :
    Option.Rel (AgreeTo e ds ds') (dropKeyword? k ts) (dropKeyword? k ts') := by
  cases ts with
  | nil => exact absurd h not_agreeTo_nil
  | cons t ts =>
    rcases agreeTo_cons_iff.1 h with ⟨rfl, rfl, rfl⟩ | ⟨us, rfl, hus⟩
    · simp only [Sql.dropKeyword?, Token.isKeyword_of_isTerminator he]
      exact .none
    · simp only [Sql.dropKeyword?]
      split
      · exact .some hus
      · exact .none

theorem AgreeTo.getD (h : AgreeTo e ds ds' ts ts') {x x' : Option (List Token)}
    (hx : Option.Rel (AgreeTo e ds ds') x x') : AgreeTo e ds ds' (x.getD ts) (x'.getD ts') := by
  cases hx with
  | some hx => exact hx
  | none => exact h

theorem AgreeTo.dropKeyword (he : e.isTerminator = true) (k : Keyword)
    (h : AgreeTo e ds ds' ts ts') : AgreeTo e ds ds' (dropKeyword k ts) (dropKeyword k ts') :=
  h.getD (h.dropKeyword? he k)

theorem AgreeTo.closeParens (he : e.isTerminator = true) {depth : Nat}
    (h : AgreeTo e ds ds' ts ts') (hp : e :: ds <:+ (closeParens depth ts).2) :
    (closeParens depth ts').1 = (closeParens depth ts).1 ∧
      AgreeTo e ds ds' (closeParens depth ts).2 (closeParens depth ts').2 := by
  induction ts generalizing depth ts' with
  | nil => exact absurd h not_agreeTo_nil
  | cons t ts ih =>
    rcases agreeTo_cons_iff.1 h with ⟨rfl, rfl, rfl⟩ | ⟨us, rfl, hus⟩
    · have hread : Sql.closeParens depth (t :: ts) = Sql.closeParens depth ts := by
        simp [Sql.closeParens, Token.isPunct_of_isTerminator he]
      rw [hread] at hp
      exact absurd hp (not_pending (closeParens_suffix depth ts))
    · unfold Sql.closeParens at hp ⊢
      split at hp
      · next hopen =>
        simp only [hopen, ↓reduceIte]
        exact ih hus hp
      · next hopen =>
        split at hp
        · next hclose =>
          simp only [hopen, hclose, ↓reduceIte]
          cases depth with
          | zero => exact ⟨rfl, hus⟩
          | succ d => exact ih hus hp
        · next hclose =>
          simp only [hopen, hclose]
          exact ih hus hp

theorem AgreeTo.skipParens (he : e.isTerminator = true) (h : AgreeTo e ds ds' ts ts')
    (hp : e :: ds <:+ (skipParens ts).2) :
    (skipParens ts').1 = (skipParens ts).1 ∧
      AgreeTo e ds ds' (skipParens ts).2 (skipParens ts').2 := by
  cases ts with
  | nil => exact absurd h not_agreeTo_nil
  | cons t ts =>
    rcases agreeTo_cons_iff.1 h with ⟨rfl, rfl, rfl⟩ | ⟨us, rfl, hus⟩
    · simp only [Sql.skipParens, Token.isPunct_of_isTerminator he]
      exact ⟨rfl, h⟩
    · rw [Sql.skipParens] at hp ⊢
      rw [Sql.skipParens]
      split at hp
      · next hopen =>
        simp only [hopen, ↓reduceIte]
        exact hus.closeParens he hp
      · next hopen =>
        simp only [hopen]
        exact ⟨rfl, h⟩

/-! ### Headers -/

theorem AgreeTo.skipModifiers (he : e.isTerminator = true) (h : AgreeTo e ds ds' ts ts') :
    AgreeTo e ds ds' (Header.skipModifiers ts) (Header.skipModifiers ts') := by
  have hor : Option.Rel (AgreeTo e ds ds')
      ((Sql.dropKeyword? .or ts).bind (Sql.dropKeyword? .replace))
      ((Sql.dropKeyword? .or ts').bind (Sql.dropKeyword? .replace)) := by
    have hor := h.dropKeyword? he .or
    generalize Sql.dropKeyword? .or ts = x, Sql.dropKeyword? .or ts' = x' at hor
    cases hor with
    | some hx => exact hx.dropKeyword? he .replace
    | none => exact .none
  have hsecure := (h.getD hor).dropKeyword he .secure
  exact (hsecure.dropKeyword he .temporary).getD (hsecure.dropKeyword? he .temp)

theorem AgreeTo.ofProcedure (he : e.isTerminator = true) {isSql : Bool}
    (h : AgreeTo e ds ds' ts ts') (hp : e :: ds <:+ (Header.ofProcedure isSql ts).rest) :
    (Header.ofProcedure isSql ts').opensScript = (Header.ofProcedure isSql ts).opensScript ∧
      AgreeTo e ds ds' (Header.ofProcedure isSql ts).rest (Header.ofProcedure isSql ts').rest := by
  fun_induction Header.ofProcedure isSql ts generalizing ts' with
  | case1 => exact absurd h not_agreeTo_nil
  | case2 isSql t ts ht =>
    have hread : Header.ofProcedure isSql ts' = ⟨false, ts'⟩ := by
      rcases agreeTo_cons_iff.1 h with ⟨rfl, rfl, rfl⟩ | ⟨us, rfl, -⟩
      · exact Header.ofProcedure_of_isTerminator ht
      · exact Header.ofProcedure_of_isTerminator ht
    rw [hread]
    exact ⟨rfl, h⟩
  | case3 isSql t ts ht hk ih =>
    rcases agreeTo_cons_iff.1 h with ⟨rfl, -, -⟩ | ⟨us, rfl, hus⟩
    · exact absurd he ht
    · rw [Header.ofProcedure_of_execute hk]
      exact ih (hus.dropKeyword he .as) hp
  | case4 isSql t ht hk => simp at hp
  | case5 isSql t ht hk u ts ih =>
    rcases agreeTo_cons_iff.1 h with ⟨rfl, -, -⟩ | ⟨us, rfl, hus⟩
    · exact absurd he ht
    · rcases agreeTo_cons_iff.1 hus with ⟨rfl, rfl, rfl⟩ | ⟨vs, rfl, hvs⟩
      · -- the terminator was read in place of the name of a language
        exact absurd hp (not_pending (Header.ofProcedure_suffix _ _))
      · rw [Header.ofProcedure_of_language hk]
        exact ih hvs hp
  | case6 isSql t ts ht hk =>
    rcases agreeTo_cons_iff.1 h with ⟨rfl, -, -⟩ | ⟨us, rfl, hus⟩
    · exact absurd he ht
    · rw [Header.ofProcedure_of_as hk, hus.nextKeyword?_eq]
      exact ⟨rfl, hus⟩
  | case7 isSql t ts ht hexecute hlanguage has ih =>
    rcases agreeTo_cons_iff.1 h with ⟨rfl, -, -⟩ | ⟨us, rfl, hus⟩
    · exact absurd he ht
    · rw [Header.ofProcedure_of_ne (by simpa using ht) hexecute hlanguage has]
      exact ih hus hp

theorem AgreeTo.read (he : e.isTerminator = true) (h : AgreeTo e ds ds' ts ts')
    (hp : e :: ds <:+ (Header.read ts).rest) :
    (Header.read ts').opensScript = (Header.read ts).opensScript ∧
      AgreeTo e ds ds' (Header.read ts).rest (Header.read ts').rest := by
  have hm := h.skipModifiers he
  have hfunction := hm.dropKeyword? he .function
  have hprocedure := hm.dropKeyword? he .procedure
  unfold Header.read at hp ⊢
  dsimp only at hp ⊢
  generalize Sql.dropKeyword? .function (Header.skipModifiers ts) = x,
    Sql.dropKeyword? .function (Header.skipModifiers ts') = x',
    Sql.dropKeyword? .procedure (Header.skipModifiers ts) = y,
    Sql.dropKeyword? .procedure (Header.skipModifiers ts') = y' at hfunction hprocedure hp ⊢
  cases hfunction with
  | some hx => exact ⟨rfl, hx⟩
  | none =>
    cases hprocedure with
    | some hy => exact hy.ofProcedure he hp
    | none => exact ⟨rfl, hm⟩

/-! ### Scripts -/

theorem AgreeTo.close? (he : e.isTerminator = true) (b : Block) (h : AgreeTo e ds ds' ts ts') :
    Option.Rel (AgreeTo e ds ds') (b.close? ts) (b.close? ts') := by
  cases b with
  | case => exact .some (h.dropKeyword he .case)
  | «if» => exact h.dropKeyword? he .if
  | «do» =>
    have hfor := h.dropKeyword? he .for
    have hwhile := h.dropKeyword? he .while
    simp only [Block.close?]
    generalize Sql.dropKeyword? .for ts = x, Sql.dropKeyword? .for ts' = x' at hfor
    cases hfor with
    | some hx => exact .some hx
    | none => exact hwhile
  | loop => exact h.dropKeyword? he .loop
  | «repeat» => exact h.dropKeyword? he .repeat
  | begin =>
    simp only [Block.close?, h.nextKeyword?_eq]
    split
    · exact .none
    · exact .some h

theorem AgreeTo.seekBegin? (he : e.isTerminator = true) (h : AgreeTo e ds ds' ts ts')
    {rest : List Token} (hs : seekBegin? ts = some rest) (hp : e :: ds <:+ rest) :
    ∃ rest', seekBegin? ts' = some rest' ∧ AgreeTo e ds ds' rest rest' := by
  induction ts generalizing ts' with
  | nil => exact absurd h not_agreeTo_nil
  | cons t ts ih =>
    rcases agreeTo_cons_iff.1 h with ⟨rfl, rfl, rfl⟩ | ⟨us, rfl, hus⟩
    · rw [Sql.seekBegin?, Token.isKeyword_of_isTerminator he] at hs
      exact absurd hp (not_pending (suffix_of_seekBegin? hs))
    · rw [Sql.seekBegin?] at hs ⊢
      rw [hus.beginsBlock_eq]
      split at hs
      · next hbegin =>
        rw [if_pos hbegin]
        exact ⟨_, rfl, Option.some.inj hs ▸ h⟩
      · next hbegin =>
        rw [if_neg hbegin]
        exact ih hus hs

/-- Where the first step leaves the terminator unread, the second is the same one. -/
def Script.Step.Agree (e : Token) (ds ds' : List Token) : Step → Step → Prop
  | .next s rest, x => e :: ds <:+ rest → ∃ rest', x = .next s rest' ∧ AgreeTo e ds ds' rest rest'
  | .done rest, x => e :: ds <:+ rest → ∃ rest', x = .done rest' ∧ AgreeTo e ds ds' rest rest'
  | .fail, _ => True

theorem AgreeTo.step (he : e.isTerminator = true) (s : Script) (t : Token)
    (h : AgreeTo e ds ds' ts ts') : (s.step t ts).Agree e ds ds' (s.step t ts') := by
  unfold Script.step
  split
  · -- CREATE
    intro hp
    obtain ⟨hopens, hrest⟩ := h.read he hp
    refine ⟨_, ?_, hrest⟩
    dsimp only
    rw [hopens]
  · -- CASE
    dsimp only
    by_cases hpending : e :: ds <:+ (Sql.skipParens ts).2
    · obtain ⟨-, hrest⟩ := h.skipParens he hpending
      have hwhen := hrest.dropKeyword? he .when
      generalize Sql.dropKeyword? .when (Sql.skipParens ts).2 = x,
        Sql.dropKeyword? .when (Sql.skipParens ts').2 = x' at hwhen
      cases hwhen with
      | none => exact fun _ => ⟨_, rfl, hrest⟩
      | some hafter => exact fun _ => ⟨_, rfl, hafter⟩
    · -- a terminator in the operand is passed in this step
      split
      · next hwhen => exact fun hp => absurd (hp.trans (suffix_of_dropKeyword? hwhen)) hpending
      · exact fun hp => absurd hp hpending
  · -- BEGIN
    intro _
    exact ⟨ts', by rw [h.beginsBlock_eq], h⟩
  · -- IF
    intro hp
    obtain ⟨hfound, hrest⟩ := h.skipParens he hp
    refine ⟨(Sql.skipParens ts').2, ?_, hrest⟩
    change Script.Step.next (if (Sql.skipParens ts').1 = true then s.push .if else s)
      (Sql.skipParens ts').2 =
        .next (if (Sql.skipParens ts).1 = true then s.push .if else s) (Sql.skipParens ts').2
    rw [hfound]
  · intro _
    exact ⟨ts', rfl, h⟩
  · intro _
    exact ⟨ts', rfl, h⟩
  · intro _
    exact ⟨ts', rfl, h⟩
  · -- END
    have hclose : Option.Rel (AgreeTo e ds ds') (s.blocks.head?.bind (·.close? ts))
        (s.blocks.head?.bind (·.close? ts')) := by
      cases s.blocks.head? with
      | none => exact .none
      | some b => exact h.close? he b
    generalize s.blocks.head?.bind (·.close? ts) = x, s.blocks.head?.bind (·.close? ts') = x'
      at hclose
    cases hclose with
    | none =>
      intro _
      exact ⟨ts', rfl, h⟩
    | @some rest rest' hrest =>
      cases s.pop? with
      | some outer =>
        intro _
        exact ⟨rest', rfl, hrest⟩
      | none =>
        intro _
        exact ⟨rest', rfl, hrest⟩
  · -- DECLARE
    split
    · next rest hseek =>
      intro hp
      obtain ⟨rest', hseek', hrest⟩ := h.seekBegin? he hseek hp
      exact ⟨rest', by rw [hseek'], hrest⟩
    · trivial
  · intro _
    exact ⟨ts', rfl, h⟩

theorem AgreeTo.skip? (he : e.isTerminator = true) {s : Script} (h : AgreeTo e ds ds' ts ts')
    {rest : List Token} (hs : s.skip? ts = some rest) (hp : e :: ds <:+ rest) :
    ∃ rest', s.skip? ts' = some rest' ∧ AgreeTo e ds ds' rest rest' := by
  fun_induction Script.skip? s ts generalizing ts' with
  | case1 => cases hs
  | case2 s t ts s' after hstep ih =>
    rcases agreeTo_cons_iff.1 h with ⟨rfl, rfl, rfl⟩ | ⟨us, rfl, hus⟩
    · have hafter := (Script.suffix_of_skip? hs).trans (Script.suffix_of_step_next hstep)
      exact absurd hp (not_pending hafter)
    · have hagree := hus.step he s t
      rw [hstep] at hagree
      obtain ⟨after', hstep', hafter⟩ := hagree (hp.trans (Script.suffix_of_skip? hs))
      obtain ⟨rest', hrest', hagree⟩ := ih hafter hs
      refine ⟨rest', ?_, hagree⟩
      rw [Script.skip?_of_next hstep', hrest']
  | case3 s t ts after hstep =>
    obtain rfl := Option.some.inj hs
    rcases agreeTo_cons_iff.1 h with ⟨rfl, rfl, rfl⟩ | ⟨us, rfl, hus⟩
    · exact absurd hp (not_pending (Script.suffix_of_step_done hstep))
    · have hagree := hus.step he s t
      rw [hstep] at hagree
      obtain ⟨after', hstep', hafter⟩ := hagree hp
      exact ⟨after', Script.skip?_of_done hstep', hafter⟩
  | case4 => cases hs

theorem AgreeTo.skipCreate (he : e.isTerminator = true) (h : AgreeTo e ds ds' ts ts')
    (hp : e :: ds <:+ skipCreate ts) : AgreeTo e ds ds' (skipCreate ts) (skipCreate ts') := by
  have hpread : e :: ds <:+ (Header.read ts).rest := by
    unfold Sql.skipCreate at hp
    dsimp only at hp
    split at hp
    · cases hs : Script.skip? {} (Header.read ts).rest with
      | none => simp [hs] at hp
      | some rest =>
        rw [hs] at hp
        exact hp.trans (Script.suffix_of_skip? hs)
    · exact hp
  obtain ⟨hopens, hrest⟩ := h.read he hpread
  unfold Sql.skipCreate at hp ⊢
  dsimp only at hp ⊢
  rw [hopens]
  split at hp
  · next hopen =>
    simp only [hopen, ↓reduceIte]
    cases hs : Script.skip? {} (Header.read ts).rest with
    | none => simp [hs] at hp
    | some rest =>
      rw [hs] at hp
      obtain ⟨rest', hrest', hagree⟩ := hrest.skip? he hs hp
      rw [hrest']
      exact hagree
  · next hopen =>
    simp only [hopen]
    exact hrest

end Search

/-! ### The end of a statement -/

/-- The search `f` finds the terminator `e` in `ts`, whatever tokens stand behind it. -/
def FindsLocally (f : List Token → Option Token) (ts : List Token) (e : Token) : Prop :=
  ∃ as bs, ts = as ++ e :: bs ∧ e.isTerminator = true ∧ ∀ bs', f (as ++ e :: bs') = some e

theorem AgreeTo.eq_append {e : Token} {as ds ds' ts' : List Token}
    (h : AgreeTo e ds ds' (as ++ e :: ds) ts') : ts' = as ++ e :: ds' := by
  obtain ⟨cs, hcs, rfl⟩ := h
  rw [List.append_cancel_right hcs]

theorem findsLocally_statementEnd? {ts : List Token} {e : Token} (h : statementEnd? ts = some e) :
    FindsLocally statementEnd? ts e := by
  fun_induction statementEnd? ts with
  | case1 => cases h
  | case2 t ts ht =>
    obtain rfl := Option.some.inj h
    refine ⟨[], ts, rfl, ht, ?_⟩
    intro bs'
    simp [statementEnd?, ht]
  | case3 t ts ht hcreate ih =>
    obtain ⟨as, bs, hskip, he, hfind⟩ := ih h
    obtain ⟨us, hus⟩ := skipCreate_suffix ts
    rw [hskip] at hus
    refine ⟨t :: (us ++ as), bs, by simp [← hus], he, ?_⟩
    intro bs'
    have hagree : AgreeTo e bs bs' ts (us ++ as ++ e :: bs') := ⟨us ++ as, by simp [← hus], rfl⟩
    have hcut := hagree.skipCreate he ⟨as, hskip.symm⟩
    rw [hskip] at hcut
    rw [List.cons_append, statementEnd?, if_neg ht, if_pos hcreate, hcut.eq_append, hfind]
  | case4 t ts ht hcreate ih =>
    obtain ⟨as, bs, rfl, he, hfind⟩ := ih h
    refine ⟨t :: as, bs, rfl, he, ?_⟩
    intro bs'
    rw [List.cons_append, statementEnd?, if_neg ht, if_neg hcreate, hfind]

theorem AgreeTo.opensBlock_eq {e : Token} {ds ds' ts ts' : List Token} (he : e.isTerminator = true)
    (h : AgreeTo e ds ds' ts ts') : opensBlock ts' = opensBlock ts := by
  cases ts with
  | nil => exact absurd h not_agreeTo_nil
  | cons t ts =>
    rcases agreeTo_cons_iff.1 h with ⟨rfl, rfl, rfl⟩ | ⟨us, rfl, hus⟩
    · simp only [opensBlock, Token.keyword?_of_isTerminator he]
    · simp only [opensBlock, hus.beginsBlock_eq]

theorem Dialect.findsLocally_terminator? {d : Dialect} {ts : List Token} {e : Token}
    (h : d.terminator? ts = some e) : FindsLocally d.terminator? ts e := by
  cases d with
  | ansi =>
    obtain ⟨he, as, bs, rfl, has⟩ := List.find?_eq_some_iff_append.1 h
    refine ⟨as, bs, rfl, he, ?_⟩
    intro bs'
    exact List.find?_eq_some_iff_append.2 ⟨he, as, bs', rfl, has⟩
  | snowflake =>
    cases hopens : opensBlock ts with
    | false =>
      simp only [terminator?, hopens] at h
      obtain ⟨as, bs, rfl, he, hfind⟩ := findsLocally_statementEnd? h
      refine ⟨as, bs, rfl, he, ?_⟩
      intro bs'
      have hagree : AgreeTo e bs bs' (as ++ e :: bs) (as ++ e :: bs') := ⟨as, rfl, rfl⟩
      simp only [terminator?, hagree.opensBlock_eq he, hopens]
      exact hfind bs'
    | true =>
      simp only [terminator?, hopens, ↓reduceIte] at h
      obtain ⟨rest, hskip, hend⟩ := Option.bind_eq_some_iff.1 h
      obtain ⟨as, bs, rfl, he, hfind⟩ := findsLocally_statementEnd? hend
      obtain ⟨us, rfl⟩ := Script.suffix_of_skip? hskip
      refine ⟨us ++ as, bs, by simp, he, ?_⟩
      intro bs'
      have hagree : AgreeTo e bs bs' (us ++ (as ++ e :: bs)) (us ++ as ++ e :: bs') :=
        ⟨us ++ as, by simp, rfl⟩
      obtain ⟨rest', hskip', hrest⟩ := hagree.skip? he hskip ⟨as, rfl⟩
      simp only [terminator?, hagree.opensBlock_eq he, hopens, ↓reduceIte, hskip',
        hrest.eq_append, Option.bind_some]
      exact hfind bs'

end QueryConsole.Sql
