import QueryConsole.Sql.Dialect

/-!
# Well nested scripts

A grammar of scripts, said without a stack: what opens a block of each kind, what closes it, and
what may stand between. Some brackets are told apart by the keyword behind them, so the grammar
speaks of the tokens that follow. The search for the end of a script steps over every well nested
block and comes back to the blocks that were open before it.
-/

namespace QueryConsole.Sql

/-- A token that neither opens nor closes a block, nor may lead up to one. -/
def Token.IsPlain (t : Token) : Prop :=
  ∀ k ∈ t.keyword?, k ∉ [.create, .case, .begin, .if, .do, .loop, .repeat, .end, .declare]

/-- A group of tokens whose parentheses balance at its end and not before. -/
def IsParens (ts : List Token) : Prop :=
  (∃ t ∈ ts.head?, t.isPunct '(' = true) ∧
  ts.countP (·.isPunct '(') = ts.countP (·.isPunct ')') ∧
  ∀ us, us <+: ts → us ≠ [] → us ≠ ts → us.countP (·.isPunct ')') < us.countP (·.isPunct '(')

namespace Block

/-- The tokens that open a block of a kind, with those behind them. -/
inductive Opening : Block → List Token → List Token → Prop
  | case {t w : Token} (rest : List Token) : t.keyword? = some .case → w.keyword? = some .when →
      Opening .case [t, w] rest
  | caseOf {t w : Token} {ps : List Token} (rest : List Token) : t.keyword? = some .case →
      IsParens ps → w.keyword? = some .when → Opening .case (t :: ps ++ [w]) rest
  | «if» {t : Token} {ps : List Token} (rest : List Token) : t.keyword? = some .if → IsParens ps →
      Opening .if (t :: ps) rest
  | «do» {t : Token} (rest : List Token) : t.keyword? = some .do → Opening .do [t] rest
  | loop {t : Token} (rest : List Token) : t.keyword? = some .loop → Opening .loop [t] rest
  | «repeat» {t : Token} (rest : List Token) : t.keyword? = some .repeat → Opening .repeat [t] rest
  | begin {t : Token} {rest : List Token} : t.keyword? = some .begin →
      (∀ k ∈ nextKeyword? rest, k ∉ [.transaction, .work, .name]) → Opening .begin [t] rest
  | declare {d t : Token} {ds rest : List Token} : d.keyword? = some .declare →
      (∀ u ∈ ds, u.keyword? ≠ some .begin) → t.keyword? = some .begin →
      (∀ k ∈ nextKeyword? rest, k ∉ [.transaction, .work, .name]) →
      Opening .begin (d :: ds ++ [t]) rest

/-- The tokens that close a block of a kind, with those behind them. -/
inductive Closing : Block → List Token → List Token → Prop
  | case {e : Token} {rest : List Token} : e.keyword? = some .end → nextKeyword? rest ≠ some .case →
      Closing .case [e] rest
  | endCase {e t : Token} (rest : List Token) : e.keyword? = some .end → t.keyword? = some .case →
      Closing .case [e, t] rest
  | «if» {e t : Token} (rest : List Token) : e.keyword? = some .end → t.keyword? = some .if →
      Closing .if [e, t] rest
  | «for» {e t : Token} (rest : List Token) : e.keyword? = some .end → t.keyword? = some .for →
      Closing .do [e, t] rest
  | «while» {e t : Token} (rest : List Token) : e.keyword? = some .end → t.keyword? = some .while →
      Closing .do [e, t] rest
  | loop {e t : Token} (rest : List Token) : e.keyword? = some .end → t.keyword? = some .loop →
      Closing .loop [e, t] rest
  | «repeat» {e t : Token} (rest : List Token) : e.keyword? = some .end →
      t.keyword? = some .repeat → Closing .repeat [e, t] rest
  | begin {e : Token} {rest : List Token} : e.keyword? = some .end →
      (∀ k ∈ nextKeyword? rest, k ∉ [.if, .case, .for, .loop]) → Closing .begin [e] rest

end Block

/-- What may stand inside a block. -/
inductive IsBody : List Token → Prop
  | nil : IsBody []
  | plain {t : Token} {ts : List Token} : t.IsPlain → IsBody ts → IsBody (t :: ts)
  | block {b : Block} {os bs cs ts : List Token} : b.Opening os bs → IsBody bs → b.Closing cs ts →
      IsBody ts → IsBody (os ++ bs ++ cs ++ ts)

/-- A block that is a script of its own. -/
def IsBlock (ts : List Token) : Prop :=
  ∃ os bs e, ts = os ++ bs ++ [e] ∧ Block.Opening .begin os bs ∧ IsBody bs ∧
    e.keyword? = some .end

/-- What may stand between `PROCEDURE` and the `AS` before its body: every `AS` there belongs to an
`EXECUTE`, and the language is SQL. -/
structure Header.IsRegular (hs : List Token) : Prop where
  isTerminator : ∀ t ∈ hs, t.isTerminator = false
  execute_as : ∀ as t bs, hs = as ++ t :: bs → t.keyword? = some .as →
    ∃ u ∈ as.getLast?, u.keyword? = some .execute
  getLast : ∀ t ∈ hs.getLast?, t.keyword? ≠ some .execute
  language_sql : ∀ as t bs, hs = as ++ t :: bs → t.keyword? = some .language →
    nextKeyword? bs = some .sql

/-- The tokens spell one of the given sequences of keywords. -/
def SpellsOneOf (kss : List (List Keyword)) (ts : List Token) : Prop :=
  ∃ ks ∈ kss, ts.map Token.keyword? = ks.map some

/-- A block, or the creation of a procedure whose body is one. -/
inductive IsScript : List Token → Prop
  | block {ts : List Token} : IsBlock ts → IsScript ts
  | procedure {c p a : Token} {rs ss ms hs bs : List Token} : c.keyword? = some .create →
      SpellsOneOf [[], [.or, .replace]] rs → SpellsOneOf [[], [.secure]] ss →
      SpellsOneOf [[], [.temp], [.temporary]] ms → p.keyword? = some .procedure →
      Header.IsRegular hs → a.keyword? = some .as → IsBlock bs →
      IsScript (c :: (rs ++ ss ++ ms ++ p :: (hs ++ a :: bs)))

/-! ### Keywords and parentheses -/

theorem Token.isPlain_of_keyword? {t : Token} (h : t.keyword? = none) : t.IsPlain := by
  intro k hk
  rw [h] at hk
  cases hk

theorem dropKeyword?_of_keyword? {t : Token} {ts : List Token} {k : Keyword}
    (h : t.keyword? = some k) : dropKeyword? k (t :: ts) = some ts := by
  simp [dropKeyword?, Token.isKeyword_iff.2 h]

theorem dropKeyword?_of_ne {ts : List Token} {k : Keyword} (h : nextKeyword? ts ≠ some k) :
    dropKeyword? k ts = none := by
  cases ts with
  | nil => rfl
  | cons t ts =>
    have ht : ¬t.isKeyword k = true := by
      intro hk
      exact h (Token.isKeyword_iff.1 hk)
    simp [dropKeyword?, ht]

theorem isPunct_close_of_open {t : Token} (h : t.isPunct '(' = true) : t.isPunct ')' = false := by
  simp only [Token.isPunct, beq_iff_eq] at h
  simp [Token.isPunct, h]

theorem closeParens_of_balance {depth : Nat} {ts : List Token} (rest : List Token)
    (heq : depth + 1 + ts.countP (·.isPunct '(') = ts.countP (·.isPunct ')'))
    (hlt : ∀ us, us <+: ts → us ≠ ts →
      us.countP (·.isPunct ')') < depth + 1 + us.countP (·.isPunct '(')) :
    closeParens depth (ts ++ rest) = (true, rest) := by
  induction ts generalizing depth with
  | nil => simp at heq
  | cons t ts ih =>
    have htail : ∀ us, us <+: ts → us ≠ ts →
        (t :: us).countP (·.isPunct ')') < depth + 1 + (t :: us).countP (·.isPunct '(') := by
      intro us hus hne
      exact hlt (t :: us) ((List.prefix_cons_inj t).2 hus) (by simpa using hne)
    simp only [List.countP_cons] at heq htail
    rw [List.cons_append]
    unfold closeParens
    by_cases hopen : t.isPunct '(' = true
    · simp only [hopen, isPunct_close_of_open hopen, Bool.false_eq_true, ↓reduceIte, Nat.add_zero]
        at heq htail ⊢
      refine ih (by omega) ?_
      intro us hus hne
      have := htail us hus hne
      omega
    · by_cases hclose : t.isPunct ')' = true
      · simp only [hopen, hclose, Bool.false_eq_true, ↓reduceIte, Nat.add_zero] at heq htail ⊢
        cases depth with
        | zero =>
          -- nothing more belongs to a group that is closed here
          cases ts with
          | nil => rfl
          | cons u ts =>
            have := htail [] List.nil_prefix (List.cons_ne_nil u ts).symm
            simp at this
        | succ d =>
          refine ih (by omega) ?_
          intro us hus hne
          have := htail us hus hne
          omega
      · simp only [hopen, hclose, Bool.false_eq_true, ↓reduceIte, Nat.add_zero] at heq htail ⊢
        exact ih heq htail

theorem IsParens.skipParens {ts : List Token} (h : IsParens ts) (rest : List Token) :
    skipParens (ts ++ rest) = (true, rest) := by
  obtain ⟨⟨t, ht, hopen⟩, heq, hlt⟩ := h
  cases ts with
  | nil => cases ht
  | cons u ts =>
    obtain rfl := Option.some.inj ht
    have hclose := isPunct_close_of_open hopen
    rw [List.cons_append, Sql.skipParens, if_pos hopen]
    simp only [List.countP_cons, hopen, hclose, Bool.false_eq_true, ↓reduceIte, Nat.add_zero] at heq
    refine closeParens_of_balance rest (by omega) ?_
    intro us hus hne
    have hprefix := (List.prefix_cons_inj u).2 hus
    have hcount := hlt (u :: us) hprefix (List.cons_ne_nil u us) (by simpa using hne)
    simp only [List.countP_cons, hopen, hclose, Bool.false_eq_true, ↓reduceIte, Nat.add_zero]
      at hcount
    omega

theorem skipParens_of_keyword? {t : Token} {ts : List Token} {k : Keyword}
    (h : t.keyword? = some k) : skipParens (t :: ts) = (false, t :: ts) := by
  have hopen : ¬t.isPunct '(' = true := by
    intro hp
    rw [Token.keyword?_of_isPunct hp] at h
    cases h
  rw [skipParens, if_neg hopen]

theorem beginsBlock_of_notMem {ts : List Token}
    (h : ∀ k ∈ nextKeyword? ts, k ∉ [.transaction, .work, .name]) : beginsBlock ts = true := by
  unfold beginsBlock
  cases hk : nextKeyword? ts with
  | none => rfl
  | some k =>
    have := h k hk
    simp [Keyword.beginsTransaction, this]

theorem seekBegin?_append {ds rest : List Token} {t : Token}
    (hds : ∀ u ∈ ds, u.keyword? ≠ some .begin) (ht : t.keyword? = some .begin)
    (hbegins : beginsBlock rest = true) : seekBegin? (ds ++ t :: rest) = some (t :: rest) := by
  induction ds with
  | nil => simp [seekBegin?, Token.isKeyword_iff.2 ht, hbegins]
  | cons d ds ih =>
    have hd : d.isKeyword .begin = false := by
      rw [Bool.eq_false_iff, Ne, Token.isKeyword_iff]
      exact hds d List.mem_cons_self
    rw [List.cons_append, seekBegin?, hd, Bool.false_and, if_neg Bool.false_ne_true]
    apply ih
    intro u hu
    exact hds u (List.mem_cons_of_mem d hu)

/-! ### Opening and closing a block -/

/-- Inside a body an `END` comes next where the body ends. -/
theorem notMem_nextKeyword?_append {ks : List Keyword} {ts rest : List Token}
    (h : ∀ k ∈ nextKeyword? ts, k ∉ ks) (hrest : nextKeyword? rest = some .end)
    (hend : .end ∉ ks) : ∀ k ∈ nextKeyword? (ts ++ rest), k ∉ ks := by
  intro k hk
  cases ts with
  | nil =>
    rw [List.nil_append, hrest] at hk
    cases hk
    exact hend
  | cons t ts => exact h k hk

namespace Block

variable {b : Block} {os cs ts rest : List Token}

theorem Opening.append (h : b.Opening os ts) (hrest : nextKeyword? rest = some .end) :
    b.Opening os (ts ++ rest) := by
  cases h with
  | case _ ht hw => exact .case _ ht hw
  | caseOf _ ht hps hw => exact .caseOf _ ht hps hw
  | «if» _ ht hps => exact .if _ ht hps
  | «do» _ ht => exact .do _ ht
  | loop _ ht => exact .loop _ ht
  | «repeat» _ ht => exact .repeat _ ht
  | begin ht hnext => exact .begin ht (notMem_nextKeyword?_append hnext hrest (by decide))
  | declare hd hds ht hnext =>
    exact .declare hd hds ht (notMem_nextKeyword?_append hnext hrest (by decide))

theorem Closing.append (h : b.Closing cs ts) (hrest : nextKeyword? rest = some .end) :
    b.Closing cs (ts ++ rest) := by
  cases h with
  | case he hnext =>
    refine .case he ?_
    cases ts with
    | nil => simp [hrest]
    | cons t ts => exact hnext
  | endCase _ he ht => exact .endCase _ he ht
  | «if» _ he ht => exact .if _ he ht
  | «for» _ he ht => exact .for _ he ht
  | «while» _ he ht => exact .while _ he ht
  | loop _ he ht => exact .loop _ he ht
  | «repeat» _ he ht => exact .repeat _ he ht
  | begin he hnext => exact .begin he (notMem_nextKeyword?_append hnext hrest (by decide))

/-- The closing tokens are an `END` and what qualifies it for the kind of block. -/
theorem Closing.exists_end (h : b.Closing cs rest) :
    ∃ e qs, cs = e :: qs ∧ e.keyword? = some .end ∧ b.close? (qs ++ rest) = some rest := by
  cases h with
  | @case e _ he hnext =>
    exact ⟨e, [], rfl, he, by simp [close?, dropKeyword, dropKeyword?_of_ne hnext]⟩
  | @endCase e t _ he ht =>
    exact ⟨e, [t], rfl, he, by simp [close?, dropKeyword, dropKeyword?_of_keyword? ht]⟩
  | @«if» e t _ he ht => exact ⟨e, [t], rfl, he, dropKeyword?_of_keyword? ht⟩
  | @«for» e t _ he ht =>
    exact ⟨e, [t], rfl, he, by simp [close?, dropKeyword?_of_keyword? ht]⟩
  | @«while» e t _ he ht =>
    have hfor : dropKeyword? .for (t :: rest) = none :=
      dropKeyword?_of_ne (by simp [nextKeyword?, ht])
    exact ⟨e, [t], rfl, he, by simp [close?, hfor, dropKeyword?_of_keyword? ht]⟩
  | @loop e t _ he ht => exact ⟨e, [t], rfl, he, dropKeyword?_of_keyword? ht⟩
  | @«repeat» e t _ he ht => exact ⟨e, [t], rfl, he, dropKeyword?_of_keyword? ht⟩
  | @begin e _ he hnext =>
    refine ⟨e, [], rfl, he, ?_⟩
    have hany : ((nextKeyword? rest).any (· ∈ [.if, .case, .for, .loop])) = false := by
      cases hk : nextKeyword? rest with
      | none => rfl
      | some k => simpa using hnext k hk
    rw [List.nil_append, close?, if_neg (Bool.eq_false_iff.1 hany)]

theorem Closing.nextKeyword?_eq (h : b.Closing cs ts) (rest : List Token) :
    nextKeyword? (cs ++ rest) = some .end := by
  obtain ⟨e, qs, rfl, he, -⟩ := h.exists_end
  exact he

end Block

namespace Script

theorem pop?_push {s : Script} (b : Block) (h : s.blocks ≠ []) : (s.push b).pop? = some s := by
  obtain ⟨_ | ⟨c, bs⟩, outer⟩ := s
  · exact absurd rfl h
  · rfl

theorem skip?_opening (s : Script) {b : Block} {os rest : List Token} (h : b.Opening os rest) :
    s.skip? (os ++ rest) = (s.push b).skip? rest := by
  have hbegin {t : Token} (ht : t.keyword? = some .begin) (hnext : beginsBlock rest = true) :
      s.skip? (t :: rest) = (s.push .begin).skip? rest :=
    skip?_of_next (by simp [step, ht, hnext])
  cases h with
  | case _ ht hw =>
    exact skip?_of_next
      (by simp [step, ht, skipParens_of_keyword? hw, dropKeyword?_of_keyword? hw])
  | @caseOf t w ps _ ht hps hw =>
    have hparens := hps.skipParens (w :: rest)
    rw [List.append_assoc, List.cons_append]
    exact skip?_of_next (by simp [step, ht, hparens, dropKeyword?_of_keyword? hw])
  | «if» _ ht hps => exact skip?_of_next (by simp [step, ht, hps.skipParens rest])
  | «do» _ ht => exact skip?_of_next (by simp [step, ht])
  | loop _ ht => exact skip?_of_next (by simp [step, ht])
  | «repeat» _ ht => exact skip?_of_next (by simp [step, ht])
  | begin ht hnext => exact hbegin ht (beginsBlock_of_notMem hnext)
  | @declare d t ds _ hd hds ht hnext =>
    have hbegins := beginsBlock_of_notMem hnext
    have hseek := seekBegin?_append hds ht hbegins
    have hstep : s.step d (ds ++ t :: rest) = .next s (t :: rest) := by simp [step, hd, hseek]
    rw [List.append_assoc, List.cons_append, List.singleton_append, skip?_of_next hstep]
    exact hbegin ht hbegins

theorem skip?_closing {s : Script} {b : Block} {cs rest : List Token} (h : b.Closing cs rest)
    (hs : s.blocks ≠ []) : (s.push b).skip? (cs ++ rest) = s.skip? rest := by
  obtain ⟨e, qs, rfl, he, hclose⟩ := h.exists_end
  apply skip?_of_next
  have hhead : (s.push b).blocks.head? = some b := rfl
  simp [step, he, hhead, hclose, pop?_push b hs]

theorem step_of_isPlain (s : Script) {t : Token} (h : t.IsPlain) (ts : List Token) :
    s.step t ts = .next s ts := by
  unfold step
  split
  case h_10 => rfl
  all_goals
    next hk => exact absurd (h _ hk) (by decide)

end Script

/-! ### Bodies and scripts -/

/-- The search passes over a body without a trace. -/
theorem IsBody.skip?_append {ts : List Token} (h : IsBody ts) {s : Script} (hs : s.blocks ≠ [])
    {rest : List Token} (hrest : nextKeyword? rest = some .end) :
    s.skip? (ts ++ rest) = s.skip? rest := by
  induction h generalizing s rest with
  | nil => rfl
  | plain ht _ ih =>
    rw [List.cons_append, Script.skip?_of_next (s.step_of_isPlain ht _)]
    exact ih hs hrest
  | @block b os bs cs ts hopen _ hclose _ ihbody ih =>
    have hend := hclose.nextKeyword?_eq (ts ++ rest)
    have hpush : (s.push b).blocks ≠ [] := List.cons_ne_nil _ _
    calc s.skip? (os ++ bs ++ cs ++ ts ++ rest)
        = s.skip? (os ++ (bs ++ (cs ++ (ts ++ rest)))) := by simp
      _ = (s.push b).skip? (bs ++ (cs ++ (ts ++ rest))) := s.skip?_opening (hopen.append hend)
      _ = (s.push b).skip? (cs ++ (ts ++ rest)) := ihbody hpush hend
      _ = s.skip? (ts ++ rest) := Script.skip?_closing (hclose.append hrest) hs
      _ = s.skip? rest := ih hs hrest

theorem IsBlock.skip?_append {ts rest : List Token} (h : IsBlock ts)
    (hrest : ∀ k ∈ nextKeyword? rest, k ∉ [.if, .case, .for, .loop]) :
    Script.skip? {} (ts ++ rest) = some rest := by
  obtain ⟨os, bs, e, rfl, hopen, hbody, he⟩ := h
  obtain ⟨e', qs, hcs, -, hclose⟩ := (Block.Closing.begin he hrest).exists_end
  obtain ⟨rfl, rfl⟩ := List.cons.inj hcs
  rw [List.nil_append] at hclose
  have hdone : (Script.push .begin {}).step e rest = .done rest := by
    have hhead : (Script.push .begin {}).blocks.head? = some .begin := rfl
    have hpop : (Script.push .begin {}).pop? = none := rfl
    simp [Script.step, he, hhead, hclose, hpop]
  calc Script.skip? {} (os ++ bs ++ [e] ++ rest)
      = Script.skip? {} (os ++ (bs ++ e :: rest)) := by simp
    _ = (Script.push .begin {}).skip? (bs ++ e :: rest) := Script.skip?_opening _ (hopen.append he)
    _ = (Script.push .begin {}).skip? (e :: rest) := hbody.skip?_append (List.cons_ne_nil _ _) he
    _ = some rest := Script.skip?_of_done hdone

/-- A block begins with a word that the search for one recognises. -/
theorem IsBlock.exists_cons {ts : List Token} (h : IsBlock ts) : ∃ t us, ts = t :: us ∧
    (t.keyword? = some .declare ∨
      t.keyword? = some .begin ∧ ∀ rest, beginsBlock (us ++ rest) = true) := by
  obtain ⟨os, bs, e, rfl, hopen, -, he⟩ := h
  cases hopen with
  | @begin t _ ht hnext =>
    refine ⟨t, bs ++ [e], rfl, .inr ⟨ht, ?_⟩⟩
    intro rest
    rw [List.append_assoc]
    exact beginsBlock_of_notMem (notMem_nextKeyword?_append hnext he (by decide))
  | @declare d t ds _ hd => exact ⟨d, ds ++ [t] ++ bs ++ [e], by simp, .inl hd⟩

namespace Header

variable {hs rest : List Token} {a t : Token}

theorem IsRegular.nextKeyword?_ne (h : IsRegular hs) : nextKeyword? hs ≠ some .as := by
  intro has
  cases hs with
  | nil => cases has
  | cons u hs =>
    obtain ⟨v, hv, -⟩ := h.execute_as [] u hs rfl has
    cases hv

/-- An `AS` cannot follow a token that is not `EXECUTE`. -/
theorem IsRegular.nextKeyword?_ne_of_ne (us : List Token) (h : IsRegular (us ++ t :: hs))
    (ht : t.keyword? ≠ some .execute) : nextKeyword? hs ≠ some .as := by
  intro has
  cases hs with
  | nil => cases has
  | cons u hs =>
    obtain ⟨v, hv, hexecute⟩ := h.execute_as (us ++ [t]) u hs (by simp) has
    rw [List.getLast?_concat] at hv
    obtain rfl := Option.some.inj hv
    exact ht hexecute

/-- What follows in a header is regular, unless it begins with the `AS` of an `EXECUTE`. -/
theorem IsRegular.of_append (us : List Token) (h : IsRegular (us ++ hs))
    (hhead : nextKeyword? hs ≠ some .as) : IsRegular hs where
  isTerminator t ht := h.isTerminator t (List.mem_append_right us ht)
  execute_as as t bs heq ht := by
    obtain ⟨u, hu, hexecute⟩ := h.execute_as (us ++ as) t bs (by simp [heq]) ht
    cases as with
    | nil =>
      rw [heq] at hhead
      exact absurd ht hhead
    | cons b as =>
      rw [List.getLast?_append, List.getLast?_cons, Option.some_or] at hu
      exact ⟨u, by rwa [List.getLast?_cons], hexecute⟩
  getLast t ht := by
    have hlast := h.getLast t
    rw [List.getLast?_append, Option.mem_def.1 ht, Option.some_or] at hlast
    exact hlast rfl
  language_sql as t bs heq ht := h.language_sql (us ++ as) t bs (by simp [heq]) ht

/-- A regular header is read up to the `AS` behind it. -/
theorem ofProcedure_of_isRegular (ha : a.keyword? = some .as) (h : IsRegular hs) :
    ofProcedure true (hs ++ a :: rest) =
      ⟨(nextKeyword? rest).any fun k => k = .declare || k = .begin, rest⟩ := by
  induction hn : hs.length using Nat.strongRecOn generalizing hs with
  | ind n ih =>
    cases hs with
    | nil => rw [List.nil_append, ofProcedure_of_as ha, Bool.true_and]
    | cons t hs =>
      rw [List.length_cons] at hn
      have hrest (hhead : nextKeyword? hs ≠ some .as) := ih hs.length (by omega)
        (IsRegular.of_append [t] h hhead) rfl
      by_cases hexecute : t.keyword? = some .execute
      · rw [List.cons_append, ofProcedure_of_execute hexecute]
        cases hs with
        | nil => exact absurd hexecute (h.getLast t rfl)
        | cons u hs =>
          by_cases hu : u.keyword? = some .as
          · -- the two words are read together, and no further AS belongs to this EXECUTE
            have hhead := IsRegular.nextKeyword?_ne_of_ne [t] h (by simp [hu])
            rw [List.length_cons] at hn
            rw [List.cons_append, dropKeyword, dropKeyword?_of_keyword? hu, Option.getD_some]
            exact ih hs.length (by omega) (IsRegular.of_append [t, u] h hhead) rfl
          · rw [dropKeyword, dropKeyword?_of_ne (by exact hu), Option.getD_none]
            exact hrest hu
      · have hhead := IsRegular.nextKeyword?_ne_of_ne [] h hexecute
        by_cases hlanguage : t.keyword? = some .language
        · have hsql := h.language_sql [] t hs rfl hlanguage
          cases hs with
          | nil => cases hsql
          | cons u hs =>
            have hu : u.keyword? = some .sql := hsql
            have hhead := IsRegular.nextKeyword?_ne_of_ne [t] h (by simp [hu])
            rw [List.length_cons] at hn
            rw [List.cons_append, List.cons_append, ofProcedure_of_language hlanguage,
              Token.isKeyword_iff.2 hu]
            exact ih hs.length (by omega) (IsRegular.of_append [t, u] h hhead) rfl
        · have ht := h.isTerminator t List.mem_cons_self
          rw [List.cons_append, ofProcedure_of_ne ht hexecute hlanguage h.nextKeyword?_ne]
          exact hrest hhead

theorem read_procedure {rs ss ms : List Token} {p : Token}
    (hr : SpellsOneOf [[], [.or, .replace]] rs) (hs : SpellsOneOf [[], [.secure]] ss)
    (hm : SpellsOneOf [[], [.temp], [.temporary]] ms) (hp : p.keyword? = some .procedure) :
    read (rs ++ ss ++ ms ++ p :: rest) = ofProcedure true rest := by
  have hskip : skipModifiers (rs ++ ss ++ ms ++ p :: rest) = p :: rest := by
    simp only [SpellsOneOf, List.mem_cons, List.not_mem_nil, or_false, exists_eq_or_imp,
      exists_eq_left, List.map_nil, List.map_cons, List.map_eq_nil_iff, List.map_eq_cons_iff]
      at hr hs hm
    rcases hr with rfl | ⟨x, _, rfl, hx, y, _, rfl, hy, rfl⟩
    all_goals rcases hs with rfl | ⟨z, _, rfl, hz, rfl⟩
    all_goals rcases hm with rfl | ⟨u, _, rfl, hu, rfl⟩ | ⟨u, _, rfl, hu, rfl⟩
    all_goals simp [skipModifiers, dropKeyword, dropKeyword?, Token.isKeyword_eq_decide, *]
  have hfunction : dropKeyword? .function (p :: rest) = none :=
    dropKeyword?_of_ne (by simp [nextKeyword?, hp])
  simp only [read, hskip, hfunction, dropKeyword?_of_keyword? hp]

end Header

/-- The search goes on behind a script as if it were not there. -/
theorem IsScript.terminator?_append {ts : List Token} (h : IsScript ts) (rest : List Token)
    (hrest : ∀ k ∈ nextKeyword? rest, k ∉ [.if, .case, .for, .loop]) :
    Dialect.snowflake.terminator? (ts ++ rest) = statementEnd? rest := by
  cases h with
  | block h =>
    have hopens : opensBlock (ts ++ rest) = true := by
      obtain ⟨t, us, rfl, ht | ⟨ht, hbegins⟩⟩ := h.exists_cons
      · simp [opensBlock, ht]
      · simp [opensBlock, ht, hbegins]
    rw [Dialect.terminator?, if_pos hopens, h.skip?_append hrest, Option.bind_some]
  | @procedure c p a rs ss ms hs bs hc hr hs' hm hp hregular ha h =>
    have hopens : opensBlock (c :: (rs ++ ss ++ ms ++ p :: (hs ++ a :: bs)) ++ rest) = false := by
      simp [opensBlock, hc]
    have hbody : ((nextKeyword? (bs ++ rest)).any fun k => k = .declare || k = .begin) = true := by
      obtain ⟨t, us, rfl, ht | ⟨ht, -⟩⟩ := h.exists_cons <;> simp [nextKeyword?, ht]
    have hread : Header.read (rs ++ ss ++ ms ++ p :: (hs ++ a :: (bs ++ rest))) =
        ⟨true, bs ++ rest⟩ := by
      rw [Header.read_procedure hr hs' hm hp, Header.ofProcedure_of_isRegular ha hregular, hbody]
    have hskip : skipCreate (rs ++ ss ++ ms ++ p :: (hs ++ a :: (bs ++ rest))) = rest := by
      simp only [skipCreate, hread, ↓reduceIte, h.skip?_append hrest, Option.getD_some]
    have hterminator := Token.isTerminator_of_keyword? hc
    rw [Dialect.terminator?, hopens]
    simp only [List.cons_append, List.append_assoc] at hskip ⊢
    rw [if_neg Bool.false_ne_true, statementEnd?, hterminator, Token.isKeyword_iff.2 hc, hskip]
    simp

/-- A buffer that holds a script and nothing more has no terminator, and the first terminator
behind a script ends it. -/
theorem analyze_script (c : Char) {buffer : Text} {ts : List Token} (h : IsScript ts) :
    (tokens (Dialect.snowflake.options c) buffer = ts →
      (Dialect.snowflake.analyze c buffer).terminator? = none) ∧
    ∀ e more, e.isTerminator = true →
      tokens (Dialect.snowflake.options c) buffer = ts ++ e :: more →
      (Dialect.snowflake.analyze c buffer).terminator? = some e.start := by
  constructor
  · intro hts
    have hend := h.terminator?_append [] (by simp [nextKeyword?])
    rw [List.append_nil, ← hts] at hend
    rw [Dialect.terminator?_analyze, hend, statementEnd?, Option.map_none]
  · intro e more he hts
    have hnext : nextKeyword? (e :: more) = none := Token.keyword?_of_isTerminator he
    have hend := h.terminator?_append (e :: more) (by simp [hnext])
    rw [Dialect.terminator?_analyze, hts, hend, statementEnd?, if_pos he, Option.map_some]

theorem analyze_script_with_case :
    ∃ ts, IsScript ts ∧
      tokens (Dialect.snowflake.options ';') "BEGIN CASE WHEN a END; END".toList = ts ∧
      (Dialect.snowflake.analyze ';' "BEGIN CASE WHEN a END; END".toList).terminator? = none ∧
      tokens (Dialect.snowflake.options ';') "BEGIN CASE WHEN a END; END; z".toList =
        ts ++ ⟨.terminator ';', 26, 27⟩ :: [⟨.word "Z".toList, 28, 29⟩] ∧
      (Dialect.snowflake.analyze ';' "BEGIN CASE WHEN a END; END; z".toList).terminator? =
        some 26 := by
  let script : List Token :=
    [⟨.word "BEGIN".toList, 0, 5⟩] ++
      ([⟨.word "CASE".toList, 6, 10⟩, ⟨.word "WHEN".toList, 11, 15⟩] ++
        [⟨.word "A".toList, 16, 17⟩] ++ [⟨.word "END".toList, 18, 21⟩] ++
        [⟨.terminator ';', 21, 22⟩]) ++
      [⟨.word "END".toList, 23, 26⟩]
  have hopening : Block.Opening .case
      [⟨.word "CASE".toList, 6, 10⟩, ⟨.word "WHEN".toList, 11, 15⟩]
      [⟨.word "A".toList, 16, 17⟩] :=
    .case _ (by decide +kernel) (by decide +kernel)
  have hclosing : Block.Closing .case [⟨.word "END".toList, 18, 21⟩] [⟨.terminator ';', 21, 22⟩] :=
    .case (by decide +kernel) (by decide +kernel)
  have hcase : IsBody _ := .block hopening
    (.plain (Token.isPlain_of_keyword? (by decide +kernel)) .nil) hclosing
    (.plain (Token.isPlain_of_keyword? rfl) .nil)
  have hscript : IsScript script :=
    .block ⟨_, _, _, rfl, .begin (by decide +kernel) (by decide +kernel), hcase, by decide +kernel⟩
  have hbare : tokens (Dialect.snowflake.options ';') "BEGIN CASE WHEN a END; END".toList =
      script := by decide +kernel
  have hmore : tokens (Dialect.snowflake.options ';') "BEGIN CASE WHEN a END; END; z".toList =
      script ++ ⟨.terminator ';', 26, 27⟩ :: [⟨.word "Z".toList, 28, 29⟩] := by decide +kernel
  exact ⟨script, hscript, hbare, (analyze_script ';' hscript).1 hbare, hmore,
    (analyze_script ';' hscript).2 _ _ rfl hmore⟩

end QueryConsole.Sql
