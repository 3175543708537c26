import Mathlib.Data.List.Infix
import QueryConsole.Proofs.Sql.Decomposition
import QueryConsole.Proofs.Sql.Passing
import QueryConsole.Proofs.Stability

/-!
# A CASE expression in a script

A `CASE` expression that is inserted behind a terminator inside a script moves the end of the
statement by its length, as its own `END` closes nothing but itself. For that the `CASE` has to be
recorded, and it is not if its operand stands without parentheses: then its `END` closes the block
around it.
-/

namespace QueryConsole.Sql

/-- A word that is no keyword. -/
def Token.IsName (t : Token) : Prop := ∃ w, t.word? = some w ∧ t.keyword? = none

/-- Tokens that spell `SELECT CASE e WHEN a THEN b END` with names for `a` and `b`, where the
operand `e` is spelled by the tokens `es`. -/
inductive IsSelectCase (es : List Token) : List Token → Prop
  | mk {sel c w a th b n : Token} : sel.isWord "SELECT".toList = true → c.keyword? = some .case →
      w.keyword? = some .when → a.IsName → th.isWord "THEN".toList = true → b.IsName →
      n.keyword? = some .end → IsSelectCase es (sel :: c :: (es ++ [w, a, th, b, n]))

/-- An operand without parentheses around it or in it. -/
def IsBare (es : List Token) : Prop :=
  ∀ t ∈ es, t.keyword? = none ∧ t.isPunct '(' = false ∧ t.isPunct ')' = false

/-- An operand of a `CASE`: it is missing, in parentheses, or bare. -/
inductive IsOperand : List Token → Prop
  | none : IsOperand []
  | parens {es : List Token} : IsParens es → IsOperand es
  | bare {es : List Token} : IsBare es → IsOperand es

/-- What the end of a script needs in order to be found behind a `CASE` with the operand `es`, when
its place is passed at the token `t` in the state `s`. -/
structure Script.Admits (s : Script) (t : Token) (es : List Token) : Prop where
  /-- The place is not in a header, where only the name of a language can be a terminator. -/
  not_header : t.keyword? ≠ some .create
  /-- Declarations end at a `BEGIN`. -/
  not_begin : t.keyword? = some .declare → ∀ u ∈ es, u.keyword? ≠ some .begin
  /-- In the open the script at hand has begun, and the `CASE` is recorded. -/
  recorded : t.isTerminator = true → s.blocks ≠ [] ∧ (es = [] ∨ IsParens es)

namespace Token

theorem keyword?_of_isWord {t : Token} {w : Text} (hw : Keyword.ofWord? w = none)
    (h : t.isWord w = true) : t.keyword? = none := by
  unfold isWord at h
  unfold keyword?
  cases ht : t.word? with
  | none => rfl
  | some v =>
    have hcase : Text.asciiUpper w = Text.asciiUpper v := by
      simpa [ht, Text.sameIgnoringCase] using h
    rw [Option.bind_some, ← hw, Keyword.ofWord?, Keyword.ofWord?, hcase]

theorem isPunct_of_word? {t : Token} {w : Text} (h : t.word? = some w) (c : Char) :
    t.isPunct c = false := by
  cases hk : t.kind <;> simp_all [word?, isPunct]

theorem isPunct_of_keyword? {t : Token} {k : Keyword} (h : t.keyword? = some k) (c : Char) :
    t.isPunct c = false := by
  obtain ⟨w, hw, -⟩ := Option.bind_eq_some_iff.1 h
  exact isPunct_of_word? hw c

theorem isPunct_of_isWord {t : Token} {w : Text} (h : t.isWord w = true) (c : Char) :
    t.isPunct c = false := by
  obtain ⟨v, hv, -⟩ := (Option.any_eq_true _ _).1 h
  exact isPunct_of_word? hv c

end Token

theorem keyword?_select {t : Token} (h : t.isWord "SELECT".toList = true) : t.keyword? = none :=
  Token.keyword?_of_isWord (by decide +kernel) h

theorem keyword?_then {t : Token} (h : t.isWord "THEN".toList = true) : t.keyword? = none :=
  Token.keyword?_of_isWord (by decide +kernel) h

section Case

variable {es ws : List Token} {f : Token}

theorem IsOperand.isLevel (h : IsOperand es) : IsLevel es := by
  cases h with
  | none => exact isLevel_of_notMem (by simp)
  | parens h => exact h.isLevel
  | bare h => exact isLevel_of_notMem fun t ht => (h t ht).2

theorem IsSelectCase.isLevel (h : IsSelectCase es ws) (hes : IsOperand es)
    (hf : f.isTerminator = true) : IsLevel (ws ++ [f]) := by
  cases h with
  | @mk sel c w a th b n hsel hc hw ha hth hb hn =>
    obtain ⟨_, ha, -⟩ := ha
    obtain ⟨_, hb, -⟩ := hb
    have hfront : IsLevel [sel, c] := isLevel_of_notMem (by
      simp [Token.isPunct_of_isWord hsel, Token.isPunct_of_keyword? hc])
    have hback : IsLevel [w, a, th, b, n, f] := isLevel_of_notMem (by
      simp [Token.isPunct_of_keyword? hw, Token.isPunct_of_word? ha, Token.isPunct_of_isWord hth,
        Token.isPunct_of_word? hb, Token.isPunct_of_keyword? hn, Token.isPunct_of_isTerminator hf])
    simpa using (hfront.append hes.isLevel).append hback

theorem IsSelectCase.not_begin (h : IsSelectCase es ws) (hf : f.isTerminator = true)
    (hes : ∀ u ∈ es, u.keyword? ≠ some .begin) : ∀ u ∈ ws ++ [f], u.keyword? ≠ some .begin := by
  cases h with
  | mk hsel hc hw ha hth hb hn =>
    obtain ⟨_, -, ha⟩ := ha
    obtain ⟨_, -, hb⟩ := hb
    simpa [keyword?_select hsel, hc, hw, ha, keyword?_then hth, hb, hn,
      Token.keyword?_of_isTerminator hf, or_imp, forall_and] using hes

/-- A recorded `CASE` opens a block and closes it. -/
theorem IsSelectCase.skip?_append (h : IsSelectCase es ws) (hes : es = [] ∨ IsParens es)
    (hf : f.isTerminator = true) {s : Script} (hs : s.blocks ≠ []) (rest : List Token) :
    s.skip? (ws ++ [f] ++ rest) = s.skip? rest := by
  have hplain (s : Script) {t : Token} (ht : t.IsPlain) (ts : List Token) :
      s.skip? (t :: ts) = s.skip? ts := Script.skip?_of_next (s.step_of_isPlain ht ts)
  have hend := Token.keyword?_of_isTerminator hf
  cases h with
  | @mk sel c w a th b n hsel hc hw ha hth hb hn =>
    obtain ⟨_, -, ha⟩ := ha
    obtain ⟨_, -, hb⟩ := hb
    have hopening : Block.Opening .case (c :: es ++ [w]) (a :: th :: b :: n :: f :: rest) := by
      rcases hes with rfl | hes
      · exact .case _ hc hw
      · exact .caseOf _ hc hes hw
    have hclosing : Block.Closing .case [n] (f :: rest) := .case hn (by simp [nextKeyword?, hend])
    calc s.skip? (sel :: c :: (es ++ [w, a, th, b, n]) ++ [f] ++ rest)
      _ = s.skip? (sel :: ((c :: es ++ [w]) ++ (a :: th :: b :: n :: f :: rest))) := by simp
      _ = (s.push .case).skip? (a :: th :: b :: n :: f :: rest) := by
        rw [hplain _ (Token.isPlain_of_keyword? (keyword?_select hsel)), s.skip?_opening hopening]
      _ = (s.push .case).skip? ([n] ++ f :: rest) := by
        rw [hplain _ (Token.isPlain_of_keyword? ha),
          hplain _ (Token.isPlain_of_keyword? (keyword?_then hth)),
          hplain _ (Token.isPlain_of_keyword? hb)]
        rfl
      _ = s.skip? rest := by
        rw [Script.skip?_closing hclosing hs, hplain _ (Token.isPlain_of_keyword? hend)]

end Case

/-! ### Moved tokens -/

section Map

variable {f : Token → Token} (hf : ∀ t, (f t).kind = t.kind) {es ws : List Token}

include hf

theorem word?_map (t : Token) : (f t).word? = t.word? := by
  simp only [Token.word?, hf]

theorem isWord_map (w : Text) (t : Token) : (f t).isWord w = t.isWord w := by
  simp only [Token.isWord, word?_map hf]

theorem countP_isPunct_map (c : Char) (ts : List Token) :
    (ts.map f).countP (·.isPunct c) = ts.countP (·.isPunct c) := by
  have hpunct : (fun t : Token => t.isPunct c) ∘ f = fun t => t.isPunct c :=
    funext fun t => Token.isPunct_congr (hf t) c
  rw [List.countP_map, hpunct]

theorem IsParens.map (h : IsParens es) : IsParens (es.map f) := by
  obtain ⟨⟨t, ht, hopen⟩, heq, hlt⟩ := h
  refine ⟨⟨f t, ?_, ?_⟩, ?_, fun us hus hnil hall => ?_⟩
  · rw [List.head?_map, Option.mem_def.1 ht]
    rfl
  · rw [Token.isPunct_congr (hf t), hopen]
  · rw [countP_isPunct_map hf, countP_isPunct_map hf, heq]
  · obtain ⟨vs, hvs, rfl⟩ := List.prefix_map_iff.1 hus
    rw [countP_isPunct_map hf, countP_isPunct_map hf]
    exact hlt vs hvs (fun h => hnil (by rw [h, List.map_nil])) fun h => hall (by rw [h])

theorem IsBare.map (h : IsBare es) : IsBare (es.map f) := by
  refine List.forall_mem_map.2 fun t ht => ?_
  rw [Token.keyword?_congr (hf t), Token.isPunct_congr (hf t), Token.isPunct_congr (hf t)]
  exact h t ht

theorem IsOperand.map (h : IsOperand es) : IsOperand (es.map f) := by
  cases h with
  | none => exact .none
  | parens h => exact .parens (h.map hf)
  | bare h => exact .bare (h.map hf)

theorem IsName.map {t : Token} (h : t.IsName) : (f t).IsName := by
  obtain ⟨w, hw, hk⟩ := h
  exact ⟨w, by rw [word?_map hf, hw], by rw [Token.keyword?_congr (hf t), hk]⟩

theorem IsSelectCase.map (h : IsSelectCase es ws) : IsSelectCase (es.map f) (ws.map f) := by
  cases h with
  | @mk sel c w a th b n hsel hc hw ha hth hb hn =>
    rw [List.map_cons, List.map_cons, List.map_append]
    refine .mk ?_ ?_ ?_ (IsName.map hf ha) ?_ (IsName.map hf hb) ?_
    · rwa [isWord_map hf]
    · rwa [Token.keyword?_congr (hf c)]
    · rwa [Token.keyword?_congr (hf w)]
    · rwa [isWord_map hf]
    · rwa [Token.keyword?_congr (hf n)]

theorem Script.Admits.map {s : Script} {t t' : Token} (h : s.Admits t es)
    (ht : t'.kind = t.kind) : s.Admits t' (es.map f) := by
  refine ⟨?_, ?_, ?_⟩
  · rw [Token.keyword?_congr ht]
    exact h.not_header
  · rw [Token.keyword?_congr ht]
    intro hdeclare
    refine List.forall_mem_map.2 fun u hu => ?_
    rw [Token.keyword?_congr (hf u)]
    exact h.not_begin hdeclare u hu
  · rw [Token.isTerminator_congr ht]
    intro hterminator
    obtain ⟨hs, rfl | hes⟩ := h.recorded hterminator
    · exact ⟨hs, .inl rfl⟩
    · exact ⟨hs, .inr (hes.map hf)⟩

end Map

/-- The token, moved `m` bytes further on if it does not begin before the offset `n`. -/
def Token.shiftFrom (n m : Nat) (t : Token) : Token := if n ≤ t.start then t.shift m else t

theorem Token.kind_shiftFrom (n m : Nat) (t : Token) : (t.shiftFrom n m).kind = t.kind := by
  unfold shiftFrom
  split <;> rfl

theorem map_shiftFrom_of_le {n : Nat} (m : Nat) {ts : List Token} (h : ∀ t ∈ ts, n ≤ t.start) :
    ts.map (Token.shiftFrom n m) = ts.map (Token.shift m) :=
  List.map_congr_left fun t ht => if_pos (h t ht)

theorem map_shiftFrom_of_lt {n : Nat} (m : Nat) {ts : List Token} (h : ∀ t ∈ ts, t.start < n) :
    ts.map (Token.shiftFrom n m) = ts := by
  refine (List.map_congr_left (g := id) fun t ht => if_neg ?_).trans (List.map_id ts)
  exact Nat.not_le_of_lt (h t ht)

/-! ### Inserted text -/

section Text

variable {o : Lexer.Options} {before after w : Text} {as bs ws : List Token} {e f : Token}

theorem append_inj_of_size {s s' u u' : Text} (h : s ++ u = s' ++ u')
    (hsize : Text.size s = Text.size s') : s = s' ∧ u = u' := by
  rcases List.append_eq_append_iff.1 h with ⟨v, rfl, rfl⟩ | ⟨v, rfl, rfl⟩
  all_goals
    rw [Text.size_append] at hsize
    obtain rfl : v = [] := Text.size_eq_zero_iff.1 (by omega)
    simp

/-- The tokens of a text into which one is inserted behind a terminator, when that one ends in a
terminator as well. -/
theorem tokens_insert (hbuffer : tokens o (before ++ after) = as ++ e :: bs)
    (he : e.isTerminator = true) (hstop : e.stop = Text.size before)
    (hw : tokens o w = ws ++ [f]) (hf : f.isTerminator = true) (hend : f.stop = Text.size w) :
    tokens o (before ++ w ++ after) =
      as ++ e :: ((ws ++ [f]).map (Token.shift (Text.size before)) ++
        bs.map (Token.shift (Text.size w))) := by
  obtain ⟨xs, back, hxs, rfl, rfl⟩ := exists_tiling_of_tokens hbuffer he
  have htokens := hxs.tokens_terminator
  have hcover := hxs.eq_cover_append
  rw [← List.singleton_append, ← List.append_assoc] at hcover
  obtain ⟨rfl, rfl⟩ := append_inj_of_size hcover hstop.symm
  obtain rfl : bs = _ := (List.cons.inj (List.append_cancel_left (hbuffer.symm.trans htokens))).2
  obtain ⟨ys, back, hys, rfl, rfl⟩ := exists_tiling_of_tokens hw hf
  have hcover' := hys.eq_cover_append
  rw [← List.singleton_append, ← List.append_assoc] at hcover'
  obtain ⟨rfl, rfl⟩ := append_inj_of_size (u := []) (by rw [List.append_nil, hcover']) hend.symm
  -- the lexemes before a terminator do not look behind it
  have hfront := hxs.congr (show (o.terminator :: (Lexeme.cover ys ++ [o.terminator] ++
    after)).head? = _ from rfl)
  have hinner := hys.congr (show (o.terminator :: after).head? = _ from rfl)
  have hjoin (t u v : Text) (c : Char) : t ++ [c] ++ u ++ v = t ++ c :: (u ++ v) := by simp
  have hlexemes : lexemes o (Lexeme.cover ys ++ [o.terminator] ++ after) =
      ys ++ ⟨[o.terminator], some (.terminator o.terminator), none⟩ :: lexemes o after := by
    rw [List.append_assoc, List.singleton_append, hinner.lexemes_eq, lexemes_terminator]
  rw [hjoin, hfront.tokens_terminator, hlexemes, Lexeme.tokens_append, ← Lexeme.tokens_add,
    List.map_append, ← Lexeme.tokens_add, Nat.zero_add]
  simp [Lexeme.tokens, Token.shift, Nat.add_assoc, Nat.add_comm, Nat.add_left_comm]

end Text

/-! ### The end of the statement -/

/-- The search among tokens into which a `CASE` is inserted. -/
theorem terminator?_insert {as bs es ws : List Token} {e f : Token} {s : Script} {t : Token}
    (he : e.isTerminator = true) (hf : f.isTerminator = true) (hcase : IsSelectCase es ws)
    (hes : IsOperand es) (hpasses : Script.Passes {} (as ++ e :: bs) bs s t)
    (hadmits : s.Admits t es) (hopens : opensBlock (as ++ e :: bs) = true) :
    Dialect.snowflake.terminator? (as ++ e :: (ws ++ [f] ++ bs)) =
      Dialect.snowflake.terminator? (as ++ e :: bs) := by
  have hagree : AgreeTo e bs (ws ++ [f] ++ bs) (as ++ e :: bs) (as ++ e :: (ws ++ [f] ++ bs)) :=
    ⟨as, rfl, rfl⟩
  have hskip := Script.skip?_insert he hpasses (hcase.isLevel hes hf)
    (fun ht => hcase.not_begin hf (hadmits.not_begin ht)) hadmits.not_header fun ht =>
      hcase.skip?_append (hadmits.recorded ht).2 hf (hadmits.recorded ht).1 bs
  rw [Dialect.terminator?, Dialect.terminator?, hagree.opensBlock_eq he, hskip, if_pos hopens,
    if_pos hopens]

/-- What is found at the end of a script stands behind each place in it. -/
theorem Script.Passes.suffix_of_skip? {s₀ s : Script} {ts place rest : List Token} {t : Token}
    (h : Passes s₀ ts place s t) (hskip : s₀.skip? ts = some rest) : rest <:+ place := by
  obtain ⟨us, s', after, hruns, hstep, hafter, -⟩ := h
  rw [hruns.skip?_eq, Script.skip?_of_next hstep] at hskip
  exact (Script.suffix_of_skip? hskip).trans hafter

/-- The tokens of a text, moved on from the offset at which a terminator ends. -/
theorem map_shiftFrom {o : Lexer.Options} {buffer : Text} {as bs : List Token} {e : Token} (m : Nat)
    (h : tokens o buffer = as ++ e :: bs) :
    (as ++ e :: bs).map (Token.shiftFrom e.stop m) = as ++ e :: bs.map (Token.shift m) ∧
      ∀ b ∈ bs, e.stop ≤ b.start := by
  rw [tokens_eq] at h
  have hspan : ∀ a ∈ as ++ e :: bs, a.start < a.stop := fun a ha =>
    (Lexeme.standsIn_of_mem_tokens (tiling_lexemes o buffer) (h ▸ ha)).1
  have hpairwise := Lexeme.pairwise_tokens 0 (lexemes o buffer)
  rw [h] at hpairwise
  obtain ⟨-, htail, hfront⟩ := List.pairwise_append.1 hpairwise
  have hback := (List.pairwise_cons.1 htail).1
  have hstay : ∀ a ∈ as ++ [e], a.start < e.stop := by
    intro a ha
    have hstop := hspan e (by simp)
    rcases List.mem_append.1 ha with ha | ha
    · have := hspan a (by simp [ha])
      have := hfront a ha e (by simp)
      omega
    · rwa [List.mem_singleton.1 ha]
  refine ⟨?_, hback⟩
  rw [List.append_cons, List.map_append, map_shiftFrom_of_lt m hstay, map_shiftFrom_of_le m hback,
    ← List.append_cons]

/-- The search behind a place passes the moved place as well, and finds the moved terminator. -/
theorem terminator?_shift {o : Lexer.Options} {buffer : Text} {as bs : List Token} {e g t : Token}
    {s : Script} (m : Nat) (hbuffer : tokens o buffer = as ++ e :: bs)
    (hopens : opensBlock (as ++ e :: bs) = true)
    (hpasses : Script.Passes {} (as ++ e :: bs) bs s t)
    (h : Dialect.snowflake.terminator? (as ++ e :: bs) = some g) :
    let moved := as ++ e :: bs.map (Token.shift m)
    opensBlock moved = true ∧
      Script.Passes {} moved (bs.map (Token.shift m)) s (t.shiftFrom e.stop m) ∧
      Dialect.snowflake.terminator? moved = some (g.shift m) := by
  intro moved
  have hkind := Token.kind_shiftFrom e.stop m
  obtain ⟨hmap, hback⟩ := map_shiftFrom m hbuffer
  have hmove := map_shiftFrom_of_le m hback
  have hg : g ∈ bs := by
    rw [Dialect.terminator?, if_pos hopens] at h
    obtain ⟨rest, hskip, hend⟩ := Option.bind_eq_some_iff.1 h
    obtain ⟨cs, ds, rfl, -, -⟩ := findsLocally_statementEnd? hend
    exact (hpasses.suffix_of_skip? hskip).subset (by simp)
  refine ⟨?_, ?_, ?_⟩
  · rw [show moved = _ from hmap.symm, opensBlock_map hkind, hopens]
  · have hmoved := hpasses.map hkind
    rwa [hmap, hmove] at hmoved
  · rw [show moved = _ from hmap.symm, Dialect.snowflake.terminator?_map hkind, h, Option.map_some,
      Token.shiftFrom, if_pos (hback g hg)]

/-- Behind `BEGIN` and plain words the search is in a block. -/
theorem Script.runs_begin {b : Token} {ts rest : List Token} (hb : b.keyword? = some .begin)
    (hbegins : beginsBlock (ts ++ rest) = true) (hts : ∀ t ∈ ts, t.IsPlain) :
    Runs {} (b :: ts ++ rest) ⟨[.begin], []⟩ rest := by
  have hstep : Script.step {} b (ts ++ rest) = .next ⟨[.begin], []⟩ (ts ++ rest) := by
    simp [step, hb, hbegins, push]
  exact .next hstep (runs_append _ hts rest)

/-- Each place behind a terminator in a script is passed. If a `CASE` is inserted there and it is
admitted, the statement ends at the same terminator as before. -/
theorem analyze_insert_case (c : Char) {before after w : Text} {p : Nat} {as bs es ws : List Token}
    {e f : Token} (hbuffer : tokens (Dialect.snowflake.options c) (before ++ after) = as ++ e :: bs)
    (he : e.isTerminator = true) (hstop : e.stop = Text.size before)
    (hopens : opensBlock (as ++ e :: bs) = true)
    (hw : tokens (Dialect.snowflake.options c) w = ws ++ [f]) (hf : f.isTerminator = true)
    (hend : f.stop = Text.size w) (hcase : IsSelectCase es ws) (hes : IsOperand es)
    (h : (Dialect.snowflake.analyze c (before ++ after)).terminator? = some p) :
    (∀ rest, Script.skip? {} (as ++ e :: bs) = some rest → rest <:+ bs →
      ∃ s t, Script.Passes {} (as ++ e :: bs) bs s t) ∧
    ∀ s t, Script.Passes {} (as ++ e :: bs) bs s t → s.Admits t es →
      (Dialect.snowflake.analyze c (before ++ w ++ after)).terminator? =
        some (p + Text.size w) := by
  refine ⟨fun rest => Script.exists_passes he, fun s t hpasses hadmits => ?_⟩
  rw [Dialect.terminator?_analyze, hbuffer] at h
  obtain ⟨g, hg, rfl⟩ := Option.map_eq_some_iff.1 h
  obtain ⟨hopens', hpasses', hg'⟩ := terminator?_shift (Text.size w) hbuffer hopens hpasses hg
  have hkind (t : Token) : (t.shift (Text.size before)).kind = t.kind := rfl
  have hinsert := terminator?_insert (f := f.shift (Text.size before)) he hf (hcase.map hkind)
    (hes.map hkind) hpasses' (hadmits.map hkind (Token.kind_shiftFrom _ _ t)) hopens'
  rw [Dialect.terminator?_analyze, tokens_insert hbuffer he hstop hw hf hend, List.map_append,
    List.map_singleton, hinsert, hg', Option.map_some]
  rfl

theorem analyze_insert_case_parens :
    (Dialect.snowflake.analyze ';' "BEGIN x; END;".toList).terminator? = some 12 ∧
    (Dialect.snowflake.analyze ';' ("BEGIN x;".toList ++
        " SELECT CASE (y) WHEN a THEN b END;".toList ++ " END;".toList)).terminator? =
      some (12 + Text.size " SELECT CASE (y) WHEN a THEN b END;".toList) := by
  let front : List Token := [⟨.word "BEGIN".toList, 0, 5⟩, ⟨.word "X".toList, 6, 7⟩]
  let e : Token := ⟨.terminator ';', 7, 8⟩
  let back : List Token := [⟨.word "END".toList, 9, 12⟩, ⟨.terminator ';', 12, 13⟩]
  let operand : List Token :=
    [⟨.punct '(', 13, 14⟩, ⟨.word "Y".toList, 14, 15⟩, ⟨.punct ')', 15, 16⟩]
  let case : List Token :=
    [⟨.word "SELECT".toList, 1, 7⟩, ⟨.word "CASE".toList, 8, 12⟩] ++ (operand ++
      [⟨.word "WHEN".toList, 17, 21⟩, ⟨.word "A".toList, 22, 23⟩, ⟨.word "THEN".toList, 24, 28⟩,
        ⟨.word "B".toList, 29, 30⟩, ⟨.word "END".toList, 31, 34⟩])
  have hbuffer : tokens (Dialect.snowflake.options ';') ("BEGIN x;".toList ++ " END;".toList) =
      front ++ e :: back := by decide +kernel
  have hw : tokens (Dialect.snowflake.options ';') " SELECT CASE (y) WHEN a THEN b END;".toList =
      case ++ [⟨.terminator ';', 34, 35⟩] := by decide +kernel
  have hparens : IsParens operand := by
    have hinner : ∀ us ∈ operand.inits, us ≠ [] → us ≠ operand →
        us.countP (·.isPunct ')') < us.countP (·.isPunct '(') := by decide +kernel
    refine ⟨⟨_, rfl, by decide⟩, by decide, fun us hus => ?_⟩
    exact hinner us ((List.mem_inits us operand).2 hus)
  have hcase : IsSelectCase operand case :=
    .mk (by decide +kernel) (by decide +kernel) (by decide +kernel) ⟨_, rfl, by decide +kernel⟩
      (by decide +kernel) ⟨_, rfl, by decide +kernel⟩ (by decide +kernel)
  have hruns : Script.Runs {} (front ++ e :: back) ⟨[.begin], []⟩ (e :: back) :=
    Script.runs_begin (by decide +kernel) (by decide +kernel)
      (List.forall_mem_singleton.2 (Token.isPlain_of_keyword? (by decide +kernel)))
  have hadmits : Script.Admits ⟨[.begin], []⟩ e operand :=
    ⟨by decide +kernel, fun h => absurd h (by decide +kernel), fun _ => ⟨by simp, .inr hparens⟩⟩
  have h : (Dialect.snowflake.analyze ';' ("BEGIN x;".toList ++ " END;".toList)).terminator? =
      some 12 := by decide +kernel
  have hinsert := analyze_insert_case ';' hbuffer rfl (by decide +kernel) (by decide +kernel) hw rfl
    (by decide +kernel) hcase (.parens hparens) h
  exact ⟨h, hinsert.2 _ _ (hruns.passes rfl) hadmits⟩

/-- A `CASE` with a bare operand is not recorded. -/
theorem Script.step_case_of_isBare {es : List Token} {c : Token} (s : Script)
    (hc : c.keyword? = some .case) (hne : es ≠ []) (hes : IsBare es) (rest : List Token) :
    s.step c (es ++ rest) = .next s (es ++ rest) := by
  obtain ⟨u, us, rfl⟩ := List.exists_cons_of_ne_nil hne
  obtain ⟨hu, hopen, -⟩ := hes u (by simp)
  have hparens (ts : List Token) : skipParens (u :: ts) = (false, u :: ts) := by
    simp [skipParens, hopen]
  have hwhen (ts : List Token) : dropKeyword? .when (u :: ts) = none :=
    dropKeyword?_of_ne (by simp [nextKeyword?, hu])
  simp [step, hc, hparens, hwhen]

/-- The `END` of a `CASE` with a bare operand closes the block around it. -/
theorem IsSelectCase.skip?_of_isBare {es ws : List Token} {f : Token} (h : IsSelectCase es ws)
    (hne : es ≠ []) (hes : IsBare es) (hf : f.isTerminator = true) (rest : List Token) :
    Script.skip? ⟨[.begin], []⟩ (ws ++ f :: rest) = some (f :: rest) := by
  have hplain {t : Token} (ht : t.keyword? = none) : t.IsPlain := Token.isPlain_of_keyword? ht
  cases h with
  | @mk sel c w a th b n hsel hc hw ha hth hb hn =>
    obtain ⟨_, -, ha⟩ := ha
    obtain ⟨_, -, hb⟩ := hb
    have hwhen : w.IsPlain := by
      intro k hk
      obtain rfl := Option.some.inj (hw.symm.trans hk)
      decide
    have hinner : ∀ t ∈ es ++ [w, a, th, b], t.IsPlain := by
      intro t ht
      simp only [List.mem_append, List.mem_cons, List.not_mem_nil, or_false] at ht
      rcases ht with ht | rfl | rfl | rfl | rfl
      · exact hplain (hes t ht).1
      · exact hwhen
      · exact hplain ha
      · exact hplain (keyword?_then hth)
      · exact hplain hb
    have hend : Script.step ⟨[.begin], []⟩ n (f :: rest) = .done (f :: rest) := by
      have hnext : nextKeyword? (f :: rest) = none := Token.keyword?_of_isTerminator hf
      simp [Script.step, hn, Block.close?, hnext, Script.pop?]
    calc Script.skip? ⟨[.begin], []⟩ (sel :: c :: (es ++ [w, a, th, b, n]) ++ f :: rest)
      _ = Script.skip? ⟨[.begin], []⟩ (sel :: c :: (es ++ ([w, a, th, b] ++ n :: f :: rest))) := by
        simp
      _ = Script.skip? ⟨[.begin], []⟩ ((es ++ [w, a, th, b]) ++ n :: f :: rest) := by
        rw [Script.skip?_of_next (Script.step_of_isPlain _ (hplain (keyword?_select hsel)) _),
          Script.skip?_of_next (Script.step_case_of_isBare _ hc hne hes _), List.append_assoc]
      _ = some (f :: rest) := by
        rw [(Script.runs_append _ hinner _).skip?_eq, Script.skip?_of_done hend]

/-- In a block that is not inside another, a statement with such a `CASE` is taken for the end. -/
theorem analyze_insert_bare_case (c : Char) {before after w : Text} {as bs es ws : List Token}
    {e f : Token} (hbuffer : tokens (Dialect.snowflake.options c) (before ++ after) = as ++ e :: bs)
    (he : e.isTerminator = true) (hstop : e.stop = Text.size before)
    (hopens : opensBlock (as ++ e :: bs) = true)
    (hw : tokens (Dialect.snowflake.options c) w = ws ++ [f]) (hf : f.isTerminator = true)
    (hend : f.stop = Text.size w) (hcase : IsSelectCase es ws) (hne : es ≠ []) (hes : IsBare es)
    (hpasses : Script.Passes {} (as ++ e :: bs) bs ⟨[.begin], []⟩ e) :
    (Dialect.snowflake.analyze c (before ++ w ++ after)).terminator? =
      some (Text.size before + f.start) := by
  let n := Text.size before
  let back := bs.map (Token.shift (Text.size w))
  have hkind (t : Token) : (t.shift n).kind = t.kind := rfl
  have hes' : IsBare (es.map (Token.shift n)) := hes.map hkind
  have hf' : (f.shift n).isTerminator = true := hf
  have hinserted : (ws ++ [f]).map (Token.shift n) ++ back =
      ws.map (Token.shift n) ++ f.shift n :: back := by simp
  have hagree : AgreeTo e bs (ws.map (Token.shift n) ++ f.shift n :: back) (as ++ e :: bs) _ :=
    ⟨as, rfl, rfl⟩
  obtain ⟨us, hruns, hus⟩ := (hpasses.runs he).agree he hagree (List.suffix_refl _)
  obtain rfl : us = [] ++ e :: _ := AgreeTo.eq_append hus
  -- the search comes to the inserted statement and ends before its terminator
  have hskip : Script.skip? {} (as ++ e :: (ws.map (Token.shift n) ++ f.shift n :: back)) =
      some (f.shift n :: back) := by
    rw [hruns.skip?_eq, List.nil_append, Script.skip?_of_next (Script.step_of_isTerminator _ he _),
      (hcase.map hkind).skip?_of_isBare (by simpa using hne) hes' hf']
  rw [Dialect.terminator?_analyze, tokens_insert hbuffer he hstop hw hf hend, hinserted,
    Dialect.terminator?, hagree.opensBlock_eq he, if_pos hopens, hskip, Option.bind_some,
    statementEnd?, if_pos hf', Option.map_some]
  exact congrArg some (Nat.add_comm f.start n)

/-- Behind a `CASE` with a bare operand the end of the statement is not found. -/
theorem not_forall_insert_case :
    ¬ ∀ (c : Char) (before after w : Text) (p : Nat) (as bs es ws : List Token) (e f : Token)
      (s : Script),
      tokens (Dialect.snowflake.options c) (before ++ after) = as ++ e :: bs →
      e.isTerminator = true → e.stop = Text.size before → opensBlock (as ++ e :: bs) = true →
      tokens (Dialect.snowflake.options c) w = ws ++ [f] → f.isTerminator = true →
      f.stop = Text.size w → IsSelectCase es ws → IsOperand es →
      Script.Passes {} (as ++ e :: bs) bs s e → s.blocks.head? = some .begin →
      (Dialect.snowflake.analyze c (before ++ after)).terminator? = some p →
      (Dialect.snowflake.analyze c (before ++ w ++ after)).terminator? =
        some (p + Text.size w) := by
  intro h
  let front : List Token := [⟨.word "BEGIN".toList, 0, 5⟩, ⟨.word "X".toList, 6, 7⟩]
  let e : Token := ⟨.terminator ';', 7, 8⟩
  let back : List Token := [⟨.word "END".toList, 9, 12⟩, ⟨.terminator ';', 12, 13⟩]
  let operand : List Token := [⟨.word "Y".toList, 13, 14⟩]
  let case : List Token :=
    [⟨.word "SELECT".toList, 1, 7⟩, ⟨.word "CASE".toList, 8, 12⟩] ++ (operand ++
      [⟨.word "WHEN".toList, 15, 19⟩, ⟨.word "A".toList, 20, 21⟩, ⟨.word "THEN".toList, 22, 26⟩,
        ⟨.word "B".toList, 27, 28⟩, ⟨.word "END".toList, 29, 32⟩])
  have hcase : IsSelectCase operand case :=
    .mk (by decide +kernel) (by decide +kernel) (by decide +kernel) ⟨_, rfl, by decide +kernel⟩
      (by decide +kernel) ⟨_, rfl, by decide +kernel⟩ (by decide +kernel)
  have hbare : IsBare operand := by
    rw [IsBare]
    decide +kernel
  have hruns : Script.Runs {} (front ++ e :: back) ⟨[.begin], []⟩ (e :: back) :=
    Script.runs_begin (by decide +kernel) (by decide +kernel)
      (List.forall_mem_singleton.2 (Token.isPlain_of_keyword? (by decide +kernel)))
  have hbuffer : tokens (Dialect.snowflake.options ';') ("BEGIN x;".toList ++ " END;".toList) =
      front ++ e :: back := by decide +kernel
  have hw : tokens (Dialect.snowflake.options ';') " SELECT CASE y WHEN a THEN b END;".toList =
      case ++ [⟨.terminator ';', 32, 33⟩] := by decide +kernel
  have hopens : opensBlock (front ++ e :: back) = true := by decide +kernel
  have hpasses := hruns.passes rfl
  have hfound := h ';' _ _ _ 12 _ back operand case e _ _ hbuffer rfl rfl hopens hw rfl rfl hcase
    (.bare hbare) hpasses rfl (by decide +kernel)
  rw [analyze_insert_bare_case ';' hbuffer rfl rfl hopens hw rfl rfl hcase (by decide) hbare
    hpasses] at hfound
  exact absurd hfound (by decide)

end QueryConsole.Sql
