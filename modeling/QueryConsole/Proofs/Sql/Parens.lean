import QueryConsole.Proofs.Sql.Rounds
import Mathlib.Data.List.Induction

/-!
# Parenthesised groups

What is skipped as a parenthesised group is the shortest beginning of the tokens to come in which as
many parentheses are closed as are opened. Without one everything is read. No parenthesis is closed
that was not opened in between, and only those count that stand in the text by themselves.
-/

namespace QueryConsole.Sql

/-- Nowhere in the tokens are more than `depth` parentheses closed that were not opened in them. -/
def StaysWithin (depth : Nat) (ts : List Token) : Prop :=
  ∀ us, us <+: ts → us.countP (·.isPunct ')') ≤ depth + us.countP (·.isPunct '(')

/-- The group of tokens is not empty, and its parentheses balance. -/
def Balances (ts : List Token) : Prop :=
  ts ≠ [] ∧ ts.countP (·.isPunct '(') = ts.countP (·.isPunct ')')

variable {ts us : List Token} {t : Token}

theorem StaysWithin.concat {depth : Nat} (h : StaysWithin depth ts)
    (ht : (ts ++ [t]).countP (·.isPunct ')') ≤ depth + (ts ++ [t]).countP (·.isPunct '(')) :
    StaysWithin depth (ts ++ [t]) := by
  intro us hus
  rcases List.prefix_concat_iff.1 hus with rfl | hus
  · exact ht
  · exact h us hus

/-- Parentheses are closed one at a time, so if too many are there is one that is the first of
them. -/
theorem staysWithin_or_exists_close (depth : Nat) (ts : List Token) : StaysWithin depth ts ∨
    ∃ inside t rest, ts = inside ++ t :: rest ∧ t.isPunct ')' = true ∧ StaysWithin depth inside ∧
      inside.countP (·.isPunct ')') = depth + inside.countP (·.isPunct '(') := by
  induction ts using List.reverseRecOn with
  | nil => exact .inl fun us hus => by simp [List.prefix_nil.1 hus]
  | append_singleton ts t ih =>
    rcases ih with hts | ⟨inside, u, rest, rfl, hu, hinside, heq⟩
    · by_cases ht :
        (ts ++ [t]).countP (·.isPunct ')') ≤ depth + (ts ++ [t]).countP (·.isPunct '(')
      · exact .inl (hts.concat ht)
      · -- the last token closes one too many
        have hle := hts ts (List.prefix_refl ts)
        rw [List.countP_append, List.countP_append, List.countP_singleton, List.countP_singleton]
          at ht
        cases hclose : t.isPunct ')' with
        | false =>
          rw [hclose, if_neg Bool.false_ne_true] at ht
          omega
        | true =>
          rw [hclose, if_pos rfl] at ht
          exact .inr ⟨ts, t, [], rfl, hclose, hts, by omega⟩
    · exact .inr ⟨inside, u, rest ++ [t], by simp, hu, hinside, heq⟩

/-- Behind the parenthesis that opens a group, as many parentheses can be closed as are opened
there. -/
theorem lt_of_cons_prefix (hopen : t.isPunct '(' = true) (h : StaysWithin 0 ts)
    (hus : us <+: t :: ts) (hne : us ≠ []) :
    us.countP (·.isPunct ')') < us.countP (·.isPunct '(') := by
  rcases List.prefix_cons_iff.1 hus with rfl | ⟨vs, rfl, hvs⟩
  · exact absurd rfl hne
  · have hle := h vs hvs
    rw [List.countP_cons, List.countP_cons, hopen, isPunct_close_of_open hopen]
    simp only [Bool.false_eq_true, ↓reduceIte]
    omega

theorem closeParens_of_staysWithin (h : StaysWithin 0 ts) : closeParens 0 ts = (false, []) := by
  have happend := closeParens_append [] h
  rw [List.append_nil] at happend
  rw [happend, closeParens]

section Close

variable {u : Token} (hu : u.isPunct ')' = true) (h : StaysWithin 0 ts)
  (heq : ts.countP (·.isPunct ')') = 0 + ts.countP (·.isPunct '('))
include hu h heq

theorem closeParens_of_close (rest : List Token) :
    closeParens 0 (ts ++ u :: rest) = (true, rest) := by
  have huopen : ¬u.isPunct '(' = true := fun ho => by simp [isPunct_close_of_open ho] at hu
  rw [closeParens_append _ h, ← heq, Nat.sub_self, closeParens, if_neg huopen, if_pos hu]

theorem isParens_of_close (hopen : t.isPunct '(' = true) : IsParens (t :: ts ++ [u]) := by
  have huopen : ¬u.isPunct '(' = true := fun ho => by simp [isPunct_close_of_open ho] at hu
  refine ⟨⟨t, rfl, hopen⟩, ?_, fun us hus hne hall => ?_⟩
  · simp [hopen, isPunct_close_of_open hopen, hu, huopen, heq]
  · -- what ends before the last token ends inside the group
    rcases List.prefix_concat_iff.1 hus with rfl | hus
    · exact absurd rfl hall
    · exact lt_of_cons_prefix hopen h hus hne

end Close

/-- What is read as a parenthesised group, and what is left: nothing is read if no group begins, a
group is read to its end, and one that has no end is read as far as there are tokens. -/
inductive SkipsParens : List Token → Bool → List Token → Prop
  | none {ts : List Token} (h : ts.head?.any (·.isPunct '(') = false) : SkipsParens ts false ts
  | group {ts : List Token} (h : IsParens ts) (rest : List Token) : SkipsParens (ts ++ rest) true rest
  | unclosed {ts : List Token} (h : ts.head?.any (·.isPunct '(') = true)
      (hlt : ∀ us, us <+: ts → us ≠ [] → us.countP (·.isPunct ')') < us.countP (·.isPunct '(')) :
      SkipsParens ts false []

theorem skipsParens_skipParens (ts : List Token) :
    SkipsParens ts (skipParens ts).1 (skipParens ts).2 := by
  cases ts with
  | nil => exact .none rfl
  | cons t ts =>
    by_cases hopen : t.isPunct '(' = true
    · rw [skipParens, if_pos hopen]
      rcases staysWithin_or_exists_close 0 ts with hts | ⟨inside, u, rest, rfl, hu, hinside, heq⟩
      · rw [closeParens_of_staysWithin hts]
        exact .unclosed hopen fun us hus hne => lt_of_cons_prefix hopen hts hus hne
      · have hskips := SkipsParens.group (isParens_of_close hu hinside heq hopen) rest
        rw [List.append_assoc] at hskips
        rwa [closeParens_of_close hu hinside heq]
    · rw [skipParens, if_neg hopen]
      exact .none (by simpa using hopen)

section Groups

variable {found : Bool} {rest : List Token}

theorem IsParens.balances (h : IsParens ts) : Balances ts := by
  obtain ⟨⟨t, ht, -⟩, heq, -⟩ := h
  refine ⟨?_, heq⟩
  rintro rfl
  cases ht

theorem IsParens.head?_append (h : IsParens ts) (rest : List Token) :
    (ts ++ rest).head?.any (·.isPunct '(') = true := by
  obtain ⟨⟨t, ht, hopen⟩, -⟩ := h
  rw [List.head?_append, Option.mem_def.1 ht]
  exact hopen

/-- A group is the shortest of the beginnings in which parentheses balance. -/
theorem IsParens.prefix_of_balances (h : IsParens ts) (hus : us <+: ts ++ rest)
    (hbalances : Balances us) : ts <+: us := by
  rcases List.prefix_or_prefix_of_prefix hus (List.prefix_append ts rest) with hshort | hlong
  · by_cases hall : us = ts
    · exact hall ▸ List.prefix_refl us
    · exact absurd hbalances.2 (Nat.ne_of_gt (h.2.2 us hshort hbalances.1 hall))
  · exact hlong

theorem SkipsParens.eq_of_head? (h : SkipsParens ts found rest)
    (hhead : ts.head?.any (·.isPunct '(') = false) : found = false ∧ rest = ts := by
  cases h with
  | none => exact ⟨rfl, rfl⟩
  | group hgroup =>
    rw [hgroup.head?_append rest] at hhead
    cases hhead
  | unclosed hopen => simp [hopen] at hhead

theorem SkipsParens.exists_group (h : SkipsParens ts found rest)
    (hhead : ts.head?.any (·.isPunct '(') = true) (hus : us <+: ts) (hbalances : Balances us) :
    found = true ∧ ∃ group, ts = group ++ rest ∧ Balances group ∧
      ∀ vs, vs <+: ts → Balances vs → group <+: vs := by
  cases h with
  | none hnone => simp [hhead] at hnone
  | @group group hgroup =>
    exact ⟨rfl, group, rfl, hgroup.balances, fun vs hvs => hgroup.prefix_of_balances hvs⟩
  | unclosed hopen hlt => exact absurd hbalances.2 (Nat.ne_of_gt (hlt us hus hbalances.1))

theorem SkipsParens.eq_nil (h : SkipsParens ts found rest)
    (hhead : ts.head?.any (·.isPunct '(') = true) (hnot : ∀ us, us <+: ts → ¬Balances us) :
    found = false ∧ rest = [] := by
  cases h with
  | none hnone => simp [hhead] at hnone
  | @group group hgroup => exact absurd hgroup.balances (hnot group (List.prefix_append _ _))
  | unclosed => exact ⟨rfl, rfl⟩

/-- No parenthesis is read that closes a group which was not opened before it. -/
theorem SkipsParens.exists_read (h : SkipsParens ts found rest) :
    ∃ read, ts = read ++ rest ∧ StaysWithin 0 read := by
  cases h with
  | none => exact ⟨[], rfl, fun us hus => by simp [List.prefix_nil.1 hus]⟩
  | @group group hgroup =>
    exact ⟨group, rfl, fun us hus => by rw [Nat.zero_add]; exact hgroup.isLevel.2 us hus⟩
  | unclosed hopen hlt =>
    refine ⟨ts, (List.append_nil ts).symm, fun us hus => ?_⟩
    rw [Nat.zero_add]
    by_cases hnil : us = []
    · simp [hnil]
    · exact Nat.le_of_lt (hlt us hus hnil)

end Groups

/-! ### Parentheses in a text -/

/-- The lexeme of a character that stands for itself. -/
def Lexeme.lone (c : Char) : Lexeme := ⟨[c], some (.punct c), none⟩

namespace Lexeme

variable {o : Lexer.Options} {x : Lexeme} {rest : Text}

theorem Valid.kind?_eq_punct_iff (h : Valid o x rest) {c : Char} :
    x.kind? = some (.punct c) ↔ x = lone c := by
  constructor
  · intro hkind
    cases h with
    | punct =>
      cases hkind
      rfl
    | @closed k => cases k <;> cases hkind
    | @leftOpen k => cases k <;> cases hkind
    | _ => cases hkind
  · rintro rfl
    rfl

/-- The tokens of a text that are the character `c` are its lexemes that consist of it. What stands
inside a literal, a quoted identifier or a comment is part of another lexeme. -/
theorem countP_isPunct_tokens {t : Text} {xs : List Lexeme} (h : Tiling o t xs rest) (n : Nat)
    (c : Char) : (tokens n xs).countP (·.isPunct c) = xs.count (lone c) := by
  induction h generalizing n with
  | nil => rfl
  | @cons x _ _ _ hvalid _ ih =>
    have hiff := hvalid.kind?_eq_punct_iff (c := c)
    cases hkind : x.kind? with
    | none =>
      have hne : x ≠ lone c := fun hx => by simp [← hiff, hkind] at hx
      simp [tokens, hkind, ih, hne]
    | some k =>
      rw [hkind, Option.some.injEq] at hiff
      rw [tokens, hkind]
      dsimp only
      rw [List.countP_cons, ih, List.count_cons, Token.isPunct]
      simp only [beq_iff_eq, hiff]

end Lexeme

namespace Lexer

theorem countP_isPunct_toList (l : Lexer) (c : Char) : l.toList.countP (·.isPunct c) =
    l.pushed.countP (·.isPunct c) + (lexemes l.options l.cursor.rest).count (.lone c) := by
  rw [toList, readAll_eq, List.countP_append,
    Lexeme.countP_isPunct_tokens (tiling_lexemes l.options l.cursor.rest)]

/-- A lexer skips the shortest group of tokens in which parentheses balance. Without one it reads
everything, and nothing where no group begins. -/
theorem skipParens_shortest (l : Lexer) : ∃ found l',
    l.skipParens = (found, l') ∧ l'.drain = l.drain ∧
    Sql.skipParens l.toList = (found, l'.toList) ∧
    (l.toList.head?.any (·.isPunct '(') = false → found = false ∧ l'.toList = l.toList) ∧
    (l.toList.head?.any (·.isPunct '(') = true →
      ((∃ us, us <+: l.toList ∧ Balances us) → found = true ∧
        ∃ group, l.toList = group ++ l'.toList ∧ Balances group ∧
          ∀ us, us <+: l.toList → Balances us → group <+: us) ∧
      ((∀ us, us <+: l.toList → ¬Balances us) → found = false ∧ l'.toList = [])) ∧
    (∃ read, l.toList = read ++ l'.toList ∧ StaysWithin 0 read) ∧
    ∀ c, l.toList.countP (·.isPunct c) =
      l.pushed.countP (·.isPunct c) + (lexemes l.options l.cursor.rest).count (.lone c) := by
  obtain ⟨l', hskip, hl'⟩ := exists_skipParens (l := l) rfl
  have htoList : l'.toList = (Sql.skipParens l.toList).2 := congrArg Prod.fst hl'
  have hdrain : l'.drain = l.drain := by rw [drain, hl', drain]
  have hskips : SkipsParens l.toList (Sql.skipParens l.toList).1 l'.toList :=
    htoList ▸ skipsParens_skipParens l.toList
  refine ⟨_, l', hskip, hdrain, by rw [htoList]; rfl, hskips.eq_of_head?,
    fun hhead => ⟨?_, hskips.eq_nil hhead⟩, hskips.exists_read, l.countP_isPunct_toList⟩
  rintro ⟨us, hus, hbalances⟩
  exact hskips.exists_group hhead hus hbalances

theorem skipParens_shortest_of_pushed :
    let l := (ofText (Dialect.snowflake.options ';') "a ')' (b; /* ) */ END)) d".toList).unget
      ⟨.punct '(', 0, 1⟩
    l.toList.head?.any (·.isPunct '(') = true ∧ (∃ us, us <+: l.toList ∧ Balances us) ∧
    ∃ l' group, l.skipParens = (true, l') ∧ l.toList = group ++ l'.toList ∧ Balances group ∧
      ∀ us, us <+: l.toList → Balances us → group <+: us := by
  intro l
  have hhead : l.toList.head?.any (·.isPunct '(') = true := by decide +kernel
  have hbalances : ∃ us, us <+: l.toList ∧ Balances us :=
    ⟨l.toList.take 9, List.take_prefix _ _, by decide +kernel, by decide +kernel⟩
  obtain ⟨found, l', hskip, -, -, -, hgroup, -⟩ := skipParens_shortest l
  obtain ⟨rfl, group, hrest⟩ := (hgroup hhead).1 hbalances
  exact ⟨hhead, hbalances, l', group, hskip, hrest⟩

end Lexer

end QueryConsole.Sql
