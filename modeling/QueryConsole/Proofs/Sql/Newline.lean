import QueryConsole.Proofs.Sql.Tiling
import QueryConsole.Proofs.Text.Lines

/-!
# Text behind a newline

A lexeme looks at most one character ahead, and a newline there is to it like the end of the text.
A text that leaves nothing open is therefore cut into the same lexemes when a newline and any other
text come behind it. The tokens of a buffer can be read line by line, as long as the lines of each
open construct are read together.
-/

namespace QueryConsole.Sql

variable {o : Lexer.Options} {t : Text}

theorem Construct.Closes.newline {k : Construct} {body : Text} (h : k.Closes body [])
    (rest : Text) : k.Closes body ('\n' :: rest) := by
  cases h with
  | @doubled q b _ hk _ =>
    -- no construct has a newline for its closing delimiter
    have hq : '\n' ≠ q := by
      rintro rfl
      cases k <;> simp [closing] at hk
    exact .doubled hk (by simpa using hq)
  | paired hk hb => exact .paired hk hb

theorem Lexer.Options.IsMark.of_newline {c : Char} (h : o.IsMark c (some '\n')) :
    o.IsMark c none := by
  rcases h with h | h | h | h | h | ⟨-, h⟩ | ⟨-, h⟩
  all_goals simp_all [IsMark]

namespace Lexeme

/-- A closed lexeme at the end of a text may have a newline behind it. -/
theorem Valid.newline {x : Lexeme} (h : Valid o x []) (hx : x.openIn = none) (rest : Text) :
    Valid o x ('\n' :: rest) := by
  have hident : Text.isIdentifierChar '\n' = false := by decide
  cases h with
  | terminator => exact .terminator _
  | blank _ hc hblank => exact .blank _ hc hblank
  | lineComment hc hbody _ => exact .lineComment hc hbody (by simp)
  | closed ho hk => exact .closed ho (hk.newline rest)
  | leftOpen => cases hx
  | @«variable» c name _ hc hsigil hname _ =>
    refine .variable hc ?_ hname (by simp [hident])
    rcases hsigil with hat | ⟨hdollar, hquoting, hnext⟩
    · exact .inl hat
    · refine .inr ⟨hdollar, hquoting, ?_⟩
      cases name with
      | nil => simp
      | cons d name => exact hnext
  | word hw hall _ => exact .word hw hall (by simp [Lexer.Options.Continues, hident])
  | punct hc hblank hident hmark => exact .punct hc hblank hident fun h => hmark h.of_newline

end Lexeme

/-- A text that leaves nothing open is cut in the same way before a newline. -/
theorem Tiling.newline {xs : List Lexeme} {rest : Text} (h : Tiling o t xs [])
    (hxs : ∀ x ∈ xs, x.openIn = none) : Tiling o (t ++ '\n' :: rest) xs ('\n' :: rest) := by
  generalize hend : ([] : Text) = u at h
  induction h with
  | nil u =>
    subst hend
    exact .nil _
  | @cons x t u xs hx _ ih =>
    rw [List.append_assoc]
    refine .cons ?_ (ih (fun y hy => hxs y (by simp [hy])) hend)
    cases t with
    | nil => exact hx.newline (hxs x (by simp)) rest
    | cons c t => exact hx.congr rfl

theorem lexemes_append_newline (ho : o.terminator ≠ '\n')
    (ht : Lexeme.leftOpen? (lexemes o t) = none) (rest : Text) :
    lexemes o (t ++ '\n' :: rest) = lexemes o t ++ ⟨['\n'], none, none⟩ :: lexemes o rest := by
  have htiling := tiling_lexemes o t
  have hfront : Tiling o (t ++ '\n' :: rest) (lexemes o t) ('\n' :: rest) :=
    htiling.newline (htiling.openIn_eq_none ht)
  have hnewline : Tiling o ('\n' :: rest) [⟨['\n'], none, none⟩] rest :=
    .cons (.blank rest ho.symm (by decide)) (.nil rest)
  rw [(hfront.append hnewline).lexemes_eq, List.append_assoc, List.singleton_append]

theorem tokens_append_newline (ho : o.terminator ≠ '\n')
    (ht : Lexeme.leftOpen? (lexemes o t) = none) (rest : Text) :
    tokens o (t ++ '\n' :: rest) =
      tokens o t ++ (tokens o rest).map (Token.shift (Text.size t + 1)) := by
  have hsize : 0 + Text.size t + Text.size ['\n'] = 0 + (Text.size t + 1) := by
    have hone : Text.size ['\n'] = 1 := rfl
    omega
  rw [tokens_eq, tokens_eq, tokens_eq, lexemes_append_newline ho ht, Lexeme.tokens_append,
    cover_lexemes, ← Lexeme.tokens_add, ← hsize]
  rfl

theorem leftOpen?_append_newline (ho : o.terminator ≠ '\n')
    (ht : Lexeme.leftOpen? (lexemes o t) = none) (rest : Text) :
    Lexeme.leftOpen? (lexemes o (t ++ '\n' :: rest)) = Lexeme.leftOpen? (lexemes o rest) := by
  rw [lexemes_append_newline ho ht, Lexeme.leftOpen?_append_cons_of_closed rfl]

/-! ### Groups of lines -/

/-- The tokens of groups of lines, each read by itself and moved to where the group stands behind
the offset `n`, with a newline behind each group. -/
def tokensByGroup (o : Lexer.Options) (n : Nat) : List Text → List Token
  | [] => []
  | g :: gs => (tokens o g).map (Token.shift n) ++ tokensByGroup o (n + Text.size g + 1) gs

theorem map_shift_zero (ts : List Token) : ts.map (Token.shift 0) = ts := List.map_id ts

theorem map_shift_shift (m n : Nat) (ts : List Token) :
    (ts.map (Token.shift m)).map (Token.shift n) = ts.map (Token.shift (m + n)) := by
  rw [List.map_map]
  apply List.map_congr_left
  intro t _
  simp only [Function.comp_apply, Token.shift, Nat.add_assoc]

theorem tokensByGroup_add (o : Lexer.Options) (m n : Nat) (gs : List Text) :
    tokensByGroup o (m + n) gs = (tokensByGroup o m gs).map (Token.shift n) := by
  induction gs generalizing m with
  | nil => rfl
  | cons g gs ih =>
    have hoffset : m + n + Text.size g + 1 = m + Text.size g + 1 + n := by omega
    rw [tokensByGroup, tokensByGroup, hoffset, ih, List.map_append, map_shift_shift]

/-- Only the last group may leave something open, and what it leaves open is what the buffer leaves
open. -/
theorem tokens_groups (ho : o.terminator ≠ '\n') {gs : List Text}
    (hgs : ∀ g ∈ gs, Lexeme.leftOpen? (lexemes o g) = none) (x : Text) :
    tokens o (Text.joinLines (gs ++ [x])) = tokensByGroup o 0 (gs ++ [x]) ∧
      Lexeme.leftOpen? (lexemes o (Text.joinLines (gs ++ [x]))) =
        Lexeme.leftOpen? (lexemes o x) := by
  induction gs with
  | nil =>
    rw [List.nil_append, Text.joinLines_singleton, tokensByGroup, tokensByGroup, map_shift_zero,
      List.append_nil]
    exact ⟨rfl, rfl⟩
  | cons g gs ih =>
    obtain ⟨hg, hgs⟩ := List.forall_mem_cons.1 hgs
    obtain ⟨htokens, hopen⟩ := ih hgs
    have hjoin : Text.joinLines (g :: gs ++ [x]) = g ++ '\n' :: Text.joinLines (gs ++ [x]) :=
      Text.joinLines_cons g (by simp)
    constructor
    · rw [hjoin, tokens_append_newline ho hg, htokens, ← tokensByGroup_add, List.cons_append,
        tokensByGroup, map_shift_zero, Nat.zero_add, Nat.zero_add]
    · rw [hjoin, leftOpen?_append_newline ho hg, hopen]

/-- Behind a text that leaves nothing open, a newline and the text after it are read as if that
text stood alone. So the tokens of a buffer are those of its groups of lines. -/
theorem tokens_joinLines (ho : o.terminator ≠ '\n') :
    (∀ s x : Text, (Lexer.ofText o s).drain.unclosed = none →
      tokens o (s ++ '\n' :: x) =
        tokens o s ++ (tokens o x).map (Token.shift (Text.size s + 1)) ∧
      (Lexer.ofText o (s ++ '\n' :: x)).drain.unclosed = (Lexer.ofText o x).drain.unclosed) ∧
    ∀ (groups : List Text) (x : Text),
      (∀ g ∈ groups, (Lexer.ofText o g).drain.unclosed = none) →
      tokens o (Text.joinLines (groups ++ [x])) = tokensByGroup o 0 (groups ++ [x]) ∧
      (Lexer.ofText o (Text.joinLines (groups ++ [x]))).drain.unclosed =
        (Lexer.ofText o x).drain.unclosed := by
  simp only [Lexer.drain_ofText]
  constructor
  · intro s x hs
    exact ⟨tokens_append_newline ho hs x, leftOpen?_append_newline ho hs x⟩
  · intro groups x hgroups
    exact tokens_groups ho hgroups x

/-- A comment and a literal of two lines, with a here document behind them that stays open. -/
theorem tokens_joinLines_comment :
    (⟨';', .upper, true⟩ : Lexer.Options).terminator ≠ '\n' ∧
    (Lexer.ofText ⟨';', .upper, true⟩ "$a -- it's".toList).drain.unclosed = none ∧
    (∀ g ∈ ["$a -- it's".toList, "'b\nc'".toList],
      (Lexer.ofText ⟨';', .upper, true⟩ g).drain.unclosed = none) ∧
    (tokens ⟨';', .upper, true⟩ ("$a -- it's".toList ++ '\n' :: "'b\nc'".toList) =
        tokens ⟨';', .upper, true⟩ "$a -- it's".toList ++
          (tokens ⟨';', .upper, true⟩ "'b\nc'".toList).map
            (Token.shift (Text.size "$a -- it's".toList + 1)) ∧
      (Lexer.ofText ⟨';', .upper, true⟩
          ("$a -- it's".toList ++ '\n' :: "'b\nc'".toList)).drain.unclosed =
        (Lexer.ofText ⟨';', .upper, true⟩ "'b\nc'".toList).drain.unclosed) ∧
    tokens ⟨';', .upper, true⟩
        (Text.joinLines (["$a -- it's".toList, "'b\nc'".toList] ++ ["; $$ d".toList])) =
      tokensByGroup ⟨';', .upper, true⟩ 0
        (["$a -- it's".toList, "'b\nc'".toList] ++ ["; $$ d".toList]) ∧
    (Lexer.ofText ⟨';', .upper, true⟩ (Text.joinLines
        (["$a -- it's".toList, "'b\nc'".toList] ++ ["; $$ d".toList]))).drain.unclosed =
      (Lexer.ofText ⟨';', .upper, true⟩ "; $$ d".toList).drain.unclosed := by
  have ho : (⟨';', .upper, true⟩ : Lexer.Options).terminator ≠ '\n' := by decide
  have hgroups : ∀ g ∈ ["$a -- it's".toList, "'b\nc'".toList],
      (Lexer.ofText ⟨';', .upper, true⟩ g).drain.unclosed = none := by
    decide +kernel
  have hs := hgroups "$a -- it's".toList List.mem_cons_self
  obtain ⟨hpair, hall⟩ := tokens_joinLines ho
  exact ⟨ho, hs, hgroups, hpair _ _ hs, hall _ "; $$ d".toList hgroups⟩

end QueryConsole.Sql
