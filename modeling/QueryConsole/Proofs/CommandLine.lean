import QueryConsole.Proofs.Sql.OpenConstruct
import QueryConsole.Proofs.Text.Lines
import QueryConsole.Proofs.Verdict

/-!
# The lines of commands

A line is a command if a backslash is the first character on it that is not blank. The detector
looks at the line alone, so the backslash need not be a token: the line can lie inside a construct.
Such a construct was opened on an earlier line and is closed behind the backslash.
-/

namespace QueryConsole

namespace Sql

/-- The construct `k` stands in a text from the offset `i` to the offset `j`, where it is closed. -/
def Construct.StandsIn (o : Lexer.Options) (t : Text) (k : Construct) (i j : Nat) : Prop :=
  ∃ xs body rest, Tiling o t xs (k.opening ++ body ++ rest) ∧ o.Opens k ∧ k.Closes body rest ∧
    i = Text.size (Lexeme.cover xs) ∧ j = i + Text.size (k.opening ++ body)

namespace Lexer.Options

/-- A lexeme that begins with the character `c` is punctuation, whatever follows. -/
structure IsLone (o : Options) (c : Char) : Prop where
  ne_terminator : c ≠ o.terminator
  isBlank : Text.isBlank c = false
  isIdentifierChar : Text.isIdentifierChar c = false
  not_isMark : ∀ next, ¬o.IsMark c next

variable {o : Options} {c d : Char} {next : Option Char}

theorem isLone_backslash (h : o.terminator ≠ '\\') : o.IsLone '\\' := by
  refine ⟨h.symm, by decide, by decide, ?_⟩
  intro next
  simp [IsMark]

theorem IsSigil.isMark (h : o.IsSigil c next) : o.IsMark c next := by
  rcases h with rfl | ⟨rfl, hdollar, -⟩
  · simp [IsMark]
  · simp [IsMark, hdollar]

theorem Opens.exists_isMark {k : Construct} (h : o.Opens k) (body : Text) :
    ∃ c t next, k.opening ++ body = c :: t ∧ o.IsMark c next := by
  cases k with
  | stringLiteral => exact ⟨_, body, none, rfl, by simp [IsMark]⟩
  | quotedIdentifier => exact ⟨_, body, none, rfl, by simp [IsMark]⟩
  | bracketedIdentifier => exact ⟨_, body, none, rfl, by simp [IsMark]⟩
  | blockComment => exact ⟨_, '*' :: body, some '*', rfl, by simp [IsMark]⟩
  | hereDocument => exact ⟨_, '$' :: body, none, rfl, by simp [IsMark, h.2 rfl]⟩

/-- A lexeme that begins with a mark holds a lone character behind the mark only. -/
theorem IsLone.exists_head? {t u v : Text} (hc : o.IsLone c) (hd : o.IsMark d next)
    (h : d :: t = u ++ c :: v) : ∃ d ∈ u.head?, Text.isBlank d = false := by
  cases u with
  | nil =>
    obtain ⟨rfl, -⟩ := List.cons.inj h
    exact absurd hd (hc.not_isMark next)
  | cons a u =>
    obtain ⟨rfl, -⟩ := List.cons.inj h
    exact ⟨d, rfl, isBlank_of_isMark hd⟩

end Lexer.Options

namespace Lexeme

variable {o : Lexer.Options} {x : Lexeme} {xs : List Lexeme} {rest before after u v : Text}
  {c : Char}

/-- Each character of a text is part of a lexeme. -/
theorem exists_of_cover_eq (h : cover xs = before ++ c :: after) :
    ∃ ys x zs u v, xs = ys ++ x :: zs ∧ x.text = u ++ c :: v ∧ before = cover ys ++ u ∧
      after = v ++ cover zs := by
  induction xs generalizing before with
  | nil => simp at h
  | cons x xs ih =>
    rw [cover_cons] at h
    rcases List.append_eq_append_iff.1 h with ⟨m, hbefore, hm⟩ | ⟨m, hx, hm⟩
    · obtain ⟨ys, y, zs, u, v, rfl, hy, rfl, rfl⟩ := ih hm
      exact ⟨x :: ys, y, zs, u, v, rfl, hy, by simp [hbefore], rfl⟩
    · cases m with
      | nil =>
        -- the character is the first one behind `x`
        obtain ⟨ys, y, zs, u, v, rfl, hy, hbefore, rfl⟩ :=
          ih (show cover xs = [] ++ c :: after from hm.symm)
        refine ⟨x :: ys, y, zs, u, v, rfl, hy, ?_, rfl⟩
        rw [cover_cons, List.append_assoc, ← hbefore, hx, List.append_nil, List.append_nil]
      | cons d v =>
        obtain ⟨rfl, rfl⟩ := List.cons.inj hm
        exact ⟨[], x, xs, before, v, rfl, hx, rfl, rfl⟩

/-- A lone character is a token, or it is part of a comment or a construct. -/
theorem Valid.of_isLone (h : Valid o x rest) (hc : o.IsLone c) (hx : x.text = u ++ c :: v) :
    (u = [] ∧ x = ⟨[c], some (.punct c), none⟩) ∨
      (∃ d ∈ u.head?, Text.isBlank d = false) ∧ ('\n' ∉ x.text ∨ x.openIn ≠ none ∨
        ∃ k body, o.Opens k ∧ k.Closes body rest ∧ x = ⟨k.opening ++ body, k.kind?, none⟩) := by
  have hmem : c ∈ x.text := by simp [hx]
  have hblank := hc.isBlank
  have hident := hc.isIdentifierChar
  cases h with
  | terminator => exact absurd (List.mem_singleton.1 hmem) hc.ne_terminator
  | blank _ _ hb =>
    rw [List.mem_singleton.1 hmem, hb] at hblank
    cases hblank
  | lineComment _ hbody _ =>
    have hd : o.IsMark '-' (some '-') := by simp [Lexer.Options.IsMark]
    refine .inr ⟨hc.exists_head? hd hx, .inl ?_⟩
    simpa using hbody
  | @closed k body _ ho hclosed =>
    obtain ⟨d, t, next, ht, hd⟩ := ho.exists_isMark body
    refine .inr ⟨hc.exists_head? hd (ht ▸ hx), .inr (.inr ⟨k, body, ho, hclosed, rfl⟩)⟩
  | @leftOpen k body ho _ =>
    obtain ⟨d, t, next, ht, hd⟩ := ho.exists_isMark body
    exact .inr ⟨hc.exists_head? hd (ht ▸ hx), .inr (.inl (Option.some_ne_none k))⟩
  | «variable» _ hsigil hname _ =>
    rcases List.mem_cons.1 hmem with rfl | hmem
    · exact absurd hsigil.isMark (hc.not_isMark _)
    · rw [hname c hmem] at hident
      cases hident
  | word _ hw _ =>
    rw [(hw c hmem).1] at hident
    cases hident
  | punct =>
    cases u with
    | nil => exact .inl ⟨rfl, by rw [(List.cons.inj hx).1]⟩
    | cons d u => exact absurd (List.cons.inj hx).2 (by simp)

end Lexeme

/-- In a text that leaves nothing open, a lone character is a token, or it is part of a comment up
to the end of its line or of a closed construct. -/
theorem token_or_standsIn {o : Lexer.Options} {t before after : Text} {c : Char}
    (ht : t = before ++ c :: after) (hc : o.IsLone c)
    (hopen : Lexeme.leftOpen? (lexemes o t) = none) :
    ⟨.punct c, Text.size before, Text.size before + c.utf8Size⟩ ∈ tokens o t ∨
      ∃ s u, before = s ++ u ∧ (∃ d ∈ u.head?, Text.isBlank d = false) ∧
        ('\n' ∉ u ∨ ∃ (k : Construct) (j : Nat), k.StandsIn o t (Text.size s) j ∧
          Text.size before < j) := by
  have htiling := tiling_lexemes o t
  have hcover : Lexeme.cover (lexemes o t) = before ++ c :: after := by
    simpa [ht] using htiling.eq_cover_append.symm
  obtain ⟨ys, x, zs, u, v, hxs, hx, hbefore, -⟩ := Lexeme.exists_of_cover_eq hcover
  have hclosed := htiling.openIn_eq_none hopen
  rw [hxs] at htiling
  obtain ⟨m, hys, hm⟩ := htiling.split
  cases hm with
  | @cons _ rest _ _ hvalid _ =>
    rcases hvalid.of_isLone hc hx with ⟨rfl, rfl⟩ | ⟨hhead, h | h | ⟨k, body, ho, hclosed, rfl⟩⟩
    · left
      rw [tokens_eq, hxs, Lexeme.tokens_append]
      simp [Lexeme.tokens, hbefore]
    · right
      refine ⟨Lexeme.cover ys, u, hbefore, hhead, .inl fun hu => h ?_⟩
      simp [hx, hu]
    · exact absurd (hclosed x (by simp [hxs])) h
    · right
      refine ⟨Lexeme.cover ys, u, hbefore, hhead, .inr ⟨k, _, ⟨ys, body, rest, hys, ho, hclosed,
        rfl, rfl⟩, ?_⟩⟩
      have hpos := c.utf8Size_pos
      have hsize := congrArg Text.size hx
      simp only [Text.size_append, Text.size_cons] at hsize ⊢
      rw [hbefore, Text.size_append]
      omega

end Sql

namespace Detector

open Sql Text

variable {d : Detector} {buffer : Text} {caret : Nat}

/-- If a line is a command, the backslash at its front is a token, or it stands in a construct that
was opened on an earlier line and is closed behind the backslash. -/
theorem backslash_of_command (hterminator : d.terminator ≠ '\\')
    (h : d.detect buffer caret = .command) :
    ⟨.punct '\\', contentStart buffer caret, contentStart buffer caret + 1⟩ ∈
        tokens (d.dialect.options d.terminator) buffer ∨
      ∃ (k : Construct) (i j : Nat), k.StandsIn (d.dialect.options d.terminator) buffer i j ∧
        i < lineStart buffer caret ∧ contentStart buffer caret < j := by
  obtain ⟨hopen, hline⟩ := of_detect_eq_command h
  obtain ⟨before, blanks, after, hbuffer, hbefore, hlast, hblanks, hstart⟩ :=
    exists_blanks_of_lineAt hline
  rw [Dialect.unclosed_analyze] at hopen
  have hc : (d.dialect.options d.terminator).IsLone '\\' :=
    Lexer.Options.isLone_backslash hterminator
  have hsize : size (before ++ blanks) = contentStart buffer caret := by
    rw [size_append, hbefore, hstart]
  rcases token_or_standsIn hbuffer hc hopen with htoken | ⟨s, u, hsu, ⟨a, ha, hblank⟩, hu⟩
  · rw [hsize] at htoken
    exact .inl htoken
  · obtain ⟨w, hw, rfl, rfl⟩ := exists_append_of_blanks hsu.symm ha hblank hblanks
    -- the lexeme reaches over the newline before the line
    have hnewline : '\n' ∈ w := by
      have hend : w.getLast hw = '\n' := by
        apply hlast
        simp [List.getLast?_append, List.getLast?_eq_some_getLast hw]
      exact hend ▸ List.getLast_mem hw
    rcases hu with hu | ⟨k, j, hk, hj⟩
    · exact absurd (List.mem_append_left blanks hnewline) hu
    · refine .inr ⟨k, size s, j, hk, ?_, hsize ▸ hj⟩
      have hpos : 0 < size w := Nat.pos_of_ne_zero (mt size_eq_zero_iff.1 hw)
      rw [← hbefore, size_append]
      omega

theorem backslash_of_command_in_literal :
    (⟨';', true, .ansi⟩ : Detector).terminator ≠ '\\' ∧
    (⟨';', true, .ansi⟩ : Detector).detect "'a\n \\go'".toList 8 = .command ∧
    (⟨.punct '\\', contentStart "'a\n \\go'".toList 8, contentStart "'a\n \\go'".toList 8 + 1⟩ ∈
        tokens (Dialect.ansi.options ';') "'a\n \\go'".toList ∨
      ∃ (k : Construct) (i j : Nat), k.StandsIn (Dialect.ansi.options ';') "'a\n \\go'".toList i j ∧
        i < lineStart "'a\n \\go'".toList 8 ∧ contentStart "'a\n \\go'".toList 8 < j) := by
  have hterminator : (⟨';', true, .ansi⟩ : Detector).terminator ≠ '\\' := by decide
  have h : (⟨';', true, .ansi⟩ : Detector).detect "'a\n \\go'".toList 8 = .command := by
    decide +kernel
  exact ⟨hterminator, h, backslash_of_command hterminator h⟩

/-- A command is found inside a literal as well, where its backslash is no token. -/
theorem not_forall_command_token :
    ¬ ∀ (d : Detector) (buffer : Text) (caret : Nat), d.terminator ≠ '\\' →
      d.detect buffer caret = .command →
      ∃ a ∈ tokens (d.dialect.options d.terminator) buffer,
        a.start = contentStart buffer caret := by
  intro h
  have htoken := h ⟨';', true, .ansi⟩ "'a\n\\go'".toList 7 (by decide) (by decide +kernel)
  have hnone : ∀ a ∈ tokens (Dialect.ansi.options ';') "'a\n\\go'".toList,
      a.start ≠ contentStart "'a\n\\go'".toList 7 := by
    decide +kernel
  obtain ⟨a, ha, hstart⟩ := htoken
  exact hnone a ha hstart

end Detector

end QueryConsole
