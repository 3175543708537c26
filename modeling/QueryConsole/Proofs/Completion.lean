import QueryConsole.Proofs.Sql.Newline
import QueryConsole.Proofs.Sql.OpenConstruct
import QueryConsole.Proofs.Stability

/-!
# Every buffer can be completed

In plain SQL no input keeps the console waiting for ever. The delimiter that the prompt names closes
what is open, and a terminator on a line of its own then completes the statement. Neither adds a
terminator before that one, whichever character is the terminator.
-/

namespace QueryConsole

namespace Sql

theorem Construct.StaysOpen.closes {k : Construct} {body : Text} (h : k.StaysOpen body)
    (hk : k ≠ .hereDocument) : k.Closes (body ++ k.closing) [] := by
  obtain ⟨b, rest, hbody, hcloses, rfl | rfl⟩ := h.exists_closes
  · rw [List.append_nil] at hbody
    rwa [hbody]
  · -- only a here document is closed by a dollar sign
    have hlast := congrArg List.getLast? hbody
    cases k with
    | hereDocument => exact absurd rfl hk
    | _ => simp [closing, List.getLast?_append] at hlast

namespace Dialect

/-- The text with the delimiter behind it that its open construct lacks. -/
def close (d : Dialect) (c : Char) (t : Text) : Text :=
  t ++ ((d.analyze c t).unclosed.map Construct.closing).getD []

section Close

variable (c : Char) (t : Text)

theorem size_le_close (d : Dialect) : Text.size t ≤ Text.size (d.close c t) := by
  rw [close, Text.size_append]
  omega

/-- Closing a construct changes the lexeme that left it open and adds none. -/
theorem lexemes_close {k : Construct} (h : (ansi.analyze c t).unclosed = some k) :
    ∃ xs body, lexemes (ansi.options c) t = xs ++ [⟨k.opening ++ body, k.kind?, some k⟩] ∧
      lexemes (ansi.options c) (ansi.close c t) =
        xs ++ [⟨k.opening ++ (body ++ k.closing), k.kind?, none⟩] := by
  rw [unclosed_analyze] at h
  obtain ⟨xs, body, htiling, ho, hbody⟩ := Lexeme.exists_tiling_of_leftOpen? h
  have hk : k ≠ .hereDocument := by
    intro hk
    cases ho.2 hk
  have hopen := htiling.lexemes_of_staysOpen ho hbody
  have hclosed := htiling.lexemes_of_closes ho (hbody.closes hk)
  have htext : ansi.close c t = Lexeme.cover xs ++ (k.opening ++ (body ++ k.closing) ++ []) := by
    rw [close, unclosed_analyze, h, htiling.eq_cover_append]
    simp
  refine ⟨xs, body, ?_, ?_⟩
  · rw [← hopen, ← htiling.eq_cover_append]
  · rw [htext, hclosed, lexemes]

theorem unclosed_close : (ansi.analyze c (ansi.close c t)).unclosed = none := by
  cases h : (ansi.analyze c t).unclosed with
  | none =>
    rw [close, h, Option.map_none, Option.getD_none, List.append_nil, h]
  | some k =>
    obtain ⟨xs, body, -, hclose⟩ := lexemes_close c t h
    rw [unclosed_analyze, hclose, Lexeme.leftOpen?_append_cons_of_closed rfl]
    rfl

theorem terminator?_close :
    (ansi.analyze c (ansi.close c t)).terminator? = (ansi.analyze c t).terminator? := by
  cases h : (ansi.analyze c t).unclosed with
  | none => rw [close, h, Option.map_none, Option.getD_none, List.append_nil]
  | some k =>
    obtain ⟨xs, body, hopen, hclose⟩ := lexemes_close c t h
    exact ansi.terminator?_analyze_congr c hclose hopen rfl

end Close

/-- A terminator on a line of its own behind a text that leaves nothing open. -/
theorem analyze_append_terminator {c : Char} {t : Text} (hc : Text.isBlank c = false)
    (ht : (ansi.analyze c t).unclosed = none) :
    ansi.analyze c (t ++ ['\n', c]) =
      ⟨some ((ansi.analyze c t).terminator?.getD (Text.size t + 1)), none⟩ := by
  have ho : (ansi.options c).terminator ≠ '\n' := by
    rintro rfl
    cases hc
  have hline : lexemes (ansi.options c) [c] = [⟨[c], some (.terminator c), none⟩] := by
    have h := lexemes_terminator (ansi.options c) []
    rwa [lexemes] at h
  rw [unclosed_analyze] at ht
  have hunclosed : (ansi.analyze c (t ++ ['\n', c])).unclosed = none := by
    rw [unclosed_analyze, leftOpen?_append_newline ho ht, hline]
    rfl
  have hterminator : (ansi.analyze c (t ++ ['\n', c])).terminator? =
      some ((ansi.analyze c t).terminator?.getD (Text.size t + 1)) := by
    rw [terminator?_analyze, terminator?_analyze, tokens_append_newline ho ht, tokens_eq _ [c],
      hline, terminator?, terminator?, List.find?_append]
    cases (tokens (ansi.options c) t).find? Token.isTerminator with
    | some e => rfl
    | none => simp [Lexeme.tokens, Token.shift, Token.isTerminator]
  exact congrArg₂ Analysis.mk hterminator hunclosed

end Dialect

end Sql

namespace Detector

open Sql

/-- Behind the delimiter that is missing, if there is one, a terminator on a line of its own
completes the input. The statement ends where it did already, or else at that terminator. -/
theorem exists_terminated_close {c : Char} (hc : Text.isBlank c = false) (s : Text) :
    ∃ q, (⟨c, true, .ansi⟩ : Detector).detectAtEnd (Dialect.ansi.close c s ++ ['\n', c]) =
        .terminated q ∧
      (∀ p, (Dialect.ansi.analyze c s).terminator? = some p → q = p) ∧
      ((Dialect.ansi.analyze c s).terminator? = none →
        q = Text.size (Dialect.ansi.close c s) + 1 ∧ Text.size s ≤ q) := by
  have hanalysis := Dialect.analyze_append_terminator hc (Dialect.unclosed_close c s)
  rw [Dialect.terminator?_close] at hanalysis
  refine ⟨(Dialect.ansi.analyze c s).terminator?.getD (Text.size (Dialect.ansi.close c s) + 1),
    ?_, ?_, ?_⟩
  · have hfound := congrArg Analysis.terminator? hanalysis
    refine detectAtEnd_eq_terminated_iff.2 ⟨rfl, ?_, congrArg Analysis.unclosed hanalysis, hfound,
      (Dialect.lt_size_of_terminator? hfound).le⟩
    simp [hc]
  · intro p hp
    rw [hp, Option.getD_some]
  · intro hnone
    have hle := Dialect.size_le_close c s .ansi
    rw [hnone, Option.getD_none]
    omega

/-- The bracket that closes the identifier is not taken for the terminator. -/
theorem exists_terminated_close_bracket :
    Text.isBlank ']' = false ∧
    (Dialect.ansi.analyze ']' "x [a".toList).terminator? = none ∧
    ∃ q, (⟨']', true, .ansi⟩ : Detector).detectAtEnd
        (Dialect.ansi.close ']' "x [a".toList ++ ['\n', ']']) = .terminated q ∧
      (∀ p, (Dialect.ansi.analyze ']' "x [a".toList).terminator? = some p → q = p) ∧
      q = Text.size (Dialect.ansi.close ']' "x [a".toList) + 1 ∧ Text.size "x [a".toList ≤ q := by
  have hc : Text.isBlank ']' = false := by decide
  have hnone : (Dialect.ansi.analyze ']' "x [a".toList).terminator? = none := by decide +kernel
  obtain ⟨q, hq, hfound, hmissing⟩ := exists_terminated_close hc "x [a".toList
  exact ⟨hc, hnone, q, hq, hfound, hmissing hnone⟩

end Detector

end QueryConsole
