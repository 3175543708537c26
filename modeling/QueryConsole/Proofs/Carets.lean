import QueryConsole.Proofs.Stability
import QueryConsole.Proofs.Text.Lines

/-!
# Moving the caret

A verdict depends on the caret in two ways: a terminator counts if it is not behind the caret, and
the line of the caret can be a command. Both see only the last place between characters that is not
behind the caret. A caret that moves on meets more terminators, and on one line nothing else changes.
-/

namespace QueryConsole

namespace Detector

open Text

variable {d : Detector} {buffer : Text} {c c' p : Nat} {v : Verdict}

/-- The terminator that is found stands between characters. -/
theorem isPlace_of_terminator? (h : (d.dialect.analyze d.terminator buffer).terminator? = some p) :
    IsPlace buffer p := by
  obtain ⟨front, back, hbuffer, hp, -⟩ := Sql.Dialect.exists_front_of_terminator? h
  exact isPlace_iff.2 ⟨front, _, hbuffer, hp⟩

/-- The caret decides whether the terminator counts and which line can be a command, and no more. -/
theorem Judges.move (h : d.Judges buffer c v)
    (hfound : ∀ p, (d.dialect.analyze d.terminator buffer).terminator? = some p → (p ≤ c ↔ p ≤ c'))
    (hline : lineAt buffer c = lineAt buffer c') : d.Judges buffer c' v := by
  cases h with
  | singleLine hmulti => exact .singleLine hmulti
  | blank hmulti hblank => exact .blank hmulti hblank
  | unclosed hreads hopen => exact .unclosed hreads hopen
  | terminated hreads hopen hp hle => exact .terminated hreads hopen hp ((hfound _ hp).1 hle)
  | command hreads hopen hlt hhead =>
    refine .command hreads hopen (fun p hp => ?_) (hline ▸ hhead)
    have hlt := hlt p hp
    have hfound := hfound p hp
    omega
  | unterminated hreads hopen hlt hhead =>
    refine .unterminated hreads hopen (fun p hp => ?_) (hline ▸ hhead)
    have hlt := hlt p hp
    have hfound := hfound p hp
    omega

theorem detect_placeAt (d : Detector) (buffer : Text) (c : Nat) :
    d.detect buffer (placeAt buffer c) = d.detect buffer c := by
  apply Judges.detect_eq
  apply (d.judges_detect buffer c).move
  · intro p hp
    exact (isPlace_of_terminator? hp).le_placeAt_iff.symm
  · rw [lineAt_placeAt]

/-- A caret that moves on stays behind the terminator. -/
theorem detect_of_terminated (h : c ≤ c') (hc : d.detect buffer c = .terminated p) :
    d.detect buffer c' = .terminated p := by
  apply Judges.detect_eq
  cases judges_iff.2 hc with
  | terminated hreads hopen hp hle => exact .terminated hreads hopen hp (hle.trans h)

/-- A verdict that comes before the caret is looked at holds for every caret. -/
theorem detect_of_early (hv : v = .singleLine ∨ v = .blank ∨ ∃ k, v = .unclosed k)
    (hc : d.detect buffer c = v) (n : Nat) : d.detect buffer n = v := by
  apply Judges.detect_eq
  cases judges_iff.2 hc with
  | singleLine hmulti => exact .singleLine hmulti
  | blank hmulti hblank => exact .blank hmulti hblank
  | unclosed hreads hopen => exact .unclosed hreads hopen
  | _ => simp at hv

/-- On one line a caret before another gets the same verdict, if no terminator counts for that. -/
theorem detect_of_onOneLine (h : c ≤ c') (hline : OnOneLine buffer c c')
    (hc' : ∀ p, d.detect buffer c' ≠ .terminated p) : d.detect buffer c = d.detect buffer c' := by
  apply Judges.detect_eq
  have hbehind (hlt : ∀ p, (d.dialect.analyze d.terminator buffer).terminator? = some p → c' < p)
      (p : Nat) (hp : (d.dialect.analyze d.terminator buffer).terminator? = some p) :
      p ≤ c' ↔ p ≤ c := by
    have hlt := hlt p hp
    omega
  generalize hv : d.detect buffer c' = v
  have hjudges := judges_iff.2 hv
  cases judges_iff.2 hv with
  | singleLine hmulti => exact .singleLine hmulti
  | blank hmulti hblank => exact .blank hmulti hblank
  | unclosed hreads hopen => exact .unclosed hreads hopen
  | terminated => exact absurd hv (hc' _)
  | command _ _ hlt _ => exact hjudges.move (hbehind hlt) hline.lineAt_eq.symm
  | unterminated _ _ hlt _ => exact hjudges.move (hbehind hlt) hline.lineAt_eq.symm

/-- What a verdict takes from the caret, and what becomes of it when the caret moves on. -/
theorem detect_of_caret_le (d : Detector) (buffer : Text) (h : c ≤ c') :
    (∃ b, IsGreatest {p | IsPlace buffer p ∧ p ≤ min c (size buffer)} b ∧
      d.detect buffer c = d.detect buffer b) ∧
    (∀ p, d.detect buffer c = .terminated p → d.detect buffer c' = .terminated p) ∧
    (∀ v, (v = .singleLine ∨ v = .blank ∨ ∃ k, v = .unclosed k) → d.detect buffer c = v →
      ∀ n, d.detect buffer n = v) ∧
    (OnOneLine buffer c c' → (∀ p, d.detect buffer c' ≠ .terminated p) →
      d.detect buffer c = d.detect buffer c') := by
  refine ⟨⟨placeAt buffer c, ?_, (d.detect_placeAt buffer c).symm⟩, ?_, ?_, ?_⟩
  · obtain ⟨⟨hplace, hle⟩, hgreatest⟩ := isGreatest_placeAt buffer c
    refine ⟨⟨hplace, le_min hle hplace.le_size⟩, ?_⟩
    rintro p ⟨hp, hle⟩
    exact hgreatest ⟨hp, hle.trans (min_le_left _ _)⟩
  · exact fun p => detect_of_terminated h
  · exact fun v => detect_of_early
  · exact detect_of_onOneLine h

/-- Inside the second character the caret is on the line of the command, and anywhere behind the
terminator it meets that. -/
theorem detect_of_caret_le_inside_character :
    (1 ≤ 2 ∧ OnOneLine "\\é\na;".toList 1 2 ∧
      (⟨';', true, .ansi⟩ : Detector).detect "\\é\na;".toList 2 = .command ∧
      (⟨';', true, .ansi⟩ : Detector).detect "\\é\na;".toList 1 =
        (⟨';', true, .ansi⟩ : Detector).detect "\\é\na;".toList 2) ∧
    (5 ≤ 18446744073709551615 ∧
      (⟨';', true, .ansi⟩ : Detector).detect "\\é\na;".toList 5 = .terminated 5 ∧
      (⟨';', true, .ansi⟩ : Detector).detect "\\é\na;".toList 18446744073709551615 =
        .terminated 5) ∧
    (⟨';', true, .snowflake⟩ : Detector).detect "a; $$".toList 1 = .unclosed .hereDocument ∧
    ∀ n, (⟨';', true, .snowflake⟩ : Detector).detect "a; $$".toList n =
      .unclosed .hereDocument := by
  have hline : OnOneLine "\\é\na;".toList 1 2 := by
    have hholds (n : Nat) (hle : 0 ≤ placeAt "\\é\na;".toList n)
        (hle' : placeAt "\\é\na;".toList n ≤ 3) :
        IsLine.Holds "\\é\na;".toList [] "\\é".toList "\na;".toList n :=
      ⟨⟨rfl, by simp, by simp, by simp⟩, hle, hle'⟩
    exact ⟨_, _, _, hholds 1 (Nat.zero_le _) (by decide +kernel),
      hholds 2 (Nat.zero_le _) (by decide +kernel)⟩
  have hcommand : (⟨';', true, .ansi⟩ : Detector).detect "\\é\na;".toList 2 = .command := by
    decide +kernel
  have hfound : (⟨';', true, .ansi⟩ : Detector).detect "\\é\na;".toList 5 = .terminated 5 := by
    decide +kernel
  have hopen : (⟨';', true, .snowflake⟩ : Detector).detect "a; $$".toList 1 =
      .unclosed .hereDocument := by
    decide +kernel
  obtain ⟨-, -, -, hsame⟩ := detect_of_caret_le ⟨';', true, .ansi⟩ "\\é\na;".toList
    (show 1 ≤ 2 by decide)
  obtain ⟨-, hstays, -, -⟩ := detect_of_caret_le ⟨';', true, .ansi⟩ "\\é\na;".toList
    (show 5 ≤ 18446744073709551615 by decide)
  obtain ⟨-, -, hearly, -⟩ := detect_of_caret_le ⟨';', true, .snowflake⟩ "a; $$".toList (le_refl 1)
  have hother (p : Nat) :
      (⟨';', true, .ansi⟩ : Detector).detect "\\é\na;".toList 2 ≠ .terminated p := by
    rw [hcommand]
    simp
  exact ⟨⟨by decide, hline, hcommand, hsame hline hother⟩, ⟨by decide, hfound, hstays 5 hfound⟩,
    hopen, hearly _ (.inr (.inr ⟨.hereDocument, rfl⟩)) hopen⟩

end Detector

end QueryConsole
