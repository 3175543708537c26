import QueryConsole.Verdict

/-!
# The grounds of a verdict

The detector asks one question after the other, and stops at the first one that settles the matter.
A verdict therefore says how all questions before it were answered.
-/

namespace QueryConsole.Detector

open Text

/-- The input is such that its tokens matter: it is not run line by line, and not all blank. -/
structure Reads (d : Detector) (buffer : Text) : Prop where
  multiLine : d.multiLine = true
  not_blank : buffer.all isBlank = false

/-- The verdict on a buffer, with its grounds. -/
inductive Judges (d : Detector) (buffer : Text) (caret : Nat) : Verdict → Prop
  | singleLine : d.multiLine = false → d.Judges buffer caret .singleLine
  | blank : d.multiLine = true → buffer.all isBlank = true → d.Judges buffer caret .blank
  | unclosed {k : Sql.Construct} : d.Reads buffer →
      (d.dialect.analyze d.terminator buffer).unclosed = some k →
      d.Judges buffer caret (.unclosed k)
  | terminated {p : Nat} : d.Reads buffer →
      (d.dialect.analyze d.terminator buffer).unclosed = none →
      (d.dialect.analyze d.terminator buffer).terminator? = some p → p ≤ caret →
      d.Judges buffer caret (.terminated p)
  | command : d.Reads buffer → (d.dialect.analyze d.terminator buffer).unclosed = none →
      (∀ p, (d.dialect.analyze d.terminator buffer).terminator? = some p → caret < p) →
      (trimStart (lineAt buffer caret)).head? = some '\\' → d.Judges buffer caret .command
  | unterminated : d.Reads buffer → (d.dialect.analyze d.terminator buffer).unclosed = none →
      (∀ p, (d.dialect.analyze d.terminator buffer).terminator? = some p → caret < p) →
      (trimStart (lineAt buffer caret)).head? ≠ some '\\' → d.Judges buffer caret .unterminated

variable {d : Detector} {buffer : Text} {caret p : Nat} {v : Verdict}

theorem Reads.ne_nil (h : d.Reads buffer) : buffer ≠ [] := by
  rintro rfl
  cases h.not_blank

theorem filter_le_eq_none_iff {found : Option Nat} :
    found.filter (· ≤ caret) = none ↔ ∀ p, found = some p → caret < p := by
  simp [Option.filter_eq_none_iff]

theorem filter_le_eq_some_iff {found : Option Nat} :
    found.filter (· ≤ caret) = some p ↔ found = some p ∧ p ≤ caret := by
  simp [Option.filter_eq_some_iff]

theorem judges_detect (d : Detector) (buffer : Text) (caret : Nat) :
    d.Judges buffer caret (d.detect buffer caret) := by
  unfold detect
  split
  · next hmulti => exact .singleLine (by simpa using hmulti)
  · next hmulti =>
    split
    · next hblank => exact .blank (by simpa using hmulti) hblank
    · next hblank =>
      have hreads : d.Reads buffer := ⟨by simpa using hmulti, by simpa using hblank⟩
      dsimp only
      split
      · next k hopen => exact .unclosed hreads hopen
      · next hopen =>
        split
        · next q hfound =>
          obtain ⟨hfound, hle⟩ := filter_le_eq_some_iff.1 hfound
          exact .terminated hreads hopen hfound hle
        · next hfilter =>
          have hfound := filter_le_eq_none_iff.1 hfilter
          split
          · next hline => exact .command hreads hopen hfound hline
          · next hline => exact .unterminated hreads hopen hfound hline

theorem Judges.detect_eq (h : d.Judges buffer caret v) : d.detect buffer caret = v := by
  cases h with
  | singleLine hmulti => simp [detect, hmulti]
  | blank hmulti hblank => simp [detect, hmulti, hblank]
  | unclosed hreads hopen => simp [detect, hreads.multiLine, hreads.not_blank, hopen]
  | terminated hreads hopen hfound hle =>
    have hfilter := filter_le_eq_some_iff.2 ⟨hfound, hle⟩
    simp [detect, hreads.multiLine, hreads.not_blank, hopen, hfilter]
  | command hreads hopen hfound hline =>
    have hfilter := filter_le_eq_none_iff.2 hfound
    simp [detect, hreads.multiLine, hreads.not_blank, hopen, hfilter, hline]
  | unterminated hreads hopen hfound hline =>
    have hfilter := filter_le_eq_none_iff.2 hfound
    simp [detect, hreads.multiLine, hreads.not_blank, hopen, hfilter, hline]

theorem judges_iff : d.Judges buffer caret v ↔ d.detect buffer caret = v := by
  constructor
  · exact Judges.detect_eq
  · rintro rfl
    exact d.judges_detect buffer caret

theorem of_detect_eq_terminated (h : d.detect buffer caret = .terminated p) :
    (d.dialect.analyze d.terminator buffer).unclosed = none ∧
      (d.dialect.analyze d.terminator buffer).terminator? = some p := by
  cases judges_iff.2 h with
  | terminated _ hopen hfound _ => exact ⟨hopen, hfound⟩

theorem of_detect_eq_command (h : d.detect buffer caret = .command) :
    (d.dialect.analyze d.terminator buffer).unclosed = none ∧
      (trimStart (lineAt buffer caret)).head? = some '\\' := by
  cases judges_iff.2 h with
  | command _ hopen _ hline => exact ⟨hopen, hline⟩

theorem detectAtEnd_eq_terminated_iff {s : Text} :
    d.detectAtEnd s = .terminated p ↔ d.multiLine = true ∧ s.all isBlank = false ∧
      (d.dialect.analyze d.terminator s).unclosed = none ∧
      (d.dialect.analyze d.terminator s).terminator? = some p ∧ p ≤ size s := by
  rw [detectAtEnd, ← judges_iff]
  constructor
  · rintro (_ | _ | _ | ⟨⟨hmulti, hblank⟩, hopen, hfound, hle⟩)
    exact ⟨hmulti, hblank, hopen, hfound, hle⟩
  · rintro ⟨hmulti, hblank, hopen, hfound, hle⟩
    exact .terminated ⟨hmulti, hblank⟩ hopen hfound hle

end QueryConsole.Detector
