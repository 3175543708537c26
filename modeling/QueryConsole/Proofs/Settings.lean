import QueryConsole.Settings

/-!
# Usable settings

Where a detector comes from settings, its terminator and dialect are the ones that the settings
name, and command lines are read with the same terminator.
-/

namespace QueryConsole

/-- A computation with a result has one at its first step. -/
theorem exists_of_bind_eq_ok {ε α β : Type} {x : Except ε α} {f : α → Except ε β} {b : β}
    (h : x >>= f = .ok b) : ∃ a, x = .ok a ∧ f a = .ok b := by
  cases x with
  | error e => cases h
  | ok a => exact ⟨a, rfl, h⟩

namespace Settings

variable {s : Settings} {c : Char} {d : Detector}

theorem terminatorChar_eq_ok_iff :
    s.terminatorChar = .ok c ↔ s.terminator = [c] ∧ Text.isBlank c = false := by
  constructor
  · intro h
    unfold terminatorChar at h
    split at h
    · next a hterminator =>
      split at h
      · cases h
      · next hblank =>
        obtain rfl := Except.ok.inj h
        exact ⟨hterminator, by simpa using hblank⟩
    · cases h
  · rintro ⟨hterminator, hblank⟩
    simp [terminatorChar, hterminator, hblank]

theorem of_detector (h : s.detector = .ok d) :
    s.terminatorChar = .ok d.terminator ∧ s.chosenDialect = .ok d.dialect ∧
      d.multiLine = s.multiLine := by
  obtain ⟨c, hterminator, h⟩ := exists_of_bind_eq_ok h
  obtain ⟨dialect, hdialect, h⟩ := exists_of_bind_eq_ok h
  obtain rfl := Except.ok.inj h
  exact ⟨hterminator, hdialect, rfl⟩

theorem lineOptions_of_detector (h : s.detector = .ok d) :
    s.lineOptions = .ok { terminator := some d.terminator, keepDoubleQuotes := s.keepDoubleQuotes,
                          keepInitialEscape := s.keepInitialEscape } := by
  rw [lineOptions, (of_detector h).1]
  rfl

end Settings

end QueryConsole
