import Mathlib.Data.List.Induction
import Mathlib.Data.List.Infix
import QueryConsole.Console
import QueryConsole.Proofs.Settings
import QueryConsole.Proofs.Stability
import QueryConsole.Proofs.Text.Lines

/-!
# The lines a console gathers

Between two lines of input the buffer of a console is empty, or it is the join of the lines read
since it was last empty and the verdict on it is pending. Where the verdict before a line was that a
terminator is missing, a terminator that completes the input lies in that line. No statement is
therefore submitted later than the first line whose terminator makes it complete.
-/

namespace QueryConsole

open Text

/-- The console waits for more lines, and keeps those that it has. -/
def Verdict.IsPending (v : Verdict) : Prop := (∃ k, v = .unclosed k) ∨ v = .unterminated

namespace Detector

variable {d : Detector} {s x : Text} {p : Nat}

theorem of_isPending (h : (d.detectAtEnd s).IsPending) : d.multiLine = true ∧ s ≠ [] := by
  rcases h with ⟨k, h⟩ | h
  · cases judges_iff.2 h with
    | unclosed hreads _ => exact ⟨hreads.multiLine, hreads.ne_nil⟩
  · cases judges_iff.2 h with
    | unterminated hreads => exact ⟨hreads.multiLine, hreads.ne_nil⟩

theorem terminator?_of_detectAtEnd (h : d.detectAtEnd s = .unterminated) :
    (d.dialect.analyze d.terminator s).terminator? = none := by
  cases judges_iff.2 h with
  | unterminated _ _ hfound =>
    -- at the end of the input no terminator is behind the caret
    rw [Option.eq_none_iff_forall_ne_some]
    intro p hp
    exact (hfound p hp).not_gt (Sql.Dialect.lt_size_of_terminator? hp)

/-- Where the terminator was missing, it lies in the lines that come behind. -/
theorem exists_of_terminated_append (hd : isBlank d.terminator = false)
    (hs : d.detectAtEnd s = .unterminated) (h : d.detectAtEnd (s ++ '\n' :: x) = .terminated p) :
    ∃ front back, x = front ++ d.terminator :: back ∧ p = size s + 1 + size front := by
  obtain ⟨-, -, -, hfound, -⟩ := detectAtEnd_eq_terminated_iff.1 h
  obtain ⟨front, back, hx, rfl⟩ :=
    Sql.Dialect.exists_of_terminator?_append (terminator?_of_detectAtEnd hs) hfound
  cases front with
  | nil =>
    -- the newline is no terminator
    rw [← (List.cons.inj hx).1] at hd
    cases hd
  | cons a front =>
    obtain ⟨rfl, rfl⟩ := List.cons.inj hx
    have hone : '\n'.utf8Size = 1 := rfl
    refine ⟨front, back, rfl, ?_⟩
    rw [size_cons, hone, Nat.add_assoc]

end Detector

namespace Console

variable {c : Console} {before since : List Text}

/-! ### One line -/

/-- What a line makes of a console: the line is added to the buffer, or the buffer is given up. -/
theorem enter_cases (c : Console) (line : Text) :
    ((c.detector.detectAtEnd (addLine c.buffer line)).IsPending ∧
      (c.enter line).2 = { c with buffer := addLine c.buffer line }) ∨
    (¬(c.detector.detectAtEnd (addLine c.buffer line)).IsPending ∧
      (c.enter line).2 = { c with buffer := [] }) := by
  simp only [enter]
  cases c.detector.detectAtEnd (addLine c.buffer line) with
  | unclosed k => exact .inl ⟨.inl ⟨k, rfl⟩, rfl⟩
  | unterminated => exact .inl ⟨.inr rfl, rfl⟩
  | _ => exact .inr ⟨by simp [Verdict.IsPending], rfl⟩

theorem detector_enter (c : Console) (line : Text) : (c.enter line).2.detector = c.detector := by
  rcases c.enter_cases line with ⟨-, h⟩ | ⟨-, h⟩
  · rw [h]
  · rw [h]

/-! ### Many lines -/

theorem enterAll_append (c : Console) (ls ms : List Text) :
    (c.enterAll (ls ++ ms)).2 = ((c.enterAll ls).2.enterAll ms).2 := by
  induction ls generalizing c with
  | nil => rfl
  | cons l ls ih => exact ih (c.enter l).2

theorem detector_enterAll (c : Console) (ls : List Text) :
    (c.enterAll ls).2.detector = c.detector := by
  induction ls generalizing c with
  | nil => rfl
  | cons l ls ih => exact (ih (c.enter l).2).trans (c.detector_enter l)

/-- The buffer when the given lines have been entered. -/
def bufferAfter (c : Console) (ls : List Text) : Text := (c.enterAll ls).2.buffer

/-- Behind the lines `before` the buffer was empty, and `since` are the lines read since then. -/
structure Gathers (c : Console) (before since : List Text) : Prop where
  idle : c.bufferAfter before = []
  kept : ∀ ls, ls <+: since → ls ≠ [] → c.bufferAfter (before ++ ls) ≠ []

/-- A further line is kept in the buffer if it leaves the verdict pending, and the buffer is emptied
if not. -/
theorem bufferAfter_concat (c : Console) (ls : List Text) (line : Text) :
    ((c.detector.detectAtEnd (addLine (c.bufferAfter ls) line)).IsPending ∧
      c.bufferAfter (ls ++ [line]) = addLine (c.bufferAfter ls) line) ∨
    (¬(c.detector.detectAtEnd (addLine (c.bufferAfter ls) line)).IsPending ∧
      c.bufferAfter (ls ++ [line]) = []) := by
  have hconcat : c.bufferAfter (ls ++ [line]) = ((c.enterAll ls).2.enter line).2.buffer :=
    congrArg buffer (c.enterAll_append ls [line])
  have hcases := enter_cases (c.enterAll ls).2 line
  rw [detector_enterAll] at hcases
  rcases hcases with ⟨hp, henter⟩ | ⟨hp, henter⟩
  · exact .inl ⟨hp, by rw [hconcat, henter]; rfl⟩
  · exact .inr ⟨hp, by rw [hconcat, henter]⟩

theorem bufferAfter_concat_of_terminated {ls : List Text} {line : Text} {p : Nat}
    (h : c.detector.detectAtEnd (addLine (c.bufferAfter ls) line) = .terminated p) :
    c.bufferAfter (ls ++ [line]) = [] := by
  rcases c.bufferAfter_concat ls line with ⟨hp, -⟩ | ⟨-, hconcat⟩
  · rw [h] at hp
    rcases hp with ⟨k, hp⟩ | hp <;> cases hp
  · exact hconcat

/-- While it is not empty the buffer is the join of the lines read since it was, and its verdict is
pending. -/
theorem Gathers.buffer_eq (h : c.Gathers before since) {ls : List Text} (hls : ls <+: since) :
    c.bufferAfter (before ++ ls) = joinLines ls ∧
      (ls ≠ [] → (c.detector.detectAtEnd (joinLines ls)).IsPending) := by
  induction ls using List.reverseRecOn with
  | nil =>
    rw [List.append_nil]
    exact ⟨h.idle, fun hne => absurd rfl hne⟩
  | append_singleton ls l ih =>
    obtain ⟨hbuffer, hpending⟩ := ih ((List.prefix_append ls [l]).trans hls)
    have hadd : addLine (c.bufferAfter (before ++ ls)) l = joinLines (ls ++ [l]) := by
      rw [hbuffer]
      exact addLine_joinLines (fun hls => (Detector.of_isPending (hpending hls)).2) l
    have hne := h.kept (ls ++ [l]) hls (by simp)
    rw [← List.append_assoc] at hne ⊢
    rcases c.bufferAfter_concat (before ++ ls) l with ⟨hp, hconcat⟩ | ⟨-, hconcat⟩
    · rw [hadd] at hp hconcat
      exact ⟨hconcat, fun _ => hp⟩
    · exact absurd hconcat hne

/-- The buffer with a further line is the join of the lines with that line. -/
theorem Gathers.addLine_eq (h : c.Gathers before since) (line : Text) :
    addLine (c.bufferAfter (before ++ since)) line = joinLines (since ++ [line]) := by
  obtain ⟨hbuffer, hpending⟩ := h.buffer_eq (List.prefix_refl since)
  rw [hbuffer]
  exact addLine_joinLines (fun hsince => (Detector.of_isPending (hpending hsince)).2) line

/-- The terminator that completes the input comes behind each earlier buffer that waited for one. -/
theorem Gathers.size_lt (hd : isBlank c.detector.terminator = false) (h : c.Gathers before since)
    {line : Text} {p : Nat}
    (hline : c.detector.detectAtEnd (addLine (c.bufferAfter (before ++ since)) line) =
      .terminated p) {ls : List Text} (hls : ls <+: since)
    (hwait : c.detector.detectAtEnd (joinLines ls) = .unterminated) : size (joinLines ls) < p := by
  obtain ⟨ms, rfl⟩ := hls
  have hne : ls ≠ [] := by
    rintro rfl
    exact (Detector.of_isPending (.inr hwait)).2 rfl
  rw [h.addLine_eq, List.append_assoc, joinLines_append hne (by simp)] at hline
  obtain ⟨front, back, -, rfl⟩ := Detector.exists_of_terminated_append hd hwait hline
  omega

/-- After any lines there is a last place at which the buffer was empty. -/
theorem exists_gathers (hc : c.buffer = []) (lines : List Text) :
    ∃ before since, lines = before ++ since ∧ c.Gathers before since := by
  have hnil (before : List Text) (h : c.bufferAfter before = []) : c.Gathers before [] :=
    ⟨h, fun ls hls hne => absurd (List.prefix_nil.1 hls) hne⟩
  induction lines using List.reverseRecOn with
  | nil => exact ⟨[], [], rfl, hnil [] hc⟩
  | append_singleton ls l ih =>
    obtain ⟨before, since, rfl, h⟩ := ih
    by_cases hbuffer : c.bufferAfter (before ++ since ++ [l]) = []
    · exact ⟨before ++ since ++ [l], [], by simp, hnil _ hbuffer⟩
    · refine ⟨before, since ++ [l], by simp, h.idle, ?_⟩
      intro ls hls hne
      rcases List.prefix_concat_iff.1 hls with rfl | hls
      · rwa [← List.append_assoc]
      · exact h.kept ls hls hne

theorem bufferAfter_eq_nil_or_gathers (hc : c.buffer = []) (lines : List Text) :
    c.bufferAfter lines = [] ∨
      ∃ before since, lines = before ++ since ∧ c.Gathers before since ∧
        c.bufferAfter lines = joinLines since ∧
        (c.detector.detectAtEnd (c.bufferAfter lines)).IsPending := by
  obtain ⟨before, since, rfl, hgathers⟩ := exists_gathers hc lines
  obtain ⟨hbuffer, hpending⟩ := hgathers.buffer_eq (List.prefix_refl since)
  by_cases hsince : since = []
  · left
    rw [hbuffer, hsince, joinLines_nil]
  · right
    refine ⟨before, since, rfl, hgathers, hbuffer, ?_⟩
    rw [hbuffer]
    exact hpending hsince

end Console

/-! ### Consoles with settings -/

namespace Console

variable {s : Settings} {env : Command.Environment} {c : Console}

theorem of_ofSettings (h : ofSettings s env = .ok c) :
    s.detector = .ok c.detector ∧ c.buffer = [] := by
  obtain ⟨d, hdetector, h⟩ := exists_of_bind_eq_ok h
  obtain ⟨o, -, h⟩ := exists_of_bind_eq_ok h
  obtain rfl := Except.ok.inj h
  exact ⟨hdetector, rfl⟩

/-- After any lines the buffer is empty, or it is the join of the lines read since it was last empty
and waits for more. When a further line completes the input by a terminator, that lies in the line
if the buffer before was only waiting for one, and behind each earlier buffer that was. -/
theorem bufferAfter_of_ofSettings (h : ofSettings s env = .ok c) (lines : List Text) :
    (c.bufferAfter lines = [] ∨
      s.multiLine = true ∧ ∃ before since, lines = before ++ since ∧ c.Gathers before since ∧
        c.bufferAfter lines = joinLines since ∧
        (c.detector.detectAtEnd (c.bufferAfter lines)).IsPending) ∧
    ∀ line p, c.detector.detectAtEnd (addLine (c.bufferAfter lines) line) = .terminated p →
      c.bufferAfter (lines ++ [line]) = [] ∧
      (c.detector.detectAtEnd (c.bufferAfter lines) = .unterminated →
        ∃ front back, line = front ++ c.detector.terminator :: back ∧
          p = size (c.bufferAfter lines) + 1 + size front) ∧
      ∀ before since ls, lines = before ++ since → c.Gathers before since → ls <+: since →
        c.detector.detectAtEnd (joinLines ls) = .unterminated → size (joinLines ls) < p := by
  obtain ⟨hdetector, hempty⟩ := of_ofSettings h
  obtain ⟨hterminator, -, hmulti⟩ := Settings.of_detector hdetector
  obtain ⟨-, hblank⟩ := Settings.terminatorChar_eq_ok_iff.1 hterminator
  constructor
  · rcases bufferAfter_eq_nil_or_gathers hempty lines with
      hnil | ⟨before, since, hlines, hgathers, hbuffer, hpending⟩
    · exact .inl hnil
    · exact .inr ⟨hmulti ▸ (Detector.of_isPending hpending).1, before, since, hlines, hgathers,
        hbuffer, hpending⟩
  · intro line p hline
    refine ⟨bufferAfter_concat_of_terminated hline, ?_, ?_⟩
    · intro hbuffer
      have hne := (Detector.of_isPending (.inr hbuffer)).2
      rw [addLine, if_neg (by simpa using hne)] at hline
      exact Detector.exists_of_terminated_append hblank hbuffer hline
    · rintro before since ls rfl hgathers hls hwait
      exact hgathers.size_lt hblank hline hls hwait

/-- A console with the standard settings, in an empty environment. -/
def standard : Console where
  detector := ⟨';', true, .ansi⟩
  options := { terminator := some ';', lookup := some (Command.Variables.get? {}) }

/-- A terminator in a literal of two lines does not count, and the one in the third line does. -/
theorem bufferAfter_of_ofSettings_literal :
    ofSettings {} [] = .ok standard ∧
    standard.detector.detectAtEnd (addLine
      (standard.bufferAfter ["SELECT 'a;".toList, "b'".toList]) "FROM t; x".toList) =
        .terminated 20 ∧
    standard.detector.detectAtEnd (standard.bufferAfter ["SELECT 'a;".toList, "b'".toList]) =
      .unterminated ∧
    standard.Gathers [] ["SELECT 'a;".toList, "b'".toList] ∧
    (standard.bufferAfter ["SELECT 'a;".toList, "b'".toList] = [] ∨
      ({} : Settings).multiLine = true ∧ ∃ before since,
        ["SELECT 'a;".toList, "b'".toList] = before ++ since ∧ standard.Gathers before since ∧
        standard.bufferAfter ["SELECT 'a;".toList, "b'".toList] = joinLines since ∧
        (standard.detector.detectAtEnd
          (standard.bufferAfter ["SELECT 'a;".toList, "b'".toList])).IsPending) ∧
    standard.bufferAfter (["SELECT 'a;".toList, "b'".toList] ++ ["FROM t; x".toList]) = [] ∧
    (∃ front back, "FROM t; x".toList = front ++ ';' :: back ∧
      20 = size (standard.bufferAfter ["SELECT 'a;".toList, "b'".toList]) + 1 + size front) ∧
    size (joinLines ["SELECT 'a;".toList, "b'".toList]) < 20 := by
  have h : ofSettings {} [] = .ok standard := rfl
  have hline : standard.detector.detectAtEnd (addLine
      (standard.bufferAfter ["SELECT 'a;".toList, "b'".toList]) "FROM t; x".toList) =
        .terminated 20 := by
    decide +kernel
  have hbuffer : standard.detector.detectAtEnd
      (standard.bufferAfter ["SELECT 'a;".toList, "b'".toList]) = .unterminated := by
    decide +kernel
  have hkept : ∀ ls ∈ ["SELECT 'a;".toList, "b'".toList].inits, ls ≠ [] →
      standard.bufferAfter ([] ++ ls) ≠ [] := by
    decide +kernel
  have hgathers : standard.Gathers [] ["SELECT 'a;".toList, "b'".toList] :=
    ⟨rfl, fun ls hls => hkept ls ((List.mem_inits _ _).2 hls)⟩
  have hlines := (hgathers.buffer_eq (List.prefix_refl _)).1
  rw [List.nil_append] at hlines
  obtain ⟨hjoin, hsubmit⟩ := bufferAfter_of_ofSettings h ["SELECT 'a;".toList, "b'".toList]
  obtain ⟨hidle, hlast, hearlier⟩ := hsubmit "FROM t; x".toList 20 hline
  exact ⟨h, hline, hbuffer, hgathers, hjoin, hidle, hlast hbuffer,
    hearlier [] _ _ rfl hgathers (List.prefix_refl _) (hlines ▸ hbuffer)⟩

end Console

end QueryConsole
