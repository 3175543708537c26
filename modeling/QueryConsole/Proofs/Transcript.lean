import QueryConsole.Proofs.Command.Places
import QueryConsole.Proofs.Prompts
import QueryConsole.Proofs.Sql.Decomposition
import QueryConsole.Session

/-!
# Transcripts

A run of a console comes to the end of any input whose lines are UTF-8. Every offset at which it
cuts its buffer or a command line lies between two characters, so the cuts could as well insist on
that. Where the buffer is empty a run can be divided in two: nothing that was read before has any
effect on what is written after.
-/

namespace QueryConsole

open Text

namespace Sql

variable {o : Lexer.Options} {t : Text} {a : Token}

/-- The ends of a token lie between characters. -/
theorem isPlace_of_mem_tokens (ha : a ∈ tokens o t) : IsPlace t a.start ∧ IsPlace t a.stop := by
  rw [tokens_eq] at ha
  obtain ⟨-, before, x, after, rfl, -, -, hstart, hstop⟩ :=
    Lexeme.standsIn_of_mem_tokens (tiling_lexemes o t) ha
  constructor
  · apply isPlace_iff.2
    exact ⟨before, x.text ++ after, List.append_assoc _ _ _, hstart⟩
  · apply isPlace_iff.2
    exact ⟨before ++ x.text, after, rfl, by rw [hstop, hstart, size_append]⟩

end Sql

namespace Console

variable {c : Console}

/-! ### Cuts -/

/-- What is shown of a statement, if its terminator begins and ends between characters. -/
def submitStatement? (c : Console) (offset : Nat) : Option Text := do
  let (statement, _) ← splitAt? offset c.buffer
  let (_, rest) ← splitAt? (offset + c.detector.terminator.utf8Size) c.buffer
  return showStatement (trim statement) ++ describe c.options "args".toList rest

/-- What is shown of a command, if it begins between characters. -/
def submitCommand? (c : Console) : Option Text := do
  let command := lineAt c.buffer (size c.buffer)
  let (pending, _) ← splitAt? (size c.buffer - size command) c.buffer
  return (if (trim pending).isEmpty then [] else showStatement (trim pending)) ++
    describe c.options "command".toList command

/-- What is shown of the buffer, if all offsets at which it is cut lie between characters. -/
def shown? (c : Console) : Option Text :=
  match c.detector.detectAtEnd c.buffer with
  | .terminated offset => c.submitStatement? offset
  | .command => c.submitCommand?
  | .singleLine => some c.submitLine
  | .blank | .unclosed _ | .unterminated => some []

theorem submitStatement?_eq {p : Nat} (h : c.detector.detectAtEnd c.buffer = .terminated p) :
    c.submitStatement? p = some (c.submitStatement p) := by
  obtain ⟨-, hfound⟩ := Detector.of_detect_eq_terminated h
  obtain ⟨front, back, hbuffer, rfl, -⟩ := Sql.Dialect.exists_front_of_terminator? hfound
  have hbefore : splitAt? (size front) c.buffer = some (front, c.detector.terminator :: back) :=
    splitAt?_eq_some_iff.2 ⟨hbuffer, rfl⟩
  have hbehind : splitAt? (size front + c.detector.terminator.utf8Size) c.buffer =
      some (front ++ [c.detector.terminator], back) :=
    splitAt?_eq_some_iff.2 ⟨by simpa using hbuffer, by simp⟩
  have hsplit : splitAt (size front) c.buffer = (front, c.detector.terminator :: back) := by
    rw [hbuffer, splitAt_size]
  rw [submitStatement?, hbefore, hbehind, submitStatement, hsplit]
  rfl

theorem submitCommand?_eq (c : Console) : c.submitCommand? = some c.submitCommand := by
  obtain ⟨front, hbuffer⟩ := exists_append_lineAt_size c.buffer
  have hsize : size c.buffer - size (lineAt c.buffer (size c.buffer)) = size front := by
    have happend := congrArg size hbuffer
    rw [size_append] at happend
    omega
  have hlength : c.buffer.length - (lineAt c.buffer (size c.buffer)).length = front.length := by
    have happend := congrArg List.length hbuffer
    rw [List.length_append] at happend
    omega
  have htake : c.buffer.take front.length = front := by
    rw [hbuffer, List.take_left]
  have hcut : splitAt? (size front) c.buffer =
      some (front, lineAt c.buffer (size c.buffer)) := splitAt?_eq_some_iff.2 ⟨hbuffer, rfl⟩
  rw [submitCommand?, submitCommand, hsize, hcut, hlength, htake]
  rfl

/-- Nothing is lost by the demand that cuts lie between characters. -/
theorem shown?_eq (c : Console) : c.shown? = some c.shown := by
  unfold shown? shown
  cases hverdict : c.detector.detectAtEnd c.buffer with
  | terminated p => exact submitStatement?_eq hverdict
  | command => exact c.submitCommand?_eq
  | _ => rfl

/-- Takes a line of input, if all offsets at which the buffer is cut lie between characters. -/
def enter? (c : Console) (line : Text) : Option (Text × Console) := do
  let shown ← (c.receive line).shown?
  let next := (c.enter line).2
  return (shown ++ next.currentPrompt, next)

def enterAll? (c : Console) : List Text → Option (Text × Console)
  | [] => some ([], c)
  | line :: lines => do
    let (out, c) ← c.enter? line
    let (outs, c) ← enterAll? c lines
    return (out ++ outs, c)

def transcript? (c : Console) (lines : List Text) : Option Text := do
  let (out, _) ← c.enterAll? lines
  return prompt c.buffer none ++ out ++ ['\n']

theorem enter?_eq (c : Console) (line : Text) : c.enter? line = some (c.enter line) := by
  rw [enter?, shown?_eq]
  dsimp only [bind, Option.bind, pure]
  exact congrArg some (Prod.ext (c.enter_fst line).symm rfl)

theorem enterAll?_eq (c : Console) (ls : List Text) : c.enterAll? ls = some (c.enterAll ls) := by
  induction ls generalizing c with
  | nil => rfl
  | cons l ls ih =>
    rw [enterAll?, enter?_eq]
    dsimp only [bind, Option.bind]
    rw [ih]
    rfl

theorem transcript?_eq (c : Console) (ls : List Text) :
    c.transcript? ls = some (c.transcript ls) := by
  rw [transcript?, enterAll?_eq]
  rfl

/-- All offsets at which a console cuts what it reads lie between characters: those at which it
divides its buffer, the ends of the tokens there, and all places in command lines. -/
structure CutsCleanly (c : Console) : Prop where
  transcript : ∀ lines, c.transcript? lines = some (c.transcript lines)
  tokens : ∀ buffer, ∀ a ∈ Sql.tokens (c.detector.dialect.options c.detector.terminator) buffer,
    IsPlace buffer a.start ∧ IsPlace buffer a.stop
  calls : ∀ line n, ∀ call ∈ (Command.Scanner.ofLine c.options line).calls n, call.StaysIn line

theorem cutsCleanly (c : Console) : c.CutsCleanly where
  transcript := c.transcript?_eq
  tokens _ _ ha := Sql.isPlace_of_mem_tokens ha
  calls line n := Command.Scanner.staysIn_calls n (.ofText line)

/-! ### Parts of a run -/

/-- A line changes nothing but the buffer. -/
theorem enter_snd (c : Console) (line : Text) :
    (c.enter line).2 = { c with buffer := (c.enter line).2.buffer } := by
  rcases c.enter_cases line with ⟨-, h⟩ | ⟨-, h⟩
  · rw [h]
  · rw [h]

theorem enterAll_snd (c : Console) (ls : List Text) :
    (c.enterAll ls).2 = { c with buffer := c.bufferAfter ls } := by
  induction ls generalizing c with
  | nil => rfl
  | cons l ls ih =>
    rw [bufferAfter, enterAll]
    dsimp only
    rw [ih (c.enter l).2, enter_snd c l]

/-- Where the buffer is empty, the rest of a run is a run of its own. -/
theorem written_append {xs : List Text} (hc : c.buffer = []) (h : c.bufferAfter xs = [])
    (ys : List Text) : c.written (xs ++ ys) = c.written xs ++ (c.enterAll ys).1 := by
  have hidle : (c.enterAll xs).2 = c := by
    rw [enterAll_snd, h, ← hc]
  rw [written, enterAll_fst_append, hidle, written, List.append_assoc]

end Console

namespace Session

theorem decodeAll_of_map_eq {lines : List (List UInt8)} {ts : List Text}
    (h : lines.map decode? = ts.map some) : decodeAll lines = (ts, true) := by
  induction lines generalizing ts with
  | nil =>
    obtain rfl := List.map_eq_nil_iff.1 h.symm
    rfl
  | cons line lines ih =>
    obtain ⟨t, us, rfl, ht, hus⟩ := List.map_eq_cons_iff.1 h.symm
    rw [decodeAll, ← ht, ih hus.symm]

/-- An input all of whose lines are UTF-8 is read to its end. -/
theorem run_eq {c : Console} {bytes : List UInt8} {ts : List Text}
    (h : (lines bytes).map decode? = ts.map some) : run c bytes = (c.transcript ts, none) := by
  rw [run, decodeAll_of_map_eq h]
  rfl

end Session

namespace Console

/-- With settings that a detector can be made of, a console reads any input whose lines are UTF-8 to
its end, and cuts no character in two. At any place where the buffer is empty, what it writes is
what it would write for the lines before, without the last newline, and then what it would write for
the lines behind, without the first prompt. -/
theorem runs_of_detector {s : Settings} {d : Detector} (h : s.detector = .ok d)
    (env : Command.Environment) :
    ∃ c, ofSettings s env = .ok c ∧ c.detector = d ∧ c.CutsCleanly ∧
      (∀ bytes ts, (Session.lines bytes).map Session.decode? = ts.map some →
        Session.run c bytes = (c.transcript ts, none)) ∧
      ∀ xs ys, c.bufferAfter xs = [] →
        ∃ front back, c.transcript xs = front ++ ['\n'] ∧
          c.transcript ys = prompt [] none ++ back ∧ c.transcript (xs ++ ys) = front ++ back := by
  obtain ⟨c, hc⟩ : ∃ c, ofSettings s env = .ok c := by
    rw [ofSettings, h, Settings.lineOptions_of_detector h]
    exact ⟨_, rfl⟩
  obtain ⟨hdetector, hempty⟩ := of_ofSettings hc
  refine ⟨c, hc, Except.ok.inj (hdetector.symm.trans h), c.cutsCleanly, ?_, ?_⟩
  · intro bytes ts hts
    exact Session.run_eq hts
  · intro xs ys hxs
    refine ⟨c.written xs, (c.enterAll ys).1 ++ ['\n'], rfl, ?_, ?_⟩
    · rw [transcript, hempty, List.append_assoc]
    · rw [← List.append_assoc, ← written_append hempty hxs]
      rfl

/-- A command that cannot be read, and one behind it. -/
theorem runs_of_detector_bad_line :
    ∃ c, Settings.detector {} = .ok c.detector ∧ ofSettings {} [] = .ok c ∧ c.CutsCleanly ∧
      (Session.lines (bytes "\\echo é |\n\\echo b\n".toList)).map Session.decode? =
        ["\\echo é |".toList, "\\echo b".toList].map some ∧
      Session.run c (bytes "\\echo é |\n\\echo b\n".toList) =
        (c.transcript ["\\echo é |".toList, "\\echo b".toList], none) ∧
      c.bufferAfter ["\\echo é |".toList] = [] ∧
      ∃ front back, c.transcript ["\\echo é |".toList] = front ++ ['\n'] ∧
        c.transcript ["\\echo b".toList] = prompt [] none ++ back ∧
        c.transcript (["\\echo é |".toList] ++ ["\\echo b".toList]) = front ++ back := by
  have hdetector : Settings.detector {} = .ok standard.detector := rfl
  have hlines : (Session.lines (bytes "\\echo é |\n\\echo b\n".toList)).map Session.decode? =
      ["\\echo é |".toList, "\\echo b".toList].map some := by
    decide +kernel
  have hbuffer : standard.bufferAfter ["\\echo é |".toList] = [] := by
    decide +kernel
  obtain ⟨c, hc, -, hcuts, hrun, hparts⟩ := runs_of_detector hdetector []
  obtain rfl : standard = c := Except.ok.inj hc
  exact ⟨standard, hdetector, hc, hcuts, hlines, hrun _ _ hlines, hbuffer, hparts _ _ hbuffer⟩

end Console

end QueryConsole
