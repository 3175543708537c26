import QueryConsole.Proofs.Gathering

/-!
# Prompts

What a console writes is prompts, and a reply to each line before the next prompt. A prompt numbers
the line for which it asks among those that make one input. An empty line at the end of what was
gathered is not counted, so the prompt behind it repeats the number before.
-/

namespace QueryConsole

open Text

/-- The construct inside which the input stops. -/
def Verdict.open? : Verdict → Option Sql.Construct
  | unclosed k => some k
  | _ => none

namespace Console

variable {c : Console} {before since : List Text}

/-- The prompt of a console between two lines of input. -/
def currentPrompt (c : Console) : Text :=
  prompt c.buffer (c.detector.detectAtEnd c.buffer).open?

/-- What a console shows of its buffer before the next prompt, when a line has been added. -/
def shown (c : Console) : Text :=
  match c.detector.detectAtEnd c.buffer with
  | .terminated offset => c.submitStatement offset
  | .command => c.submitCommand
  | .singleLine => c.submitLine
  | .blank | .unclosed _ | .unterminated => []

/-- The console with a further line in its buffer. -/
def receive (c : Console) (line : Text) : Console := { c with buffer := addLine c.buffer line }

/-- What a console shows of a line before the next prompt. -/
def reply (c : Console) (line : Text) : Text := (c.receive line).shown

/-- What is written for the first lines of an input. -/
def written (c : Console) (ls : List Text) : Text := prompt c.buffer none ++ (c.enterAll ls).1

/-- The prompt for the line behind the given ones. -/
def promptAfter (c : Console) (ls : List Text) : Text := (c.enterAll ls).2.currentPrompt

theorem currentPrompt_of_nil (h : c.buffer = []) : c.currentPrompt = prompt [] none := by
  have hopen : (c.detector.detectAtEnd []).open? = none := by
    unfold Detector.detectAtEnd Detector.detect
    cases c.detector.multiLine <;> rfl
  rw [currentPrompt, h, hopen]

theorem enter_fst (c : Console) (line : Text) :
    (c.enter line).1 = c.reply line ++ (c.enter line).2.currentPrompt := by
  have hidle : ({ c with buffer := [] } : Console).currentPrompt = prompt [] none :=
    currentPrompt_of_nil rfl
  simp only [enter, reply, receive, shown]
  cases hverdict : c.detector.detectAtEnd (addLine c.buffer line) with
  | unclosed k => simp [currentPrompt, hverdict, Verdict.open?]
  | unterminated => simp [currentPrompt, hverdict, Verdict.open?]
  | _ => simp [hidle]

theorem enterAll_fst_append (c : Console) (ls ms : List Text) :
    (c.enterAll (ls ++ ms)).1 = (c.enterAll ls).1 ++ ((c.enterAll ls).2.enterAll ms).1 := by
  induction ls generalizing c with
  | nil => rfl
  | cons l ls ih =>
    simp only [List.cons_append, enterAll]
    rw [ih, List.append_assoc]

theorem written_nil (h : c.buffer = []) : c.written [] = c.promptAfter [] := by
  rw [written, promptAfter, enterAll, List.append_nil, currentPrompt_of_nil h, h]

/-- A further line adds the reply to it and the next prompt. -/
theorem written_concat (c : Console) (ls : List Text) (line : Text) :
    c.written (ls ++ [line]) =
      c.written ls ++ (c.enterAll ls).2.reply line ++ c.promptAfter (ls ++ [line]) := by
  rw [written, enterAll_fst_append, promptAfter, enterAll_append]
  simp only [enterAll, List.append_nil]
  rw [enter_fst, written, List.append_assoc, List.append_assoc]

/-- The number of the line behind the given ones. -/
def promptNumber (ls : List Text) : Nat :=
  if ls.getLast? = some [] then ls.length else ls.length + 1

theorem promptNumber_concat {ls : List Text} {l : Text} (hls : ls.getLast? ≠ some [])
    (hl : l ≠ []) : promptNumber (ls ++ [l]) = promptNumber ls + 1 := by
  simp [promptNumber, hls, hl]

theorem lineCount_joinLines_succ {ls : List Text} (h : ∀ l ∈ ls, '\n' ∉ l) :
    lineCount (joinLines ls) + 1 = promptNumber ls := by
  rw [lineCount_joinLines h, promptNumber]
  split
  · next hlast =>
    have hpos : 0 < ls.length := List.length_pos_of_mem (List.mem_of_getLast? hlast)
    omega
  · rfl

/-- A prompt with the given number, and what is missing inside the given construct. -/
def numbered (n : Nat) (unclosed : Option Sql.Construct) : Text :=
  Command.digits n ++ (unclosed.map (·.closing)).getD [] ++ ['>', ' ']

theorem prompt_eq (buffer : Text) (unclosed : Option Sql.Construct) :
    prompt buffer unclosed = numbered (lineCount buffer + 1) unclosed := by
  cases buffer with
  | nil => rfl
  | cons b buffer => rfl

/-- The prompt behind the lines `since`, the first of which found the buffer empty. -/
theorem Gathers.promptAfter_eq (h : c.Gathers before since) (hlines : ∀ l ∈ since, '\n' ∉ l) :
    c.promptAfter (before ++ since) =
      numbered (promptNumber since) (c.detector.detectAtEnd (joinLines since)).open? := by
  have hbuffer := (h.buffer_eq (List.prefix_refl since)).1
  rw [bufferAfter] at hbuffer
  rw [promptAfter, currentPrompt, detector_enterAll, hbuffer, prompt_eq,
    lineCount_joinLines_succ hlines]

/-- A run writes a prompt, and for each line a reply and the next prompt. The prompt after any lines
has the number that belongs to those read since the buffer was last empty. While lines are gathered
it goes up by one with each, unless that line or the one before it is empty. -/
theorem prompts_of_ofSettings {s : Settings} {env : Command.Environment}
    (h : ofSettings s env = .ok c) {lines : List Text} (hlines : ∀ l ∈ lines, '\n' ∉ l) :
    (c.transcript lines = c.written lines ++ ['\n'] ∧ c.written [] = c.promptAfter [] ∧
      ∀ ls line, c.written (ls ++ [line]) =
        c.written ls ++ (c.enterAll ls).2.reply line ++ c.promptAfter (ls ++ [line])) ∧
    (∃ before since, lines = before ++ since ∧ c.Gathers before since) ∧
    ∀ before since, lines = before ++ since → c.Gathers before since →
      c.promptAfter lines =
        numbered (promptNumber since) (c.detector.detectAtEnd (joinLines since)).open? ∧
      ∀ line, c.Gathers before (since ++ [line]) → '\n' ∉ line → line ≠ [] →
        since.getLast? ≠ some [] → c.promptAfter (lines ++ [line]) =
          numbered (promptNumber since + 1)
            (c.detector.detectAtEnd (joinLines (since ++ [line]))).open? := by
  have hempty := (of_ofSettings h).2
  refine ⟨⟨rfl, written_nil hempty, c.written_concat⟩, exists_gathers hempty lines, ?_⟩
  rintro before since rfl hgathers
  have hsince : ∀ l ∈ since, '\n' ∉ l := fun l hl => hlines l (List.mem_append_right _ hl)
  refine ⟨hgathers.promptAfter_eq hsince, ?_⟩
  intro line hnext hline hne hlast
  have hall : ∀ l ∈ since ++ [line], '\n' ∉ l := by
    intro l hl
    rcases List.mem_append.1 hl with hl | hl
    · exact hsince l hl
    · rwa [List.mem_singleton.1 hl]
  rw [List.append_assoc, hnext.promptAfter_eq hall, promptNumber_concat hlast hne]

/-- The prompts inside a literal of two lines, and behind it. -/
theorem prompts_of_ofSettings_literal :
    ofSettings {} [] = .ok standard ∧ (∀ l ∈ ["select 'a".toList], '\n' ∉ l) ∧
    standard.Gathers [] ["select 'a".toList, "b'".toList] ∧
    standard.transcript ["select 'a".toList] = standard.written ["select 'a".toList] ++ ['\n'] ∧
    standard.promptAfter ["select 'a".toList] = numbered 2 (some .stringLiteral) ∧
    standard.promptAfter ["select 'a".toList, "b'".toList] = numbered 3 none := by
  have h : ofSettings {} [] = .ok standard := rfl
  have hlines : ∀ l ∈ ["select 'a".toList], '\n' ∉ l := by decide
  have hboth : standard.Gathers [] ["select 'a".toList, "b'".toList] := by
    have hkept : ∀ ls ∈ ["select 'a".toList, "b'".toList].inits, ls ≠ [] →
        standard.bufferAfter ([] ++ ls) ≠ [] := by
      decide +kernel
    exact ⟨rfl, fun ls hls => hkept ls ((List.mem_inits _ _).2 hls)⟩
  have hfirst : standard.Gathers [] ["select 'a".toList] :=
    ⟨rfl, fun ls hls => hboth.kept ls (hls.trans (List.prefix_append _ ["b'".toList]))⟩
  obtain ⟨⟨htranscript, -⟩, -, hprompts⟩ := prompts_of_ofSettings h hlines
  obtain ⟨hprompt, hnext⟩ := hprompts [] _ rfl hfirst
  have hopen : (standard.detector.detectAtEnd (joinLines ["select 'a".toList])).open? =
      some .stringLiteral := by
    decide +kernel
  have hclosed : (standard.detector.detectAtEnd
      (joinLines (["select 'a".toList] ++ ["b'".toList]))).open? = none := by
    decide +kernel
  have hsecond := hnext "b'".toList hboth (by decide) (by decide) (by decide)
  rw [hopen] at hprompt
  rw [hclosed] at hsecond
  exact ⟨h, hlines, hboth, htranscript, hprompt, hsecond⟩

/-- Behind an empty line the number of the prompt is that of the line itself. -/
theorem not_forall_numbered :
    ¬ ∀ (s : Settings) (env : Command.Environment) (c : Console) (before since : List Text),
      ofSettings s env = .ok c → (∀ l ∈ before ++ since, '\n' ∉ l) → c.Gathers before since →
      c.promptAfter (before ++ since) = numbered (since.length + 1)
        (c.detector.detectAtEnd (joinLines since)).open? := by
  intro h
  have hkept : ∀ ls ∈ ["select 1".toList, []].inits, ls ≠ [] →
      standard.bufferAfter ([] ++ ls) ≠ [] := by
    decide +kernel
  have hgathers : standard.Gathers [] ["select 1".toList, []] :=
    ⟨rfl, fun ls hls => hkept ls ((List.mem_inits _ _).2 hls)⟩
  have hprompt := h {} [] standard [] ["select 1".toList, []] rfl (by decide) hgathers
  revert hprompt
  decide +kernel

end Console

end QueryConsole
