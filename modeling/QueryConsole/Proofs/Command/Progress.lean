import QueryConsole.Proofs.Command.Faults

/-!
# Progress through a command line

No call moves a scanner back, and the tokens that it returns leave out nothing of the line but the
blanks between them. A scanner that is exhausted stays where it is and returns nothing more. It is
exhausted behind a terminator or a pipe, at a fault, and at the end of the line.
-/

namespace QueryConsole.Command

/-- The token stands in the line between two cursors, with only blanks before it. -/
def Token.Spans (t : Token) (k k' : Cursor) : Prop :=
  ∃ blanks text, (∀ b ∈ blanks, Text.isBlank b = true) ∧ text ≠ [] ∧ k.Takes (blanks ++ text) k' ∧
    t.position = some (k.offset + Text.size blanks) ∧ k.offset + Text.size blanks < k'.offset

/-- A pipe with this command ends the line at which `k` stands. -/
def Cursor.Pipes (k : Cursor) (command : Text) : Prop :=
  ∃ blanks more, (∀ b ∈ blanks, Text.isBlank b = true) ∧ (∀ b ∈ more, Text.isBlank b = true) ∧
    k.rest = blanks ++ '|' :: (more ++ command) ∧ command ≠ [] ∧
    ∀ c ∈ command.head?, Text.isBlank c = false

/-! ### Tokens that end a line -/

/-- Whether a raw token is one that begins with an arrow. -/
def RawToken.isRedirection : RawToken → Bool
  | redirect .. | duplicate .. | session .. => true
  | _ => false

section LastTokens

variable {o : Options} {fd : Option Fd} {first : Bool} {place : Nat} {k k' : Cursor}
  {raw : RawToken} {c d : Char} {command t : Text}

theorem isRedirection_of_readRedirect {terminator : Option Char}
    (h : readRedirect terminator fd place k = .ok (raw, k')) : raw.isRedirection = true := by
  cases redirectForm_iff.2 h with
  | session _ _ hr =>
    obtain ⟨-, hform⟩ := readSession_eq_ok_iff.1 hr
    cases hform with
    | numbered _ _ hraw => exact hraw ▸ rfl
    | current _ hraw _ => exact hraw ▸ rfl
  | target _ _ _ hr =>
    obtain ⟨w, -, rfl⟩ := Reading.map_eq_ok_iff.1 hr
    rfl
  | duplicate _ _ hr =>
    obtain ⟨-, n, -, rfl⟩ := readDuplicate_eq_ok_iff.1 hr
    rfl

/-- The command of a pipe is all that is left of the line behind the bar and the blanks there. -/
theorem pipes_of_readToken (h : readToken o first k c t = .ok (.pipe command, k')) :
    c = '|' ∧ k'.rest = [] ∧ ∃ more, (∀ b ∈ more, Text.isBlank b = true) ∧ t = more ++ command := by
  cases tokenForm_iff.2 h with
  | terminator _ hr => cases hr
  | redirect _ _ hr => cases isRedirection_of_readRedirect hr
  | pipe _ hbar hr =>
    obtain ⟨-, hcommand, rfl⟩ := readPipe_eq_ok_iff.1 hr
    obtain rfl := RawToken.pipe.inj hcommand
    have hblanks := Run.maximal_takeWhile Text.isBlank t
    exact ⟨hbar, rfl, _, hblanks.1, (rest_eq_blanks_append (k.advance [c] t)).symm⟩
  | descriptor _ _ _ hr => cases isRedirection_of_readRedirect hr
  | nothing _ _ hr => cases hr
  | word _ _ hr =>
    obtain ⟨w, -, hw⟩ := Reading.map_eq_ok_iff.1 hr
    cases hw

/-- Only the terminator is read as one. -/
theorem terminator_of_readToken (h : readToken o first k c t = .ok (.terminator d, k')) :
    o.terminator = some c := by
  cases tokenForm_iff.2 h with
  | terminator hc _ => exact hc
  | redirect _ _ hr => cases isRedirection_of_readRedirect hr
  | pipe _ _ hr =>
    obtain ⟨-, hraw, -⟩ := readPipe_eq_ok_iff.1 hr
    cases hraw
  | descriptor _ _ _ hr => cases isRedirection_of_readRedirect hr
  | nothing _ _ hr => cases hr
  | word _ _ hr =>
    obtain ⟨w, -, hw⟩ := Reading.map_eq_ok_iff.1 hr
    cases hw

/-- A token behind which nothing can be read is the same before and after it is resolved. -/
theorem RawToken.eq_of_endsLine {kind : Token.Kind} (h : raw.resolve o = .ok kind)
    (hkind : kind.endsLine = true) :
    (∃ d, raw = .terminator d ∧ kind = .terminator d) ∨
      ∃ command, raw = .pipe command ∧ kind = .pipe command := by
  cases raw with
  | terminator d => exact .inl ⟨d, rfl, (Except.ok.inj h).symm⟩
  | pipe command => exact .inr ⟨command, rfl, (Except.ok.inj h).symm⟩
  | redirect fd w append place =>
    simp only [resolve] at h
    split at h
    · cases h
    · obtain rfl := Except.ok.inj h
      cases hkind
  | _ =>
    obtain rfl := Except.ok.inj h
    cases hkind

end LastTokens

namespace Scanner

variable {s : Scanner} {t : Token}

/-! ### One call -/

/-- The scanner has stopped or is at the end of its line. -/
def Exhausted (s : Scanner) : Prop := s.finished = true ∨ s.cursor.rest = []

/-- Whether nothing can be read behind what a call returns. -/
def Call.isLast (call : Call) : Bool :=
  match call.result with
  | some (.ok t) => t.kind.endsLine
  | _ => true

/-- A call that returns nothing stops the scanner, if it has not stopped before, at the end of the
line. -/
theorem finished_of_next_none (h : s.next.1 = none) : s.next.2.finished = true ∧
    (s.finished = true ∧ s.next.2.cursor = s.cursor ∨
      s.cursor.skipBlanks.rest = [] ∧ s.next.2.cursor = s.cursor.skipBlanks) := by
  cases hf : s.finished with
  | true =>
    rw [next_of_finished hf]
    exact ⟨hf, .inl ⟨rfl, rfl⟩⟩
  | false =>
    obtain ⟨hend, hnext⟩ | ⟨c, u, -, ⟨e, -, hnext⟩ | ⟨raw, k', -, ⟨f, -, hnext⟩ |
      ⟨kind, -, hnext⟩⟩⟩ := next_cases hf
    · rw [hnext]
      exact ⟨rfl, .inr ⟨hend, rfl⟩⟩
    all_goals
      rw [hnext] at h
      cases h

/-- A call that returns nothing passes blanks only. -/
theorem takes_blanks_of_next_none (h : s.next.1 = none) :
    ∃ blanks, (∀ b ∈ blanks, Text.isBlank b = true) ∧ s.cursor.Takes blanks s.next.2.cursor := by
  obtain ⟨-, ⟨-, hcursor⟩ | ⟨-, hcursor⟩⟩ := finished_of_next_none h
  · refine ⟨[], by simp, ?_⟩
    rw [hcursor]
    exact .refl _
  · refine ⟨_, (Run.maximal_takeWhile Text.isBlank s.cursor.rest).1, ?_⟩
    rw [hcursor]
    exact (Cursor.Takes.refl s.cursor).skipBlanks

theorem reaches_next (s : Scanner) : s.cursor.Reaches s.next.2.cursor := by
  have hskip := Cursor.Reaches.skipBlanks s.cursor
  cases hresult : s.next.1 with
  | none =>
    obtain ⟨blanks, -, htakes⟩ := takes_blanks_of_next_none hresult
    exact htakes.reaches
  | some r =>
    cases r with
    | error d =>
      obtain ⟨e, he, -, hstop⟩ := exists_failure_of_next hresult
      rw [hstop]
      exact hskip.trans he.1
    | ok t =>
      obtain ⟨-, c, u, raw, k', hk, hread, -, -, hnext⟩ := exists_of_next_ok hresult
      rw [hnext]
      exact hskip.trans (reaches_of_readToken hk hread)

/-- A token takes the blanks before it and its own text. -/
theorem spans_of_next (h : s.next.1 = some (.ok t)) : t.Spans s.cursor s.next.2.cursor := by
  obtain ⟨-, c, u, raw, k', hk, hread, -, ht, hnext⟩ := exists_of_next_ok h
  have hblanks := Run.maximal_takeWhile Text.isBlank s.cursor.rest
  obtain ⟨text, htext, hoffset⟩ := reaches_of_readToken hk hread
  have hlt := length_rest_lt_of_readToken hk hread
  have hne : text ≠ [] := by
    rintro rfl
    rw [htext] at hlt
    exact Nat.lt_irrefl _ hlt
  have hpos : Text.size text ≠ 0 := fun hzero => hne (Text.size_eq_zero_iff.1 hzero)
  have hoffset' : k'.offset =
      s.cursor.offset + Text.size (s.cursor.rest.takeWhile Text.isBlank) + Text.size text :=
    hoffset
  rw [hnext]
  refine ⟨_, text, hblanks.1, hne, ⟨?_, ?_⟩, ?_, ?_⟩
  · rw [List.append_assoc, ← htext]
    exact (rest_eq_blanks_append s.cursor).symm
  · rw [hoffset', Text.size_append, Nat.add_assoc]
  · rw [ht]
    rfl
  · change _ < k'.offset
    omega

/-- A pipe takes the line to its end. -/
theorem pipes_of_next {command : Text} (h : s.next.1 = some (.ok t))
    (hpipe : t.kind = .pipe command) :
    Cursor.Pipes s.cursor command ∧ s.next.2.cursor.rest = [] := by
  obtain ⟨hcanonical, -, -⟩ := isCanonical_of_next (Prod.ext h rfl)
  obtain ⟨-, c, u, raw, k', hk, hread, hraw, -, hnext⟩ := exists_of_next_ok h
  rw [hpipe] at hcanonical hraw
  have hblanks := Run.maximal_takeWhile Text.isBlank s.cursor.rest
  obtain ⟨d, -, hkind⟩ | ⟨command', rfl, hkind⟩ := RawToken.eq_of_endsLine hraw rfl
  · cases hkind
  · obtain rfl := Token.Kind.pipe.inj hkind
    obtain ⟨rfl, hrest, more, hmore, hu⟩ := pipes_of_readToken hread
    rw [hnext]
    refine ⟨⟨_, more, hblanks.1, hmore, ?_, hcanonical.1, hcanonical.2⟩, hrest⟩
    rw [← hu, ← hk]
    exact (rest_eq_blanks_append s.cursor).symm

theorem exhausted_next (h : s.call.isLast = true) : s.next.2.Exhausted := by
  cases hresult : s.next.1 with
  | none => exact .inl (finished_of_next_none hresult).1
  | some r =>
    cases r with
    | error d =>
      obtain ⟨e, -, -, hstop⟩ := exists_failure_of_next hresult
      rw [hstop]
      exact .inl rfl
    | ok t =>
      obtain ⟨-, -, hends⟩ := isCanonical_of_next (Prod.ext hresult rfl)
      have hlast : t.kind.endsLine = true := by
        rwa [Call.isLast, call, hresult] at h
      exact hends hlast

theorem skipBlanks_of_rest_nil {k : Cursor} (h : k.rest = []) : k.skipBlanks = k := by
  obtain ⟨offset, rest⟩ := k
  obtain rfl := h
  rfl

theorem call_of_exhausted (h : s.Exhausted) : s.call = ⟨none, s.cursor⟩ ∧ s.next.2.Exhausted := by
  have hnext : s.next.1 = none ∧ s.next.2.cursor = s.cursor := by
    cases hf : s.finished with
    | true =>
      rw [next_of_finished hf]
      exact ⟨rfl, rfl⟩
    | false =>
      have hrest : s.cursor.rest = [] := by
        obtain hfinished | hrest := h
        · rw [hf] at hfinished
          cases hfinished
        · exact hrest
      have hskip := skipBlanks_of_rest_nil hrest
      rw [next_of_end hf (by rw [hskip, hrest])]
      exact ⟨rfl, hskip⟩
  have hcall : s.call = ⟨none, s.cursor⟩ := by rw [call, hnext.1, hnext.2]
  exact ⟨hcall, exhausted_next (by rw [hcall]; rfl)⟩

/-- As long as no call has met a terminator or a fault, a scanner stops only at the end. -/
theorem rest_next_of_finished (h : s.finished = true → s.cursor.rest = [])
    (hresult : ∀ r, s.next.1 = some r → ∃ t, r = .ok t ∧ t.kind.isTerminator = false)
    (hfinished : s.next.2.finished = true) : s.next.2.cursor.rest = [] := by
  cases hnext : s.next.1 with
  | none =>
    obtain ⟨-, ⟨hf, hcursor⟩ | ⟨hend, hcursor⟩⟩ := finished_of_next_none hnext
    · rw [hcursor]
      exact h hf
    · rw [hcursor]
      exact hend
  | some r =>
    obtain ⟨t, rfl, hkind⟩ := hresult r hnext
    obtain ⟨-, c, u, raw, k', -, -, -, -, hsnd⟩ := exists_of_next_ok hnext
    rw [hsnd] at hfinished
    cases hfinished.symm.trans hkind

/-! ### Many calls -/

theorem after_after (m n : Nat) (s : Scanner) : (s.after m).after n = s.after (m + n) := by
  induction n with
  | zero => rfl
  | succ n ih => rw [after_succ, ih, ← Nat.add_assoc, after_succ]

theorem reaches_after {m n : Nat} (h : m ≤ n) : (s.after m).cursor.Reaches (s.after n).cursor := by
  induction h with
  | refl => exact .refl _
  | step _ ih =>
    rw [after_succ]
    exact ih.trans (reaches_next _)

theorem call_after_of_exhausted (h : s.Exhausted) (n : Nat) :
    (s.after n).call = ⟨none, s.cursor⟩ := by
  induction n generalizing s with
  | zero => exact (call_of_exhausted h).1
  | succ n ih =>
    obtain ⟨hcall, hnext⟩ := call_of_exhausted h
    have hcursor : s.next.2.cursor = s.cursor := congrArg Call.cursor hcall
    rw [after, ih hnext, hcursor]

theorem rest_after_of_finished {n : Nat} (h : s.finished = true → s.cursor.rest = [])
    (hresult : ∀ m < n, ∀ r, (s.after m).next.1 = some r →
      ∃ t, r = .ok t ∧ t.kind.isTerminator = false) :
    (s.after n).finished = true → (s.after n).cursor.rest = [] := by
  induction n with
  | zero => exact h
  | succ n ih =>
    rw [after_succ]
    apply rest_next_of_finished (ih fun m hm => hresult m (Nat.lt_succ_of_lt hm))
    exact hresult n (Nat.lt_succ_self n)

/-- However often a scanner of a line is called, its cursor stands in the line and never moves back.
What a call returns lies between its two cursors, with blanks before it; a pipe takes the rest of the
line, and a call that returns nothing passes blanks only. Behind a last result every call returns
nothing and leaves the cursor alone. A scanner that ends without a terminator or a fault has read the
whole line. -/
theorem progress (o : Options) (line : Text) (n : Nat) :
    ((ofLine o line).after n).cursor.StandsIn line ∧
    (∀ m ≤ n, ((ofLine o line).after m).cursor.Reaches ((ofLine o line).after n).cursor) ∧
    (∀ t, ((ofLine o line).after n).next.1 = some (.ok t) →
      t.Spans ((ofLine o line).after n).cursor ((ofLine o line).after (n + 1)).cursor ∧
      t.kind.IsCanonical o.terminator ∧
      ∀ command, t.kind = .pipe command →
        Cursor.Pipes ((ofLine o line).after n).cursor command ∧
        ((ofLine o line).after (n + 1)).cursor.offset = Text.size line) ∧
    (((ofLine o line).after n).next.1 = none →
      ∃ blanks, (∀ b ∈ blanks, Text.isBlank b = true) ∧
        ((ofLine o line).after n).cursor.Takes blanks ((ofLine o line).after (n + 1)).cursor) ∧
    (((ofLine o line).after n).call.isLast = true →
      ∀ m, n < m → ((ofLine o line).after m).call =
        ⟨none, ((ofLine o line).after (n + 1)).cursor⟩) ∧
    (((ofLine o line).after n).next.1 = none →
      (∀ m < n, ∀ r, ((ofLine o line).after m).next.1 = some r →
        ∃ t, r = .ok t ∧ t.kind.isTerminator = false) →
      ((ofLine o line).after (n + 1)).cursor.offset = Text.size line) := by
  have hoptions := (standsIn_after o line n).2.2
  have hend (h : ((ofLine o line).after (n + 1)).cursor.rest = []) :
      ((ofLine o line).after (n + 1)).cursor.offset = Text.size line := by
    obtain ⟨front, hline, hoffset⟩ := (standsIn_after o line (n + 1)).1
    rw [h, List.append_nil] at hline
    rw [hoffset, ← hline]
    exact Nat.zero_add _
  refine ⟨(standsIn_after o line n).1, fun m hm => reaches_after hm, ?_, ?_, ?_, ?_⟩
  · intro t ht
    rw [after_succ] at hend ⊢
    have hcanonical := (isCanonical_of_next (Prod.ext ht rfl)).1
    rw [hoptions] at hcanonical
    refine ⟨spans_of_next ht, hcanonical, fun command hcommand => ?_⟩
    obtain ⟨hpipes, hrest⟩ := pipes_of_next ht hcommand
    exact ⟨hpipes, hend hrest⟩
  · intro hnone
    rw [after_succ]
    exact takes_blanks_of_next_none hnone
  · intro hlast m hm
    obtain ⟨l, rfl⟩ := Nat.exists_eq_add_of_lt hm
    have hexhausted : ((ofLine o line).after (n + 1)).Exhausted := by
      rw [after_succ]
      exact exhausted_next hlast
    rw [← call_after_of_exhausted hexhausted l, after_after, Nat.add_right_comm]
  · intro hnone hresult
    have hfinished : ((ofLine o line).after (n + 1)).finished = true := by
      rw [after_succ]
      exact (finished_of_next_none hnone).1
    apply hend
    refine rest_after_of_finished nofun (fun m hm r hr => ?_) hfinished
    obtain hm | rfl := Nat.lt_succ_iff_lt_or_eq.1 hm
    · exact hresult m hm r hr
    · cases hnone.symm.trans hr

end Scanner

end QueryConsole.Command
