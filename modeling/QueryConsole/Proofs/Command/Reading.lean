import QueryConsole.Command.Scanner
import QueryConsole.Proofs.Command.Quoting

/-!
# Reading tokens

What a scanner returns is decided by the reader that the first characters of a token select. This
file says which reader that is and what it makes of its text, and splits a call of the scanner into
the cases of what is read.
-/

namespace QueryConsole.Command

/-! ### Blanks -/

theorem rest_eq_blanks_append (k : Cursor) :
    k.rest.takeWhile Text.isBlank ++ k.skipBlanks.rest = k.rest := List.takeWhile_append_dropWhile

theorem rest_skipBlanks {k : Cursor} (h : ∀ c ∈ k.rest.head?, Text.isBlank c = false) :
    k.skipBlanks.rest = k.rest :=
  Run.dropWhile_of_head? h

/-! ### Tokens -/

/-- A token of the given kind is read from the cursor `k` on, and `rest` is left. -/
def Reads (o : Options) (first : Bool) (k : Cursor) (kind : Token.Kind) (rest : Text) : Prop :=
  ∃ c t raw k', k.rest = c :: t ∧ Text.isBlank c = false ∧
    readToken o first k c t = .ok (raw, k') ∧ k'.rest = rest ∧ raw.resolve o = .ok kind

/-- A token begins at the cursor `k`, and what is read there is `r`. -/
def ReadsRaw (o : Options) (first : Bool) (k : Cursor) (r : Reading RawToken) : Prop :=
  ∃ c t, k.rest = c :: t ∧ Text.isBlank c = false ∧ readToken o first k c t = r

theorem ReadsRaw.reads {o : Options} {first : Bool} {k k' : Cursor} {raw : RawToken}
    {kind : Token.Kind} (h : ReadsRaw o first k (.ok (raw, k'))) (hraw : raw.resolve o = .ok kind) :
    Reads o first k kind k'.rest := by
  obtain ⟨c, t, hk, hblank, hread⟩ := h
  exact ⟨c, t, raw, k', hk, hblank, hread, rfl, hraw⟩

theorem RawToken.resolve_redirect_of_eq {o : Options} {fd : Fd} {w : List Segment} {append : Bool}
    {place : Nat} (h : w.flatMap (Segment.resolve o false) = []) :
    (RawToken.redirect fd w append place).resolve o = .error ⟨.noTarget, place⟩ := by
  simp only [resolve, h]

theorem RawToken.resolve_redirect_of_ne {o : Options} {fd : Fd} {w : List Segment} {append : Bool}
    {place : Nat} (h : w.flatMap (Segment.resolve o false) ≠ []) :
    (RawToken.redirect fd w append place).resolve o =
      .ok (.redirect fd (w.flatMap (Segment.resolve o false)) append) := by
  obtain ⟨c, t, hname⟩ := List.exists_cons_of_ne_nil h
  simp only [resolve, hname]

section Reads

variable {o : Options} {first : Bool} {k : Cursor} {rest : Text}

theorem readWord_of_ne {c : Char} {t : Text} (hk : k.rest = c :: t) (hc : c ≠ '\\') :
    readWord o first k = readSegments o.terminator false k := by
  refine wordForm_iff.1 (.plain (fun _ hhead => ?_) rfl)
  rw [hk] at hhead
  exact hc (Option.some.inj hhead)

/-- A word is read unless the first character begins another token. -/
theorem readToken_word {c : Char} {t : Text} {segs : List Segment} {k' : Cursor}
    (hterminator : o.terminator ≠ some c) (harrow : c ≠ '>') (hpipe : c ≠ '|')
    (hdescriptor : c.isDigit = true → t.head? ≠ some '>')
    (hread : readWord o first k = .ok (segs, k')) (hne : segs ≠ []) :
    readToken o first k c t = .ok (.word segs, k') := by
  have hbegins : BeginsWord o c (k.advance [c] t) :=
    ⟨hterminator, harrow, hpipe, fun hdigit => skipChar?_eq_none_iff.2 (hdescriptor hdigit)⟩
  refine tokenForm_iff.1 (.word hbegins (fun l hnil => ?_) ?_)
  · rw [hread] at hnil
    exact hne (Prod.mk.inj (Except.ok.inj hnil)).1
  · rw [hread]
    rfl

theorem reads_terminator {c : Char} (hc : o.terminator = some c) (hblank : Text.isBlank c = false)
    (hk : k.rest = c :: rest) : Reads o first k (.terminator c) rest := by
  have hread : readToken o first k c rest = .ok (.terminator c, k.advance [c] rest) :=
    tokenForm_iff.1 (.terminator hc rfl)
  exact ⟨c, rest, .terminator c, k.advance [c] rest, hk, hblank, hread, rfl, rfl⟩

/-! ### Redirections -/

theorem digitChar_fd : ∀ fd : Fd,
    isPlain (Nat.digitChar fd) = true ∧ (Nat.digitChar fd).isDigit = true ∧
      Fd.ofNat? ((Nat.digitChar fd).toNat - '0'.toNat) = some fd := by
  decide +kernel

theorem exists_fd_of_isDigit {d : Char} (h : d.isDigit = true) :
    ∃ n : Fd, Fd.ofNat? (d.toNat - '0'.toNat) = some n ∧ Nat.digitChar n = d := by
  simp only [Char.isDigit, ge_iff_le, Bool.and_eq_true, decide_eq_true_eq] at h
  have hlo : 48 ≤ d.toNat := UInt32.le_iff_toNat_le.1 h.1
  have hhi : d.toNat ≤ 57 := UInt32.le_iff_toNat_le.1 h.2
  have hlt : d.toNat - '0'.toNat < 10 := by
    change d.toNat - 48 < 10
    omega
  have hdigits : ∀ n : Fd, Nat.digitChar n = Char.ofNat (48 + n) := by decide
  refine ⟨⟨_, hlt⟩, dif_pos hlt, ?_⟩
  rw [hdigits]
  change Char.ofNat (48 + (d.toNat - 48)) = d
  rw [Nat.add_sub_cancel' hlo, Char.ofNat_toNat]

/-- A descriptor as it is written before an arrow, if one is named. -/
def descriptorText (fd : Option Fd) : Text := (fd.map fun n => digits n).getD []

theorem descriptorText_some (n : Fd) : descriptorText (some n) = [Nat.digitChar n] :=
  Nat.toDigits_of_lt_base n.isLt

/-- The terminator is not the character with which a redirection of this descriptor begins. -/
def Options.AdmitsRedirect (o : Options) (fd : Option Fd) : Prop :=
  ∀ c ∈ (descriptorText fd ++ ['>']).head?, o.terminator ≠ some c

theorem admitsRedirect_of_notMem
    (hterminator : ∀ c ∈ o.terminator, c.isDigit = false ∧ c ≠ '>') (fd : Option Fd) :
    o.AdmitsRedirect fd := by
  intro c hc hterminated
  obtain ⟨hdigit, harrow⟩ := hterminator c hterminated
  cases fd with
  | none => exact harrow (Option.some.inj hc).symm
  | some n =>
    rw [descriptorText_some] at hc
    rw [← Option.some.inj hc, (digitChar_fd n).2.1] at hdigit
    cases hdigit

/-- An arrow begins a redirection, and so does the digit of a descriptor before it. -/
theorem readsRaw_redirect {t : Text} (first : Bool) {fd : Option Fd} (ho : o.AdmitsRedirect fd)
    (hk : k.rest = descriptorText fd ++ '>' :: t) :
    ReadsRaw o first k (readRedirect o.terminator fd (k.offset + Text.size (descriptorText fd))
      (k.advance (descriptorText fd ++ ['>']) t)) := by
  cases fd with
  | none =>
    have hterminator : o.terminator ≠ some '>' := ho '>' rfl
    exact ⟨'>', t, hk, by decide, tokenForm_iff.1 (.redirect hterminator rfl rfl)⟩
  | some n =>
    obtain ⟨hplain, hdigit, hfd⟩ := digitChar_fd n
    rw [descriptorText_some] at hk ⊢
    have hterminator : o.terminator ≠ some (Nat.digitChar n) :=
      ho _ (by rw [descriptorText_some]; rfl)
    generalize Nat.digitChar n = c at hk hterminator hplain hdigit hfd ⊢
    have hskip : skipChar? '>' (k.advance [c] ('>' :: t)) =
        some ((k.advance [c] ('>' :: t)).advance ['>'] t) := skipChar?_of_cons rfl
    refine ⟨c, '>' :: t, hk, isBlank_of_isPlain hplain,
      tokenForm_iff.1 (.descriptor hterminator hdigit hskip ?_)⟩
    rw [hfd, Cursor.advance_advance]
    rfl

theorem isBlank_of_mem_signs {c : Char} (h : c ∈ ['>', '&', '+']) : Text.isBlank c = false := by
  have hcases : c = '>' ∨ c = '&' ∨ c = '+' := by simpa using h
  rcases hcases with rfl | rfl | rfl <;> decide

theorem arrow_eq_cons (append : Bool) : arrow append = '>' :: (arrow append).tail := by
  cases append <;> rfl

section Arrow

variable {terminator : Option Char} {fd : Option Fd} {place : Nat} {t : Text}

theorem endsArrow_of_append (append : Bool) (ht : t.head? ≠ some '>')
    (hk : k.rest = (arrow append).tail ++ t) :
    EndsArrow k append (k.advance (arrow append).tail t) := by
  cases append with
  | false =>
    obtain rfl : k.rest = t := hk
    exact .single (skipChar?_eq_none_iff.2 ht)
  | true => exact .double (skipChar?_of_cons hk)

theorem EndsArrow.rest_eq {append : Bool} {j : Cursor} (h : EndsArrow k append j) :
    k.rest = (arrow append).tail ++ j.rest := by
  cases h with
  | single => rfl
  | double h => exact rest_of_skipChar? h

theorem readRedirect_target (append : Bool) (ht : ∀ c ∈ ['>', '&', '+'], t.head? ≠ some c)
    (hk : k.rest = (arrow append).tail ++ t) :
    readRedirect terminator fd place k =
      readTarget terminator fd append (k.advance (arrow append).tail t) := by
  obtain ⟨harrow, hand, hplus⟩ : t.head? ≠ some '>' ∧ t.head? ≠ some '&' ∧ t.head? ≠ some '+' := by
    simpa using ht
  exact redirectForm_iff.1 (.target (endsArrow_of_append append harrow hk) (skipChar?_eq_none_iff.2 hplus)
    (fun _ => skipChar?_eq_none_iff.2 hand) rfl)

theorem readRedirect_duplicate (hk : k.rest = '&' :: t) :
    readRedirect terminator fd place k = readDuplicate fd (k.advance ['&'] t) := by
  have harrow : skipChar? '>' k = none := skipChar?_eq_none_iff.2 (by simp [hk])
  exact redirectForm_iff.1 (.duplicate harrow (skipChar?_of_cons hk) rfl)

theorem readRedirect_session (append : Bool) (hk : k.rest = (arrow append).tail ++ '+' :: t) :
    readRedirect terminator fd place k =
      readSession fd append place (k.advance ((arrow append).tail ++ ['+']) t) := by
  rw [← Cursor.advance_advance k _ _ ('+' :: t)]
  exact redirectForm_iff.1 (.session (endsArrow_of_append append (by simp) hk)
    (skipChar?_of_cons rfl) rfl)

end Arrow

/-- Output goes to the file whose name is read. -/
theorem readsRaw_file {fd : Option Fd} {blanks t : Text} {segs : List Segment} {k' : Cursor}
    (first append : Bool) (ho : o.AdmitsRedirect fd) (hblanks : ∀ b ∈ blanks, Text.isBlank b = true)
    (ht : ∀ c ∈ t.head?, Text.isBlank c = false)
    (hhead : ∀ c ∈ ['>', '&', '+'], (blanks ++ t).head? ≠ some c)
    (hk : k.rest = descriptorText fd ++ arrow append ++ blanks ++ t)
    (hread : readSegments o.terminator false
      (k.advance (descriptorText fd ++ arrow append ++ blanks) t) = .ok (segs, k')) :
    ReadsRaw o first k (.ok (.redirect (fd.getD Fd.stdout) segs append
      (k.advance (descriptorText fd ++ arrow append ++ blanks) t).offset, k')) := by
  have hk' : k.rest = descriptorText fd ++ '>' :: ((arrow append).tail ++ (blanks ++ t)) := by
    rw [hk, arrow_eq_cons, List.append_assoc, List.append_assoc]
    rfl
  have hraw := readsRaw_redirect first ho hk'
  have hfront : descriptorText fd ++ arrow append ++ blanks =
      descriptorText fd ++ ['>'] ++ (arrow append).tail ++ blanks := by
    cases append <;> simp [arrow]
  have hskip {j : Cursor} (hj : j.rest = blanks ++ t) : j.skipBlanks = j.advance blanks t :=
    skipBlanks_eq_advance hblanks ht hj
  rw [readRedirect_target append hhead rfl, readTarget, hskip rfl, Cursor.advance_advance,
    Cursor.advance_advance, ← List.append_assoc, ← hfront] at hraw
  simpa only [hread, Reading.map] using hraw

/-- A descriptor is made to follow the one whose number is read. -/
theorem readsRaw_duplicate {fd : Option Fd} {blanks ds : Text} (first : Bool)
    (ho : o.AdmitsRedirect fd) (hblanks : ∀ b ∈ blanks, Text.isBlank b = true) (hne : ds ≠ [])
    (hds : Run.Maximal Char.isDigit ds rest)
    (hk : k.rest = descriptorText fd ++ ['>', '&'] ++ blanks ++ ds ++ rest) :
    ReadsRaw o first k ((readNumber .descriptor
      (k.advance (descriptorText fd ++ ['>', '&'] ++ blanks) (ds ++ rest))).map
        (.duplicate (fd.getD Fd.stdout))) := by
  have hk' : k.rest = descriptorText fd ++ '>' :: '&' :: (blanks ++ (ds ++ rest)) := by
    simpa using hk
  have hraw := readsRaw_redirect first ho hk'
  have hfront : descriptorText fd ++ ['>', '&'] ++ blanks =
      descriptorText fd ++ ['>'] ++ (['&'] ++ blanks) := by simp
  rwa [readRedirect_duplicate rfl, readDuplicate_of_maximal hblanks hds hne rfl,
    Cursor.advance_advance, Cursor.advance_advance, ← hfront] at hraw

/-- Output goes to the session whose number is read, if it is not zero. -/
theorem readsRaw_session {append : Bool} {ds : Text} (first : Bool) (ho : o.AdmitsRedirect none)
    (hds : Run.Maximal Char.isDigit ds rest) (hk : k.rest = arrow append ++ '+' :: ds ++ rest) :
    ReadsRaw o first k ((readNumber .session
      (k.advance (arrow append ++ ['+']) (ds ++ rest))).map
        fun n => .session (if n = 0 then none else some n) append) := by
  have hk' : k.rest =
      descriptorText none ++ '>' :: ((arrow append).tail ++ '+' :: (ds ++ rest)) := by
    rw [hk, arrow_eq_cons, List.append_assoc]
    rfl
  have hraw := readsRaw_redirect first ho hk'
  rw [readRedirect_session append rfl, readSession_of_maximal append _ hds rfl,
    Cursor.advance_advance] at hraw
  rwa [arrow_eq_cons]

/-- A token that ends with a number is read if the number is not too large. -/
theorem ReadsRaw.reads_number {what : Numbered} {front ds : Text} {raw : UInt32 → RawToken}
    {kind : Token.Kind} (hds : Run.Maximal Char.isDigit ds rest)
    (h : ReadsRaw o first k ((readNumber what (k.advance front (ds ++ rest))).map raw))
    (hsize : ofDigits ds < UInt32.size)
    (hraw : (raw (.ofNat (ofDigits ds))).resolve o = .ok kind) : Reads o first k kind rest := by
  rw [readNumber_of_maximal what hds rfl, if_pos hsize] at h
  exact h.reads hraw

end Reads

/-! ### Scanners -/

namespace Scanner

theorem run_of_none {s s' : Scanner} (h : s.next = (none, s')) : s.run = ⟨[], none, s'⟩ := by
  rw [run]
  split <;> simp_all

theorem run_of_ok {s s' : Scanner} {t : Token} (h : s.next = (some (.ok t), s')) :
    s.run = ⟨t :: s'.run.tokens, s'.run.fault, s'.run.scanner⟩ := by
  rw [run]
  split <;> simp_all

theorem next_of_finished {s : Scanner} (h : s.finished = true) : s.next = (none, s) := by
  simp [next, h]

section Next

variable {s : Scanner} {c : Char} {t : Text} {k' : Cursor}

theorem next_of_end (hf : s.finished = false) (hk : s.cursor.skipBlanks.rest = []) :
    s.next = (none, s.stopAt s.cursor.skipBlanks) := by
  rw [next, hf]
  simp only [hk]
  rfl

theorem next_of_error {e : Failure} (hf : s.finished = false)
    (hk : s.cursor.skipBlanks.rest = c :: t)
    (h : readToken s.options (!s.started) s.cursor.skipBlanks c t = .error e) :
    s.next = (some (.error (e.fault.diagnose s.line)), s.stopAt e.cursor) := by
  rw [next, hf]
  simp only [hk, h]
  rfl

theorem next_of_resolve_error {raw : RawToken} {f : Fault} (hf : s.finished = false)
    (hk : s.cursor.skipBlanks.rest = c :: t)
    (h : readToken s.options (!s.started) s.cursor.skipBlanks c t = .ok (raw, k'))
    (hraw : raw.resolve s.options = .error f) :
    s.next = (some (.error (f.diagnose s.line)), s.stopAt k') := by
  rw [next, hf]
  simp only [hk, h, hraw]
  rfl

theorem next_of_resolve_ok {raw : RawToken} {kind : Token.Kind} (hf : s.finished = false)
    (hk : s.cursor.skipBlanks.rest = c :: t)
    (h : readToken s.options (!s.started) s.cursor.skipBlanks c t = .ok (raw, k'))
    (hraw : raw.resolve s.options = .ok kind) :
    s.next = (some (.ok ⟨kind, some s.cursor.skipBlanks.offset, s.line⟩),
      { s with cursor := k', started := true, finished := kind.isTerminator }) := by
  rw [next, hf]
  simp only [hk, h, hraw]
  rfl

/-- All that the next step of a scanner can be. -/
theorem next_cases (hf : s.finished = false) :
    (s.cursor.skipBlanks.rest = [] ∧ s.next = (none, s.stopAt s.cursor.skipBlanks)) ∨
    ∃ c t, s.cursor.skipBlanks.rest = c :: t ∧
      ((∃ e, readToken s.options (!s.started) s.cursor.skipBlanks c t = .error e ∧
          s.next = (some (.error (e.fault.diagnose s.line)), s.stopAt e.cursor)) ∨
        ∃ raw k', readToken s.options (!s.started) s.cursor.skipBlanks c t = .ok (raw, k') ∧
          ((∃ f, raw.resolve s.options = .error f ∧
              s.next = (some (.error (f.diagnose s.line)), s.stopAt k')) ∨
            ∃ kind, raw.resolve s.options = .ok kind ∧
              s.next = (some (.ok ⟨kind, some s.cursor.skipBlanks.offset, s.line⟩),
                { s with cursor := k', started := true, finished := kind.isTerminator }))) := by
  cases hk : s.cursor.skipBlanks.rest with
  | nil => exact .inl ⟨rfl, next_of_end hf hk⟩
  | cons c t =>
    refine .inr ⟨c, t, rfl, ?_⟩
    cases hread : readToken s.options (!s.started) s.cursor.skipBlanks c t with
    | error e => exact .inl ⟨e, rfl, next_of_error hf hk hread⟩
    | ok r =>
      obtain ⟨raw, k'⟩ := r
      refine .inr ⟨raw, k', rfl, ?_⟩
      cases hraw : raw.resolve s.options with
      | error f => exact .inl ⟨f, rfl, next_of_resolve_error hf hk hread hraw⟩
      | ok kind => exact .inr ⟨kind, rfl, next_of_resolve_ok hf hk hread hraw⟩

/-- A token is what is read and resolved behind the blanks at the cursor. -/
theorem exists_of_next_ok {tok : Token} (h : s.next.1 = some (.ok tok)) :
    s.finished = false ∧ ∃ c t raw k', s.cursor.skipBlanks.rest = c :: t ∧
      readToken s.options (!s.started) s.cursor.skipBlanks c t = .ok (raw, k') ∧
      raw.resolve s.options = .ok tok.kind ∧
      tok = ⟨tok.kind, some s.cursor.skipBlanks.offset, s.line⟩ ∧
      s.next.2 = { s with cursor := k', started := true, finished := tok.kind.isTerminator } := by
  cases hf : s.finished with
  | true =>
    rw [next_of_finished hf] at h
    cases h
  | false =>
    obtain ⟨-, hnext⟩ | ⟨c, t, hk, ⟨e, -, hnext⟩ | ⟨raw, k', hread, ⟨f, -, hnext⟩ |
      ⟨kind, hraw, hnext⟩⟩⟩ := next_cases hf
    all_goals rw [hnext] at h ⊢
    · cases h
    · cases h
    · cases h
    · obtain rfl := Except.ok.inj (Option.some.inj h)
      exact ⟨rfl, c, t, raw, k', hk, hread, hraw, rfl, rfl⟩

end Next

theorem next_of_blank {s : Scanner} (hf : s.finished = false)
    (h : ∀ c ∈ s.cursor.rest, Text.isBlank c = true) :
    s.next = (none, s.stopAt s.cursor.skipBlanks) :=
  next_of_end hf (List.dropWhile_eq_nil_iff.2 h)

/-- Nothing is read once the scanner has stopped or only blanks are left. -/
theorem exists_next_eq_none {s : Scanner}
    (h : s.finished = true ∨ ∀ c ∈ s.cursor.rest, Text.isBlank c = true) :
    ∃ s', s.next = (none, s') := by
  cases hfinished : s.finished with
  | true => exact ⟨_, next_of_finished hfinished⟩
  | false =>
    rw [hfinished] at h
    exact ⟨_, next_of_blank hfinished (h.resolve_left Bool.false_ne_true)⟩

theorem next_of_reads {s : Scanner} {kind : Token.Kind} {rest : Text} (hf : s.finished = false)
    (h : Reads s.options (!s.started) s.cursor.skipBlanks kind rest) :
    ∃ t s', s.next = (some (.ok t), s') ∧ t.kind = kind ∧ s'.cursor.rest = rest ∧
      s'.options = s.options ∧ s'.finished = kind.isTerminator ∧ s'.started = true := by
  obtain ⟨c, t, raw, k', hk, -, hread, hrest, hraw⟩ := h
  exact ⟨_, _, next_of_resolve_ok hf hk hread hraw, rfl, hrest, rfl, rfl, rfl⟩

theorem run_of_reads {o : Options} {line rest : Text} {kind : Token.Kind}
    (hline : ∀ c ∈ line.head?, Text.isBlank c = false)
    (h : ∀ k : Cursor, k.rest = line → Reads o true k kind rest) :
    ∃ (t : Token) (s : Scanner),
      (ofLine o line).run = ⟨t :: s.run.tokens, s.run.fault, s.run.scanner⟩ ∧
        t.kind = kind ∧ s.cursor.rest = rest ∧ s.finished = kind.isTerminator := by
  have hskip : (ofLine o line).cursor.skipBlanks.rest = line := rest_skipBlanks hline
  obtain ⟨t, s, hnext, hkind, hrest, -, hfinished, -⟩ :=
    next_of_reads (s := ofLine o line) rfl (h _ hskip)
  exact ⟨t, s, run_of_ok hnext, hkind, hrest, hfinished⟩

end Scanner

/-- A line that is read as one token has no other. -/
theorem tokenize_of_reads {o : Options} {line : Text} {kind : Token.Kind}
    (hline : ∀ c ∈ line.head?, Text.isBlank c = false)
    (h : ∀ k : Cursor, k.rest = line → Reads o true k kind []) :
    (tokenize o line).map (·.map Token.kind) = .ok [kind] := by
  obtain ⟨t, s, hrun, hkind, hrest, -⟩ := Scanner.run_of_reads hline h
  obtain ⟨s', hnext⟩ := Scanner.exists_next_eq_none (s := s) (.inr (by simp [hrest]))
  rw [tokenize, hrun, Scanner.run_of_none hnext, ← hkind]
  rfl

end QueryConsole.Command
