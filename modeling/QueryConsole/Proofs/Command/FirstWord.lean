import QueryConsole.Proofs.Command.Redirections

/-!
# The first word of a line

Where initial escapes are kept, a backslash at the front of a line stays in the word that it
begins. What counts is that the word is the first token: behind a redirection the backslash is lost,
though the word is still the first one.
-/

namespace QueryConsole.Command

/-- A redirection in a line, with the blanks that separate it from what follows. -/
structure Redirection (o : Options) where
  kind : Token.Kind
  text : Text
  gap : Text
  isRedirection : IsRedirection o kind text
  gap_ne_nil : gap ≠ []
  isBlank_of_mem_gap : ∀ b ∈ gap, Text.isBlank b = true

/-- What stands in the line. -/
def Redirection.written {o : Options} (r : Redirection o) : Text := r.text ++ r.gap

/-- The first word among tokens. -/
def firstWord? (ts : List Token) : Option Text := (ts.map Token.kind).findSome? Token.Kind.word?

/-! ### Words behind a backslash -/

section Escaped

variable {o : Options} {first : Bool} {k : Cursor} {run rest : Text}

theorem isPlain_of_isIdentifierChar {c : Char} (h : Text.isIdentifierChar c = true) :
    isPlain c = true := by
  rcases Bool.or_eq_true_iff.1 h with h | h
  · exact Bool.or_eq_true_iff.2 (.inl h)
  · rw [eq_of_beq h]
    decide +kernel

theorem readWord_of_cons {t : Text} (hk : k.rest = '\\' :: t) :
    readWord o first k = if first && o.keepInitialEscape
      then (readSegments o.terminator false (k.advance ['\\'] t)).map (.literal '\\' :: ·)
      else readSegments o.terminator false k := by
  simp only [readWord, hk]

/-- Plain characters are read to their end, even if there are none. -/
theorem exists_readSegments_plain {terminator : Option Char} (inRun : Bool)
    (hplain : ∀ c ∈ run, isPlain c = true) (hterminator : ∀ c ∈ terminator, c ∉ run)
    (hrest : AtWordEnd terminator rest) (hk : k.rest = run ++ rest) :
    ∃ segs k', readSegments terminator inRun k = .ok (segs, k') ∧ k'.rest = rest ∧
      ∀ o keep, segs.flatMap (Segment.resolve o keep) = run := by
  by_cases hne : run = []
  · subst hne
    obtain rfl : k.rest = rest := hk
    exact ⟨[], k, readSegments_of_atWordEnd hrest, rfl, fun _ _ => rfl⟩
  · obtain ⟨segs, k', hread, hk', -, hresolve⟩ := (IsWritten.plain hne hplain).readSegments inRun hk
      (fun c hc _ => hterminator c hc) hrest
    exact ⟨segs, k', hread, hk', hresolve⟩

/-- The characters behind a backslash are read as one word. The backslash belongs to it if the word
is the first token and initial escapes are kept. -/
theorem reads_escaped (hne : run ≠ []) (hrun : ∀ c ∈ run, Text.isIdentifierChar c = true)
    (hterminator : ∀ c ∈ o.terminator, c ∉ '\\' :: run) (hrest : AtGap rest)
    (hk : k.rest = '\\' :: run ++ rest) :
    Reads o first k (.word (if first && o.keepInitialEscape then '\\' :: run else run)) rest := by
  have hplain : ∀ c ∈ run, isPlain c = true := fun c hc => isPlain_of_isIdentifierChar (hrun c hc)
  have hslash : o.terminator ≠ some '\\' := fun h => hterminator _ h List.mem_cons_self
  have hspared : ∀ c ∈ o.terminator, c ∉ run :=
    fun c hc => List.not_mem_of_not_mem_cons (hterminator c hc)
  have hend := hrest.atWordEnd o.terminator
  have hword : ∃ segs k', readWord o first k = .ok (segs, k') ∧ k'.rest = rest ∧ segs ≠ [] ∧
      ∀ keep, segs.flatMap (Segment.resolve o keep) =
        if first && o.keepInitialEscape then '\\' :: run else run := by
    rw [readWord_of_cons hk]
    split
    · obtain ⟨segs, k', hread, hk', hresolve⟩ := exists_readSegments_plain false hplain hspared hend
        (Cursor.rest_advance k ['\\'] (run ++ rest))
      refine ⟨.literal '\\' :: segs, k', ?_, hk', List.cons_ne_nil _ _, fun keep => ?_⟩
      · exact Reading.map_eq_ok_iff.2 ⟨segs, hread, rfl⟩
      · rw [List.flatMap_cons, hresolve]
        rfl
    · obtain ⟨c, t, rfl⟩ := List.exists_cons_of_ne_nil hne
      obtain ⟨segs, k', hread, hk', hresolve⟩ := exists_readSegments_plain true
        (fun d hd => hplain d (List.mem_cons_of_mem c hd))
        (fun d hd => List.not_mem_of_not_mem_cons (hspared d hd)) hend
        (Cursor.rest_advance k ['\\', c] (t ++ rest))
      refine ⟨.literal c :: segs, k', ?_, hk', List.cons_ne_nil _ _, fun keep => ?_⟩
      · rw [readSegments_escape hk (.inr hslash)]
        exact Reading.map_eq_ok_iff.2 ⟨segs, hread, rfl⟩
      · rw [List.flatMap_cons, hresolve]
        rfl
  obtain ⟨segs, k', hread, rfl, hsegs, hresolve⟩ := hword
  refine ⟨'\\', run ++ k'.rest, .word segs, k', hk, by decide, ?_, rfl, ?_⟩
  · exact readToken_word hslash (by decide) (by decide) nofun hread hsegs
  · rw [RawToken.resolve, hresolve]

end Escaped

/-! ### The first word -/

section FirstWord

variable {o : Options} {back run rest : Text}

theorem head?_flatMap_written (rs : List (Redirection o))
    (hback : ∀ c ∈ back.head?, Text.isBlank c = false) :
    ∀ c ∈ (rs.flatMap Redirection.written ++ back).head?, Text.isBlank c = false := by
  cases rs with
  | nil => exact hback
  | cons r rs =>
    obtain ⟨c, t, htext, hblank⟩ := r.isRedirection.exists_cons
    intro d hd
    rw [List.flatMap_cons, Redirection.written, htext] at hd
    rwa [← Option.some.inj hd]

/-- Redirections at the front are read one after the other. -/
theorem Scanner.exists_run_of_redirections (rs : List (Redirection o)) {s : Scanner}
    (ho : s.options = o) (hf : s.finished = false)
    (hback : ∀ c ∈ back.head?, Text.isBlank c = false)
    (hs : s.cursor.skipBlanks.rest = rs.flatMap Redirection.written ++ back) :
    ∃ s' : Scanner, s'.options = o ∧ s'.finished = false ∧
      s'.started = (s.started || !rs.isEmpty) ∧ s'.cursor.skipBlanks.rest = back ∧
      s.run.tokens.map Token.kind =
        rs.map Redirection.kind ++ s'.run.tokens.map Token.kind := by
  induction rs generalizing s with
  | nil => exact ⟨s, ho, hf, by simp, hs, rfl⟩
  | cons r rs ih =>
    obtain rfl := ho
    have hgap : AtGap (r.gap ++ (rs.flatMap Redirection.written ++ back)) := by
      obtain ⟨b, t, hbt⟩ := List.exists_cons_of_ne_nil r.gap_ne_nil
      have hblank : Text.isBlank b = true :=
        r.isBlank_of_mem_gap b (hbt ▸ List.mem_cons_self)
      intro c hc
      rw [hbt] at hc
      rwa [← Option.some.inj hc]
    have hs : s.cursor.skipBlanks.rest =
        r.text ++ (r.gap ++ (rs.flatMap Redirection.written ++ back)) := by
      rw [hs, List.flatMap_cons, Redirection.written, List.append_assoc, List.append_assoc]
    obtain ⟨t, s', hnext, hkind, hrest, hoptions, hfinished, hstarted⟩ :=
      next_of_reads hf (r.isRedirection.reads (!s.started) hgap hs)
    have hskip : s'.cursor.skipBlanks.rest = rs.flatMap Redirection.written ++ back := by
      rw [skipBlanks_eq_advance r.isBlank_of_mem_gap (head?_flatMap_written rs hback) hrest]
      rfl
    obtain ⟨s'', ho'', hf'', hstarted'', hrest'', htokens⟩ := ih hoptions
      (hfinished.trans r.isRedirection.isTerminator_eq) hskip
    refine ⟨s'', ho'', hf'', by simp [hstarted'', hstarted], hrest'', ?_⟩
    rw [run_of_ok hnext, List.map_cons, List.map_cons, htokens, hkind, List.cons_append]

/-- A line that begins with redirections has its first word behind them. -/
theorem exists_firstWord?_of_redirections (rs : List (Redirection o))
    (hback : ∀ c ∈ back.head?, Text.isBlank c = false) :
    ∃ s : Scanner, s.options = o ∧ s.finished = false ∧ s.started = !rs.isEmpty ∧
      s.cursor.skipBlanks.rest = back ∧
      firstWord? (Scanner.ofLine o (rs.flatMap Redirection.written ++ back)).run.tokens =
        firstWord? s.run.tokens := by
  have hline : (Scanner.ofLine o (rs.flatMap Redirection.written ++ back)).cursor.skipBlanks.rest =
      rs.flatMap Redirection.written ++ back := rest_skipBlanks (head?_flatMap_written rs hback)
  obtain ⟨s, ho, hf, hstarted, hrest, htokens⟩ :=
    Scanner.exists_run_of_redirections rs rfl rfl hback hline
  have hnone : (rs.map Redirection.kind).findSome? Token.Kind.word? = none := by
    rw [List.findSome?_eq_none_iff, List.forall_mem_map]
    intro r _
    exact r.isRedirection.word?_eq
  refine ⟨s, ho, hf, hstarted, hrest, ?_⟩
  rw [firstWord?, htokens, List.findSome?_append, hnone, Option.none_or]
  rfl

theorem Scanner.firstWord?_of_reads_word {s : Scanner} {w : Text} (hf : s.finished = false)
    (h : Reads s.options (!s.started) s.cursor.skipBlanks (.word w) rest) :
    firstWord? s.run.tokens = some w := by
  obtain ⟨t, s', hnext, hkind, -⟩ := next_of_reads hf h
  rw [run_of_ok hnext, firstWord?, List.map_cons, hkind]
  rfl

theorem Scanner.firstWord?_of_reads_terminator {s : Scanner} {c : Char} (hf : s.finished = false)
    (h : Reads s.options (!s.started) s.cursor.skipBlanks (.terminator c) rest) :
    firstWord? s.run.tokens = none := by
  obtain ⟨t, s', hnext, hkind, -, -, hfinished, -⟩ := next_of_reads hf h
  have hstop : s'.next = (none, s') := next_of_finished hfinished
  rw [run_of_ok hnext, run_of_none hstop, firstWord?, List.map_singleton, hkind]
  rfl

/-- A word that begins with a backslash, with nothing but redirections before it, is the first word
of its line, whatever follows. It keeps the backslash if initial escapes are kept and there is no
redirection. A backslash that is the terminator begins no word. -/
theorem firstWord?_of_escaped (rs : List (Redirection o)) (hne : run ≠ [])
    (hrun : ∀ c ∈ run, Text.isIdentifierChar c = true) (hterminator : ∀ c ∈ o.terminator, c ∉ run)
    (hrest : AtGap rest) :
    firstWord? (Scanner.ofLine o
        (rs.flatMap Redirection.written ++ '\\' :: run ++ rest)).run.tokens =
      if o.terminator = some '\\' then none
      else some (if o.keepInitialEscape && rs.isEmpty then '\\' :: run else run) := by
  have hslash : ∀ c ∈ ('\\' :: run ++ rest).head?, Text.isBlank c = false := by
    intro c hc
    obtain rfl := Option.some.inj hc
    decide
  obtain ⟨s, rfl, hf, hstarted, hs, hword⟩ := exists_firstWord?_of_redirections rs hslash
  rw [List.append_assoc, hword]
  split
  · next hc => exact s.firstWord?_of_reads_terminator hf (reads_terminator hc (by decide) hs)
  · next hc =>
    have hspared : ∀ c ∈ s.options.terminator, c ∉ '\\' :: run := by
      intro c hterminated
      rw [List.mem_cons, not_or]
      refine ⟨?_, hterminator c hterminated⟩
      rintro rfl
      exact hc hterminated
    rw [s.firstWord?_of_reads_word hf (reads_escaped hne hrun hspared hrest hs), hstarted,
      Bool.not_not, Bool.and_comm]

theorem firstWord?_of_escaped_behind_descriptor :
    ∃ (o : Options) (rs : List (Redirection o)) (run rest : Text), o.keepInitialEscape = true ∧
      rs.flatMap Redirection.written ++ '\\' :: run ++ rest = "2>&1 \\echo a".toList ∧ run ≠ [] ∧
      (∀ c ∈ run, Text.isIdentifierChar c = true) ∧ (∀ c ∈ o.terminator, c ∉ run) ∧ AtGap rest ∧
      firstWord? (Scanner.ofLine o
          (rs.flatMap Redirection.written ++ '\\' :: run ++ rest)).run.tokens =
        if o.terminator = some '\\' then none
        else some (if o.keepInitialEscape && rs.isEmpty then '\\' :: run else run) := by
  let o : Options := { terminator := some ';' }
  have hadmits : o.AdmitsRedirect (some 2) := by
    apply admitsRedirect_of_notMem
    rintro c ⟨⟩
    decide
  have hdigits : ∀ d ∈ ['1'], d.isDigit = true := List.forall_mem_singleton.2 (by decide)
  let r : Redirection o :=
    { kind := .duplicate 2 1
      text := "2>&1".toList
      gap := [' ']
      isRedirection := @IsRedirection.descriptor o (some 2) [] ['1'] 1 hadmits nofun (by decide)
        hdigits (by decide)
      gap_ne_nil := by decide
      isBlank_of_mem_gap := List.forall_mem_singleton.2 (by decide) }
  have hrun : ∀ c ∈ "echo".toList, Text.isIdentifierChar c = true :=
    List.all_eq_true.1 (by decide +kernel)
  have hterminator : ∀ c ∈ o.terminator, c ∉ "echo".toList := by
    rintro c ⟨⟩
    decide
  have hrest : AtGap " a".toList := by
    intro c hc
    obtain rfl := Option.some.inj hc
    decide
  exact ⟨o, [r], "echo".toList, " a".toList, rfl, rfl, by decide, hrun, hterminator, hrest,
    firstWord?_of_escaped [r] (by decide) hrun hterminator hrest⟩

/-- Behind a redirection the first word loses its backslash though initial escapes are kept. -/
theorem not_forall_firstWord?_escaped :
    ¬∀ (o : Options) (rs : List (Redirection o)) (run rest : Text) (ts : List Token), run ≠ [] →
      (∀ c ∈ run, Text.isIdentifierChar c = true) → (∀ c ∈ o.terminator, c ∉ '\\' :: run) →
      AtGap rest →
      tokenize o (rs.flatMap Redirection.written ++ '\\' :: run ++ rest) = .ok ts →
      firstWord? ts = some (if o.keepInitialEscape then '\\' :: run else run) := by
  intro h
  have hadmits : ({} : Options).AdmitsRedirect none := by
    apply admitsRedirect_of_notMem
    rintro c ⟨⟩
  let r : Redirection {} :=
    { kind := .redirect Fd.stdout ['f'] false
      text := ">f".toList
      gap := [' ']
      isRedirection := @IsRedirection.file {} none [] ['f'] [.run ['f']] ⟨1, []⟩ false hadmits
        nofun (by decide) (by decide +kernel) rfl (by decide)
      gap_ne_nil := by decide
      isBlank_of_mem_gap := List.forall_mem_singleton.2 (by decide) }
  have hrun : ∀ c ∈ "echo".toList, Text.isIdentifierChar c = true :=
    List.all_eq_true.1 (by decide +kernel)
  let line : Text := ">f \\echo".toList
  have hline : tokenize {} line = .ok [⟨.redirect Fd.stdout ['f'] false, some 0, line⟩,
      ⟨.word "echo".toList, some 3, line⟩] := by
    decide +kernel
  have hkept := h {} [r] "echo".toList [] _ (by decide) hrun nofun nofun hline
  exact absurd hkept (by decide)

end FirstWord

end QueryConsole.Command
