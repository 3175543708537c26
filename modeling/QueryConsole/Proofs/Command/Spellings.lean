import QueryConsole.Proofs.Command.RoundTrip
import Mathlib.Data.List.Chain

/-!
# Words in several spellings

A text can be written between single quotes, between double quotes or behind backslashes. All three
are read as the same text, and what is written without a gap is read as one word. The spellings
may follow one another in any order. Only two quotations with the same mark cannot touch, since the
marks between them would be a doubled mark.
-/

namespace QueryConsole.Command

/-- A way to write a text. -/
inductive Spelling where
  /-- Between marks, each such mark in the text doubled. -/
  | quoted (q : Quote) (t : Text)
  /-- Each character behind a backslash. The text is not empty. -/
  | escaped (c : Char) (t : Text)
deriving DecidableEq, Repr

namespace Spelling

/-- The text that is meant. -/
def text : Spelling → Text
  | quoted _ t => t
  | escaped c t => c :: t

/-- What stands in the line. -/
def written : Spelling → Text
  | quoted q t => q.mark :: Extent.double q.mark t ++ [q.mark]
  | escaped c t => (c :: t).flatMap fun d => ['\\', d]

/-- The character with which a spelling begins. -/
def opening : Spelling → Char
  | quoted q _ => q.mark
  | escaped _ _ => '\\'

def quote? : Spelling → Option Quote
  | quoted q _ => some q
  | escaped _ _ => none

/-- The two are not quotations with the same mark. -/
def CanTouch (s s' : Spelling) : Prop := ∀ q, s.quote? = some q → s'.quote? ≠ some q

instance : DecidableRel CanTouch := fun s s' =>
  decidable_of_iff (∀ q ∈ s.quote?, s'.quote? ≠ some q) Iff.rfl

theorem exists_written (s : Spelling) : ∃ t, s.written = s.opening :: t := by
  cases s with
  | quoted q t => exact ⟨_, rfl⟩
  | escaped c t => exact ⟨_, rfl⟩

theorem opening_mem (s : Spelling) : s.opening ∈ ['\'', '"', '\\'] := by
  cases s with
  | quoted q t => cases q <;> simp [opening, Quote.mark]
  | escaped c t => simp [opening]

theorem opening_ne_mark {s : Spelling} {q : Quote} (h : s.quote? ≠ some q) :
    s.opening ≠ q.mark := by
  cases s with
  | quoted r t =>
    intro hmark
    have hr : some r = some q :=
      (Quote.ofMark?_eq_some_iff.2 rfl).symm.trans (Quote.ofMark?_eq_some_iff.2 hmark)
    exact h hr
  | escaped c t => cases q <;> simp [opening, Quote.mark]

end Spelling

section Reading

variable {terminator : Option Char} {k : Cursor} {rest : Text}

theorem Reading.map_map {α β γ : Type} (g : β → γ) (f : α → β) (r : Reading α) :
    (r.map f).map g = r.map (g ∘ f) := by
  cases r <;> rfl

/-- Reading goes on behind a spelling, with segments that resolve to its text. -/
def ReadsSpelling (terminator : Option Char) (inRun : Bool) (k : Cursor) (text rest : Text) :
    Prop :=
  ∃ segs k' inRun', segs ≠ [] ∧ k'.rest = rest ∧
    readSegments terminator inRun k = (readSegments terminator inRun' k').map (segs ++ ·) ∧
    ∀ o : Options, o.lookup = none → segs.flatMap (Segment.resolve o false) = text

theorem readsSpelling_escaped {c : Char} {t : Text} (inRun : Bool) (hslash : terminator ≠ some '\\')
    (hk : k.rest = (Spelling.escaped c t).written ++ rest) :
    ReadsSpelling terminator inRun k (c :: t) rest := by
  induction t generalizing inRun k c with
  | nil =>
    have hread : readSegments terminator inRun k =
        (readSegments terminator true (k.advance ['\\', c] rest)).map (.literal c :: ·) :=
      readSegments_escape hk (.inr hslash)
    exact ⟨[.literal c], _, true, List.cons_ne_nil _ _, rfl, hread, fun _ _ => rfl⟩
  | cons d t ih =>
    let behind := k.advance ['\\', c] ((Spelling.escaped d t).written ++ rest)
    have hread : readSegments terminator inRun k =
        (readSegments terminator true behind).map (.literal c :: ·) :=
      readSegments_escape hk (.inr hslash)
    obtain ⟨segs, k', inRun', -, hk', hrest, htext⟩ := ih true (k := behind) rfl
    refine ⟨.literal c :: segs, k', inRun', List.cons_ne_nil _ _, hk', ?_, fun o ho => ?_⟩
    · rw [hread, hrest, Reading.map_map]
      rfl
    · rw [List.flatMap_cons, htext o ho]
      rfl

theorem readsSpelling_quoted {q : Quote} {t : Text} (inRun : Bool)
    (hrest : rest.head? ≠ some q.mark)
    (hk : k.rest = (Spelling.quoted q t).written ++ rest) :
    ReadsSpelling terminator inRun k t rest := by
  have hextent := Extent.toSingle_double_append t hrest
  have hquoted : k.rest = q.mark :: (Extent.double q.mark t ++ q.mark :: rest) := by
    simpa [Spelling.written] using hk
  have hread : readSegments terminator inRun k = _ :=
    readSegments_quotation hquoted (by rw [hextent])
  simp only [hextent, List.dropLast_concat, Extent.undouble_double] at hread
  refine ⟨[.quoted q t], _, false, List.cons_ne_nil _ _, rfl, hread, fun o ho => ?_⟩
  cases q <;> simp [Segment.resolve, Options.expand, ho]

/-- A spelling is read to its end, if the closing mark of a quotation is not doubled behind it. -/
theorem readsSpelling_written {s : Spelling} (inRun : Bool) (hslash : terminator ≠ some '\\')
    (hrest : ∀ q, s.quote? = some q → rest.head? ≠ some q.mark)
    (hk : k.rest = s.written ++ rest) : ReadsSpelling terminator inRun k s.text rest := by
  cases s with
  | quoted q t => exact readsSpelling_quoted inRun (hrest q rfl) hk
  | escaped c t => exact readsSpelling_escaped inRun hslash hk

/-- Spellings that touch are read to the end of the last one. -/
theorem readSegments_spellings {ss : List Spelling} (inRun : Bool) (hslash : terminator ≠ some '\\')
    (htouch : ss.IsChain Spelling.CanTouch) (hk : k.rest = ss.flatMap Spelling.written) :
    ∃ segs k', readSegments terminator inRun k = .ok (segs, k') ∧ k'.rest = [] ∧
      (ss ≠ [] → segs ≠ []) ∧ ∀ o : Options, o.lookup = none →
        segs.flatMap (Segment.resolve o false) = ss.flatMap Spelling.text := by
  induction ss generalizing inRun k with
  | nil => exact ⟨[], k, readSegments_of_nil hk, hk, fun h => absurd rfl h, fun _ _ => rfl⟩
  | cons s ss ih =>
    rw [List.flatMap_cons] at hk
    have hnext : ∀ q, s.quote? = some q → (ss.flatMap Spelling.written).head? ≠ some q.mark := by
      intro q hq
      cases ss with
      | nil => simp
      | cons s' ss =>
        obtain ⟨u, hu⟩ := s'.exists_written
        have hne := Spelling.opening_ne_mark ((List.isChain_cons_cons.1 htouch).1 q hq)
        simpa [hu] using hne
    have htail : ss.IsChain Spelling.CanTouch := by
      cases htouch with
      | singleton => exact .nil
      | cons_cons _ htail => exact htail
    obtain ⟨segs, k', inRun', hne, hk', hread, htext⟩ :=
      readsSpelling_written inRun hslash hnext hk
    obtain ⟨more, l, hmore, hl, -, htexts⟩ := ih inRun' htail hk'
    refine ⟨segs ++ more, l, ?_, hl, fun _ => by simp [hne], fun o ho => ?_⟩
    · rw [hread, hmore]
      rfl
    · rw [List.flatMap_append, htext o ho, htexts o ho, List.flatMap_cons]

end Reading

/-- Texts that are written one after another, each between single quotes, between double quotes or
behind backslashes, are read as the one word that they make up. -/
theorem tokenize_spellings (o : Options) {ss : List Spelling}
    (hterminator : ∀ c ∈ o.terminator, c ∉ ['\'', '"', '\\']) (hlookup : o.lookup = none)
    (hquotes : o.keepDoubleQuotes = false) (hescape : o.keepInitialEscape = false) (hne : ss ≠ [])
    (htouch : ss.IsChain Spelling.CanTouch) :
    (tokenize o (ss.flatMap Spelling.written)).map (·.map Token.kind) =
      .ok [.word (ss.flatMap Spelling.text)] := by
  have hslash : o.terminator ≠ some '\\' := by
    intro h
    exact hterminator '\\' h (by simp)
  obtain ⟨s, ss, rfl⟩ := List.exists_cons_of_ne_nil hne
  obtain ⟨t, ht⟩ := s.exists_written
  have hfront : (s :: ss).flatMap Spelling.written =
      s.opening :: (t ++ ss.flatMap Spelling.written) := by
    rw [List.flatMap_cons, ht, List.cons_append]
  have hmem := s.opening_mem
  have hopening : o.terminator ≠ some s.opening := fun h => hterminator _ h hmem
  obtain ⟨hblank, harrow, hpipe, hdigit⟩ : Text.isBlank s.opening = false ∧
      s.opening ≠ '>' ∧ s.opening ≠ '|' ∧ s.opening.isDigit = false := by
    have hcases : s.opening = '\'' ∨ s.opening = '"' ∨ s.opening = '\\' := by simpa using hmem
    rcases hcases with hmark | hmark | hmark <;> rw [hmark] <;> decide
  apply tokenize_of_reads (by simpa [hfront] using hblank)
  intro k hk
  obtain ⟨segs, k', hread, hk', hsegs, htext⟩ := readSegments_spellings false hslash htouch hk
  have hword : readWord o true k = .ok (segs, k') := by
    rw [← hread]
    unfold readWord
    split <;> simp [hescape]
  refine ⟨s.opening, t ++ ss.flatMap Spelling.written, .word segs, k', hk.trans hfront, hblank, ?_,
    hk', ?_⟩
  · exact readToken_word hopening harrow hpipe (fun h => absurd (hdigit.symm.trans h) nofun) hword
      (hsegs hne)
  · rw [RawToken.resolve, hquotes, htext o hlookup]

theorem tokenize_spellings_mixed :
    ∃ (o : Options) (ss : List Spelling), o.terminator = some ';' ∧
      ss.flatMap Spelling.written = "'it''s;'\\ \\>\"\"\"'\"".toList ∧
      (∀ c ∈ o.terminator, c ∉ ['\'', '"', '\\']) ∧ o.lookup = none ∧ o.keepDoubleQuotes = false ∧
      o.keepInitialEscape = false ∧ ss ≠ [] ∧ ss.IsChain Spelling.CanTouch ∧
      (tokenize o (ss.flatMap Spelling.written)).map (·.map Token.kind) =
        .ok [.word (ss.flatMap Spelling.text)] := by
  let o : Options := { terminator := some ';', keepInitialEscape := false }
  let ss : List Spelling :=
    [.quoted .single "it's;".toList, .escaped ' ' ['>'], .quoted .double ['"', '\'']]
  have hterminator : ∀ c ∈ o.terminator, c ∉ ['\'', '"', '\\'] := by
    rintro c ⟨⟩
    decide
  have hne : ss ≠ [] := List.cons_ne_nil _ _
  have htouch : ss.IsChain Spelling.CanTouch := by decide
  exact ⟨o, ss, rfl, by decide, hterminator, rfl, rfl, rfl, hne, htouch,
    tokenize_spellings o hterminator rfl rfl rfl hne htouch⟩

end QueryConsole.Command
