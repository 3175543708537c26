import QueryConsole.Command.RawToken
import QueryConsole.Proofs.Text.Extent
import QueryConsole.Proofs.Text.Identifier
import QueryConsole.Proofs.Text.Run

/-!
# Written words are read back

A word that is written plainly or between single quotes is read as one segment, and this resolves
to the word whatever the values of variables are: a plain word has no reference in it, and single
quotes protect those of a quoted one. Numbers are read back from their digits.
-/

namespace QueryConsole.Command

/-! ### Plain characters -/

theorem isPlain_eq_false (c : Char) (h : c ∈ ['\'', '"', '|', '<', '>', '&', '\\', '$']) :
    isPlain c = false := by
  have hsigns : (['\'', '"', '|', '<', '>', '&', '\\', '$'].all fun d => !isPlain d) = true := by
    decide +kernel
  exact (Bool.not_eq_true' _).mp (List.all_eq_true.1 hsigns c h)

theorem ne_of_isPlain {c d : Char} (hc : isPlain c = true) (hd : isPlain d = false) : c ≠ d := by
  rintro rfl
  rw [hc] at hd
  cases hd

theorem isBlank_of_isPlain {c : Char} (h : isPlain c = true) : Text.isBlank c = false := by
  rcases Bool.or_eq_true_iff.1 h with h | h
  · exact Text.isBlank_of_isAlphanumeric h
  · have hsigns : ("_-./:,@%+=*?!#~^()[]\x7b\x7d".toList.all fun d => !Text.isBlank d) = true := by
      decide +kernel
    exact (Bool.not_eq_true' _).mp (List.all_eq_true.1 hsigns c (List.contains_iff_mem.1 h))

theorem isWordChar_of_isPlain {terminator : Option Char} {c : Char} (hc : isPlain c = true)
    (hterminator : terminator ≠ some c) : isWordChar terminator c = true := by
  have hmark : c ∉ ['\'', '"', '|', '<', '>', '&'] := by
    intro hmem
    have := isPlain_eq_false c (List.mem_append_left ['\\', '$'] hmem)
    rw [hc] at this
    cases this
  simp [isWordChar, isBlank_of_isPlain hc, hterminator.symm, hmark]

/-! ### Segments -/

/-- A character with a property that no quotation mark has is not one. -/
theorem Quote.ofMark?_of_property (p : Char → Bool) (hp : ∀ q : Quote, p q.mark = false) {c : Char}
    (hc : p c = true) : ofMark? c = none := by
  rw [Option.eq_none_iff_forall_ne_some]
  intro q hq
  rw [ofMark?_eq_some_iff.1 hq, hp q] at hc
  cases hc

theorem Quote.ofMark?_of_isBlank {c : Char} (hc : Text.isBlank c = true) : ofMark? c = none :=
  ofMark?_of_property Text.isBlank (fun q => by cases q <;> decide) hc

theorem Quote.ofMark?_of_isDigit {c : Char} (hc : c.isDigit = true) : ofMark? c = none :=
  ofMark?_of_property Char.isDigit (fun q => by cases q <;> decide) hc

/-- The text is at its end, or a blank comes next. -/
def AtGap (rest : Text) : Prop := ∀ c ∈ rest.head?, Text.isBlank c = true

/-- The text is at its end, or the next character is no part of a word. -/
def AtWordEnd (terminator : Option Char) (rest : Text) : Prop :=
  ∀ c ∈ rest.head?, Quote.ofMark? c = none ∧ c ≠ '\\' ∧ isWordChar terminator c = false

theorem AtGap.atWordEnd {rest : Text} (h : AtGap rest) (terminator : Option Char) :
    AtWordEnd terminator rest := by
  intro c hc
  have hblank := h c hc
  refine ⟨Quote.ofMark?_of_isBlank hblank, ?_, by simp [isWordChar, hblank]⟩
  rintro rfl
  exact absurd hblank (by decide)

variable {terminator : Option Char} {inRun : Bool} {k : Cursor} {w text rest : Text}

theorem AtWordEnd.head?_ne (h : AtWordEnd terminator rest) (q : Quote) :
    rest.head? ≠ some q.mark := by
  intro hrest
  have hmark := (h q.mark hrest).1
  rw [Quote.ofMark?_eq_some_iff.2 rfl] at hmark
  cases hmark

theorem readSegments_of_nil (hk : k.rest = []) : readSegments terminator inRun k = .ok ([], k) := by
  rw [readSegments]
  split
  · rfl
  · next hr => cases hk.symm.trans hr

/-- A quotation is read with the marks around it. -/
theorem readSegments_quotation {q : Quote} {t : Text} (hk : k.rest = q.mark :: t)
    (hclosed : (Extent.toSingle q.mark t).closed = true) :
    readSegments terminator inRun k =
      (readSegments terminator false (k.advance (q.mark :: (Extent.toSingle q.mark t).taken)
        (Extent.toSingle q.mark t).rest)).map
        (.quoted q (Extent.undouble q.mark (Extent.toSingle q.mark t).taken.dropLast) :: ·) := by
  have hmark : Quote.ofMark? q.mark = some q := Quote.ofMark?_eq_some_iff.2 rfl
  rw [readSegments]
  split
  · next hr => cases hk.symm.trans hr
  · next d u hr =>
    obtain ⟨rfl, rfl⟩ := List.cons.inj (hk.symm.trans hr)
    simp [hmark, hclosed]

theorem readSegments_escape {c : Char} {t : Text} (hk : k.rest = '\\' :: c :: t)
    (hescape : inRun = true ∨ terminator ≠ some '\\') :
    readSegments terminator inRun k =
      (readSegments terminator true (k.advance ['\\', c] t)).map (.literal c :: ·) := by
  have hmark : Quote.ofMark? '\\' = none := rfl
  rw [readSegments]
  split
  · next hr => cases hk.symm.trans hr
  · next d u hr =>
    obtain ⟨rfl, rfl⟩ := List.cons.inj (hk.symm.trans hr)
    simp [hmark, hescape]

theorem readSegments_wordChar {c : Char} {t : Text} (hk : k.rest = c :: t)
    (hmark : Quote.ofMark? c = none)
    (hescape : ¬(c = '\\' ∧ (inRun = true ∨ terminator ≠ some '\\')))
    (hword : isWordChar terminator c = true) :
    readSegments terminator inRun k =
      (readSegments terminator true (k.advance [c] t)).map (Segment.consRun c) := by
  rw [readSegments]
  split
  · next hr => cases hk.symm.trans hr
  · next d u hr =>
    obtain ⟨rfl, rfl⟩ := List.cons.inj (hk.symm.trans hr)
    simp [hmark, hescape, hword]

/-- A word ends before a character that is no part of it. -/
theorem readSegments_stop {c : Char} {t : Text} (hk : k.rest = c :: t)
    (hmark : Quote.ofMark? c = none)
    (hescape : ¬(c = '\\' ∧ (inRun = true ∨ terminator ≠ some '\\')))
    (hword : ¬isWordChar terminator c = true) :
    readSegments terminator inRun k = .ok ([], k) := by
  rw [readSegments]
  split
  · next hr => cases hk.symm.trans hr
  · next d u hr =>
    obtain ⟨rfl, rfl⟩ := List.cons.inj (hk.symm.trans hr)
    simp [hmark, hescape, hword]

theorem readSegments_of_atWordEnd (h : AtWordEnd terminator k.rest) :
    readSegments terminator inRun k = .ok ([], k) := by
  cases hr : k.rest with
  | nil => exact readSegments_of_nil hr
  | cons c t =>
    obtain ⟨hmark, hslash, hword⟩ := h c (by simp [hr])
    exact readSegments_stop hr hmark (fun hescape => hslash hescape.1) (by simp [hword])

theorem readSegments_cons_of_isPlain {c : Char} {t : Text} (hk : k.rest = c :: t)
    (hc : isPlain c = true) (hterminator : terminator ≠ some c) :
    readSegments terminator inRun k =
      (readSegments terminator true (k.advance [c] t)).map (Segment.consRun c) := by
  have hquote : Quote.ofMark? c = none := by
    simp [Quote.ofMark?, ne_of_isPlain hc (isPlain_eq_false '\'' (by decide)),
      ne_of_isPlain hc (isPlain_eq_false '"' (by decide))]
  have hslash := ne_of_isPlain hc (isPlain_eq_false '\\' (by decide))
  exact readSegments_wordChar hk hquote (fun hescape => hslash hescape.1)
    (isWordChar_of_isPlain hc hterminator)

theorem readSegments_plain {c : Char} (hk : k.rest = c :: w ++ rest) (hc : isPlain c = true)
    (hw : ∀ d ∈ w, isPlain d = true) (hterminator : ∀ d ∈ c :: w, terminator ≠ some d)
    (hrest : AtWordEnd terminator rest) :
    ∃ k', readSegments terminator inRun k = .ok ([.run (c :: w)], k') ∧ k'.rest = rest := by
  rw [List.cons_append] at hk
  rw [readSegments_cons_of_isPlain hk hc (hterminator c List.mem_cons_self)]
  induction w generalizing c k with
  | nil =>
    rw [readSegments_of_atWordEnd hrest]
    exact ⟨k.advance [c] rest, rfl, rfl⟩
  | cons d w ih =>
    have hnext : (k.advance [c] (d :: w ++ rest)).rest = d :: (w ++ rest) := rfl
    have hterminator' : ∀ e ∈ d :: w, terminator ≠ some e :=
      fun e he => hterminator e (List.mem_cons_of_mem c he)
    obtain ⟨k', hread, hk'⟩ := ih hnext (hw d List.mem_cons_self)
      (fun e he => hw e (List.mem_cons_of_mem d he)) hterminator'
    rw [readSegments_cons_of_isPlain hnext (hw d List.mem_cons_self)
      (hterminator' d List.mem_cons_self), hread]
    exact ⟨k', rfl, hk'⟩

theorem readSegments_singleQuoted (hk : k.rest = singleQuoted w ++ rest)
    (hrest : AtWordEnd terminator rest) :
    ∃ k', readSegments terminator inRun k = .ok ([.quoted .single w], k') ∧ k'.rest = rest := by
  have hhead : rest.head? ≠ some Quote.single.mark := hrest.head?_ne .single
  have hextent := Extent.toSingle_double_append w hhead
  have hquoted : k.rest = Quote.single.mark ::
      (Extent.double Quote.single.mark w ++ Quote.single.mark :: rest) := by
    simpa [singleQuoted, Quote.mark] using hk
  rw [readSegments_quotation hquoted (by rw [hextent])]
  simp only [hextent, List.dropLast_concat, Extent.undouble_double]
  rw [readSegments_of_atWordEnd (show AtWordEnd terminator (k.advance _ rest).rest from hrest)]
  exact ⟨_, rfl, rfl⟩

theorem expand_of_notMem (lookup : Lookup) (h : '$' ∉ w) : expand lookup w = w := by
  induction w with
  | nil => rw [expand]
  | cons c w ih =>
    have hc : c ≠ '$' := by
      rintro rfl
      exact h List.mem_cons_self
    have hw : '$' ∉ w := by
      intro hmem
      exact h (List.mem_cons_of_mem c hmem)
    rw [expand, if_neg hc, ih hw]

theorem Options.expand_of_notMem (o : Options) (h : '$' ∉ w) : o.expand w = w := by
  unfold Options.expand
  split
  · exact Command.expand_of_notMem _ h
  · rfl

/-! ### Words -/

/-- The ways in which a word is written. -/
inductive IsWritten (w : Text) : Text → Prop
  | plain : w ≠ [] → (∀ c ∈ w, isPlain c = true) → IsWritten w w
  | quoted : IsWritten w (singleQuoted w)

theorem isWritten_quoteWord (w : Text) : IsWritten w (quoteWord w) := by
  unfold quoteWord
  split
  · next h =>
    simp only [Bool.and_eq_true, Bool.not_eq_true', List.isEmpty_eq_false_iff,
      List.all_eq_true] at h
    exact .plain h.1 h.2
  · exact .quoted

theorem isWritten_quoteTarget (w : Text) : IsWritten w (quoteTarget w) := by
  unfold quoteTarget
  split
  · exact .quoted
  · exact isWritten_quoteWord w

theorem singleQuoted_ne (w : Text) : singleQuoted w ≠ w := by
  intro h
  have hlength := congrArg List.length h
  have hle := Extent.length_le_length_double '\'' w
  simp only [singleQuoted, List.length_append, List.length_cons, List.length_nil] at hlength
  omega

/-- A word that is written as it is has plain characters only. -/
theorem IsWritten.isPlain_of_mem (h : IsWritten w text) (htext : text = w) {c : Char} (hc : c ∈ w) :
    isPlain c = true := by
  cases h with
  | plain _ hw => exact hw c hc
  | quoted => exact absurd htext (singleQuoted_ne w)

theorem IsWritten.exists_cons (h : IsWritten w text) :
    ∃ c t, text = c :: t ∧ (c = '\'' ∨ isPlain c = true ∧ ∀ d ∈ t, isPlain d = true) := by
  cases h with
  | plain hne hw =>
    obtain ⟨c, t, rfl⟩ := List.exists_cons_of_ne_nil hne
    exact ⟨c, t, rfl, .inr (List.forall_mem_cons.1 hw)⟩
  | quoted => exact ⟨'\'', _, rfl, .inl rfl⟩

theorem IsWritten.head?_ne {c : Char} (h : IsWritten w text) (hplain : isPlain c = false)
    (hquote : c ≠ '\'') : text.head? ≠ some c := by
  obtain ⟨d, t, rfl, rfl | ⟨hd, -⟩⟩ := h.exists_cons
  · simpa using hquote.symm
  · simpa using ne_of_isPlain hd hplain

/-- A written target does not begin like a target that is no file. -/
theorem head?_quoteTarget_ne (w : Text) : (quoteTarget w).head? ≠ some '+' := by
  unfold quoteTarget
  split
  · simp [singleQuoted]
  · next h =>
    unfold quoteWord
    split
    · exact h
    · simp [singleQuoted]

/-- A written word is read to its end, and what is read resolves to the word, unless the terminator
is one of the characters of a word that is written plainly. -/
theorem IsWritten.readSegments (h : IsWritten w text) (inRun : Bool) (hk : k.rest = text ++ rest)
    (hterminator : ∀ d ∈ terminator, text = w → d ∉ w) (hrest : AtWordEnd terminator rest) :
    ∃ segs k', readSegments terminator inRun k = .ok (segs, k') ∧ k'.rest = rest ∧ segs ≠ [] ∧
      ∀ o keep, segs.flatMap (Segment.resolve o keep) = w := by
  cases h with
  | plain hne hw =>
    obtain ⟨c, t, rfl⟩ := List.exists_cons_of_ne_nil hne
    obtain ⟨k', hread, hk'⟩ := readSegments_plain hk (hw c List.mem_cons_self)
      (fun d hd => hw d (List.mem_cons_of_mem c hd))
      (fun d hd ht => hterminator d ht rfl hd) hrest
    refine ⟨_, k', hread, hk', by simp, ?_⟩
    intro o keep
    have hdollar : '$' ∉ c :: t := by
      intro hmem
      exact ne_of_isPlain (hw '$' hmem) (isPlain_eq_false '$' (by decide)) rfl
    rw [List.flatMap_singleton, Segment.resolve, o.expand_of_notMem hdollar]
  | quoted =>
    obtain ⟨k', hread, hk'⟩ := readSegments_singleQuoted hk hrest
    exact ⟨_, k', hread, hk', by simp, fun o keep => by simp [Segment.resolve]⟩

/-! ### Numbers -/

theorem isDigit_of_mem_digits {n : Nat} {c : Char} (h : c ∈ digits n) : c.isDigit = true :=
  Nat.isDigit_of_mem_toDigits (by decide) (by decide) h

theorem isBlank_of_isDigit {c : Char} (h : c.isDigit = true) : Text.isBlank c = false := by
  have hcovers : Text.CodeRange.covers c.toNat [⟨0x30, 0x39⟩] = true := by
    simp only [Char.isDigit, ge_iff_le, Bool.and_eq_true, decide_eq_true_eq] at h
    have hlo : 0x30 ≤ c.toNat := UInt32.le_iff_toNat_le.1 h.1
    have hhi : c.toNat ≤ 0x39 := UInt32.le_iff_toNat_le.1 h.2
    simp [Text.CodeRange.covers, Nat.not_lt.2 hlo, hhi]
  exact Text.CodeRange.covers_eq_false (by decide +kernel) hcovers

theorem ofDigits_digits (n : Nat) : ofDigits (digits n) = n := by
  rw [ofDigits, ← Nat.ofDigitChars_eq_foldl]
  exact Nat.ofDigitChars_ten_toDigits

theorem digits_ne_nil (n : Nat) : digits n ≠ [] := Nat.toDigits_ne_nil

theorem maximal_digits (n : Nat) (h : AtGap rest) : Run.Maximal Char.isDigit (digits n) rest := by
  refine ⟨fun c hc => isDigit_of_mem_digits hc, fun c hc => ?_⟩
  rw [Bool.eq_false_iff]
  intro hdigit
  cases (isBlank_of_isDigit hdigit).symm.trans (h c hc)

variable {ds : Text}

theorem digitNext_of_ne_nil (hds : Run.Maximal Char.isDigit ds rest) (hne : ds ≠ [])
    (hk : k.rest = ds ++ rest) : digitNext k = true := by
  obtain ⟨d, t, rfl⟩ := List.exists_cons_of_ne_nil hne
  rw [digitNext, hk]
  exact hds.1 d List.mem_cons_self

/-- A number is read to its last digit, even if it is too large. -/
theorem readNumber_of_maximal (what : Numbered) (hds : Run.Maximal Char.isDigit ds rest)
    (hk : k.rest = ds ++ rest) :
    readNumber what k = if ofDigits ds < UInt32.size
      then .ok (.ofNat (ofDigits ds), k.advance ds rest)
      else fail (.outOfRange what) k.offset (k.advance ds rest) := by
  simp only [readNumber, Cursor.skipWhile, hk, Run.takeWhile_append hds.1 hds.2,
    Run.dropWhile_append hds.1 hds.2]

theorem skipBlanks_eq_advance {blanks : Text} (hblanks : ∀ b ∈ blanks, Text.isBlank b = true)
    (hrest : ∀ c ∈ rest.head?, Text.isBlank c = false) (hk : k.rest = blanks ++ rest) :
    k.skipBlanks = k.advance blanks rest := by
  rw [Cursor.skipBlanks, Cursor.skipWhile, hk, Run.takeWhile_append hblanks hrest,
    Run.dropWhile_append hblanks hrest]

theorem readDuplicate_of_maximal {fd : Option Fd} {blanks : Text}
    (hblanks : ∀ b ∈ blanks, Text.isBlank b = true) (hds : Run.Maximal Char.isDigit ds rest)
    (hne : ds ≠ []) (hk : k.rest = blanks ++ (ds ++ rest)) :
    readDuplicate fd k = (readNumber .descriptor (k.advance blanks (ds ++ rest))).map
      (.duplicate (fd.getD Fd.stdout)) := by
  have hhead : ∀ c ∈ (ds ++ rest).head?, Text.isBlank c = false := by
    obtain ⟨d, t, rfl⟩ := List.exists_cons_of_ne_nil hne
    intro c hc
    exact Option.some.inj hc ▸ isBlank_of_isDigit (hds.1 d List.mem_cons_self)
  rw [readDuplicate, skipBlanks_eq_advance hblanks hhead hk]
  exact if_pos (digitNext_of_ne_nil hds hne rfl)

/-- A session without a number is read like the one with number zero. -/
theorem readSession_of_maximal (append : Bool) (arrow : Nat)
    (hds : Run.Maximal Char.isDigit ds rest) (hk : k.rest = ds ++ rest) :
    readSession none append arrow k = (readNumber .session k).map
      fun n => .session (if n = 0 then none else some n) append := by
  by_cases hne : ds = []
  · subst hne
    obtain rfl : k.rest = rest := hk
    have hnext : digitNext k = false := (Option.any_eq_false _ _).2 hds.2
    rw [readSession, hnext, readNumber_of_maximal .session hds rfl]
    rfl
  · rw [readSession, digitNext_of_ne_nil hds hne hk]
    rfl

end QueryConsole.Command
