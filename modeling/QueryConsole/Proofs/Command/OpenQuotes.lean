import QueryConsole.Proofs.Command.Values

/-!
# Where a quotation can be left open

If the quotation marks in the front part of a line pair up, and none of them is behind a backslash,
then no quotation that begins there is found open: a scanner passes over each as a whole, and all
else that it reads there is not a mark.
-/

namespace QueryConsole.Command

/-- The quotation marks among the first `n` bytes of a text are those of quotations, and none of
these begins behind a backslash. -/
inductive PairsUp : Nat → Text → Prop
  | zero (t : Text) : PairsUp 0 t
  | nil (n : Nat) : PairsUp n []
  | other {n : Nat} {c : Char} {t : Text} : Quote.ofMark? c = none →
      (c = '\\' → n ≠ 0 → ∀ d ∈ t.head?, Quote.ofMark? d = none) → PairsUp n t →
      PairsUp (c.utf8Size + n) (c :: t)
  | quotation {n : Nat} {t : Text} (q : Quote) (body : Text) : t.head? ≠ some q.mark →
      PairsUp n t → PairsUp (Text.size (q.mark :: Extent.double q.mark body ++ [q.mark]) + n)
        (q.mark :: (Extent.double q.mark body ++ q.mark :: t))

/-- From the cursor up to the offset `j` quotation marks pair up. -/
def Cursor.Clear (j : Nat) (k : Cursor) : Prop := ∃ n, PairsUp n k.rest ∧ j ≤ k.offset + n

namespace PairsUp

variable {n : Nat} {c : Char} {t : Text} {q : Quote}

theorem of_other (h : PairsUp n (c :: t)) (hc : Quote.ofMark? c = none) :
    n = 0 ∨ ∃ m, n = c.utf8Size + m ∧ PairsUp m t ∧
      (c = '\\' → m ≠ 0 → ∀ d ∈ t.head?, Quote.ofMark? d = none) := by
  generalize ht : c :: t = s at h
  cases h with
  | zero => exact .inl rfl
  | nil => cases ht
  | @other m _ _ _ hnext hrest =>
    obtain ⟨rfl, rfl⟩ := List.cons.inj ht
    exact .inr ⟨m, rfl, hrest, hnext⟩
  | quotation q =>
    obtain ⟨rfl, -⟩ := List.cons.inj ht
    simp [Quote.ofMark?_eq_some_iff.2 rfl] at hc

theorem of_mark (h : PairsUp n (q.mark :: t)) :
    n = 0 ∨ ∃ body u m, t = Extent.double q.mark body ++ q.mark :: u ∧ u.head? ≠ some q.mark ∧
      n = Text.size (q.mark :: Extent.double q.mark body ++ [q.mark]) + m ∧ PairsUp m u := by
  generalize ht : q.mark :: t = s at h
  cases h with
  | zero => exact .inl rfl
  | nil => cases ht
  | other hc =>
    obtain ⟨rfl, -⟩ := List.cons.inj ht
    simp [Quote.ofMark?_eq_some_iff.2 rfl] at hc
  | @quotation m u _ body hhead hrest =>
    obtain ⟨hq, rfl⟩ := List.cons.inj ht
    rw [← hq] at hhead ⊢
    exact .inr ⟨body, u, m, rfl, hhead, rfl, hrest⟩

end PairsUp

namespace Cursor.Clear

variable {j : Nat} {k : Cursor} {c d : Char} {t : Text} {q : Quote}

theorem of_pairsUp {n : Nat} {taken : Text} (h : PairsUp n t)
    (hj : j ≤ k.offset + Text.size taken + n) : Cursor.Clear j (k.advance taken t) := ⟨n, h, hj⟩

theorem advance (h : Cursor.Clear j k) (hk : k.rest = c :: t) (hc : Quote.ofMark? c = none) :
    Cursor.Clear j (k.advance [c] t) := by
  obtain ⟨n, hn, hj⟩ := h
  obtain rfl | ⟨m, rfl, hm, -⟩ := (hk ▸ hn).of_other hc
  · exact of_pairsUp (.zero t) (by omega)
  · exact of_pairsUp hm (by simp only [Text.size_cons, Text.size_nil]; omega)

/-- An escaped character is not a mark, unless it is out of the clear. -/
theorem escape (h : Cursor.Clear j k) (hk : k.rest = '\\' :: d :: t) :
    Cursor.Clear j (k.advance ['\\', d] t) := by
  obtain ⟨n, hn, hj⟩ := h
  obtain rfl | ⟨m, rfl, hm, hnext⟩ := (hk ▸ hn).of_other (by decide)
  · exact of_pairsUp (.zero t) (by omega)
  · have hafter : m = 0 ∨ ∃ l, m = d.utf8Size + l ∧ PairsUp l t := by
      by_cases hzero : m = 0
      · exact .inl hzero
      · obtain rfl | ⟨l, hl, ht, -⟩ := hm.of_other (hnext rfl hzero d rfl)
        · exact .inl rfl
        · exact .inr ⟨l, hl, ht⟩
    obtain rfl | ⟨l, rfl, hl⟩ := hafter
    · exact of_pairsUp (.zero t) (by simp only [Text.size_cons]; omega)
    · exact of_pairsUp hl (by simp only [Text.size_cons, Text.size_nil]; omega)

/-- A quotation that begins in the clear is closed. -/
theorem quotation (h : Cursor.Clear j k) (hk : k.rest = q.mark :: t) :
    ((Extent.toSingle q.mark t).closed = true → Cursor.Clear j
      (k.advance (q.mark :: (Extent.toSingle q.mark t).taken) (Extent.toSingle q.mark t).rest)) ∧
    ((Extent.toSingle q.mark t).closed = false → j ≤ k.offset) := by
  obtain ⟨n, hn, hj⟩ := h
  obtain rfl | ⟨body, u, m, rfl, hu, rfl, hm⟩ := (hk ▸ hn).of_mark
  · exact ⟨fun _ => of_pairsUp (.zero _) (by omega), fun _ => hj⟩
  · rw [Extent.toSingle_double_append body hu]
    exact ⟨fun _ => of_pairsUp hm (by rwa [Nat.add_assoc]), nofun⟩

theorem skipWhile {p : Char → Bool} (hp : ∀ c, p c = true → Quote.ofMark? c = none)
    (h : Cursor.Clear j k) : Cursor.Clear j (k.skipWhile p) := by
  obtain ⟨n, hn, hj⟩ := h
  obtain ⟨offset, rest⟩ := k
  induction rest generalizing offset n with
  | nil => exact ⟨n, hn, by simpa [QueryConsole.Cursor.skipWhile, QueryConsole.Cursor.advance]⟩
  | cons c t ih =>
    cases hc : p c with
    | false =>
      exact ⟨n, by simpa [QueryConsole.Cursor.skipWhile, QueryConsole.Cursor.advance, hc] using hn,
        by simpa [QueryConsole.Cursor.skipWhile, QueryConsole.Cursor.advance, hc] using hj⟩
    | true =>
      obtain ⟨m, hm, hj'⟩ := advance ⟨n, hn, hj⟩ rfl (hp c hc)
      have hrest := ih m _ hm hj'
      simpa [QueryConsole.Cursor.skipWhile, QueryConsole.Cursor.advance, hc, Nat.add_assoc]
        using hrest

theorem skipBlanks (h : Cursor.Clear j k) : Cursor.Clear j k.skipBlanks :=
  h.skipWhile fun _ => Quote.ofMark?_of_isBlank

theorem skipDigits (h : Cursor.Clear j k) : Cursor.Clear j (k.skipWhile Char.isDigit) :=
  h.skipWhile fun _ => Quote.ofMark?_of_isDigit

theorem skipChar? {k' : Cursor} (h : Cursor.Clear j k) (hc : Quote.ofMark? c = none)
    (hk : Command.skipChar? c k = some k') : Cursor.Clear j k' := by
  obtain ⟨t, hr, rfl⟩ := skipChar?_eq_some_iff.1 hk
  exact h.advance hr hc

theorem endsArrow {append : Bool} {k' : Cursor} (h : Cursor.Clear j k)
    (harrow : EndsArrow k append k') : Cursor.Clear j k' := by
  cases harrow with
  | single => exact h
  | double hk => exact h.skipChar? (by decide) hk

end Cursor.Clear

/-! ### Readers -/

/-- What is read from a cursor that is clear up to `j`: the cursor behind it is clear up to `j` as
well, and a quotation is not found open before `j`. -/
def Reading.IsClear {α : Type} (j : Nat) : Reading α → Prop
  | .ok (_, k) => Cursor.Clear j k
  | .error e => ∀ q, e.fault.cause = .openQuote q → j ≤ e.fault.position

section Readers

variable {j : Nat} {k : Cursor} {terminator : Option Char} {fd : Option Fd} {place : Nat}
  {append : Bool}

theorem Reading.IsClear.map {α β : Type} {f : α → β} {r : Reading α} (h : r.IsClear j) :
    (r.map f).IsClear j := by
  cases r with
  | ok p => exact h
  | error e => exact h

theorem isClear_fail {α : Type} {cause : Cause} (hcause : ∀ q, cause ≠ .openQuote q)
    (position : Nat) (k : Cursor) : (fail cause position k : Reading α).IsClear j :=
  fun q hq => absurd hq (hcause q)

theorem isClear_readSegments {inRun : Bool} (h : Cursor.Clear j k) :
    (readSegments terminator inRun k).IsClear j := by
  fun_induction readSegments terminator inRun k with
  | case1 => exact h
  | case2 inRun k c t hr q hq e hc =>
    rename_i ih
    obtain rfl := Quote.ofMark?_eq_some_iff.1 hq
    exact (ih ((h.quotation hr).1 hc)).map
  | case3 inRun k c t hr q hq e hc =>
    obtain rfl := Quote.ofMark?_eq_some_iff.1 hq
    exact fun _ _ => (h.quotation hr).2 (by simpa using hc)
  | case4 => exact isClear_fail (by simp) _ _
  | case5 inRun k c hq hc d t hr _ ih =>
    obtain ⟨rfl, -⟩ := hc
    exact (ih (h.escape hr)).map
  | case6 inRun k c t hr hq hc hw ih => exact (ih (h.advance hr hq)).map
  | case7 => exact h

theorem isClear_readNumber (what : Numbered) (h : Cursor.Clear j k) :
    (readNumber what k).IsClear j := by
  unfold readNumber
  dsimp only
  split
  · exact h.skipDigits
  · exact isClear_fail (by simp) _ _

theorem isClear_readDuplicate (h : Cursor.Clear j k) : (readDuplicate fd k).IsClear j := by
  unfold readDuplicate
  dsimp only
  split
  · exact (isClear_readNumber _ h.skipBlanks).map
  · exact isClear_fail (by simp) _ _

theorem isClear_readSession (h : Cursor.Clear j k) :
    (readSession fd append place k).IsClear j := by
  unfold readSession
  split
  · exact isClear_fail (by simp) _ _
  · split
    · exact (isClear_readNumber _ h).map
    · exact h

theorem isClear_readTarget (h : Cursor.Clear j k) :
    (readTarget terminator fd append k).IsClear j :=
  (isClear_readSegments h.skipBlanks).map

theorem isClear_readRedirect (h : Cursor.Clear j k) :
    (readRedirect terminator fd place k).IsClear j := by
  cases redirectForm_readRedirect terminator fd place k with
  | session harrow hplus hr =>
    rw [← hr]
    exact isClear_readSession ((h.endsArrow harrow).skipChar? (by decide) hplus)
  | target harrow _ _ hr =>
    rw [← hr]
    exact isClear_readTarget (h.endsArrow harrow)
  | duplicate _ hand hr =>
    rw [← hr]
    exact isClear_readDuplicate (h.skipChar? (by decide) hand)

/-- Nothing is left to read behind a pipe. -/
theorem isClear_readPipe (k : Cursor) : (readPipe k).IsClear j := by
  unfold readPipe
  dsimp only
  split
  · exact isClear_fail (by simp) _ _
  · exact ⟨j, .nil j, by omega⟩

theorem isClear_readWord (o : Options) (first : Bool) (h : Cursor.Clear j k) :
    (readWord o first k).IsClear j := by
  cases wordForm_readWord o first k with
  | kept hk _ hr =>
    rw [← hr]
    exact (isClear_readSegments (h.advance hk (by decide))).map
  | plain _ hr =>
    rw [← hr]
    exact isClear_readSegments h

theorem isClear_readToken {o : Options} (first : Bool) {c : Char} {t : Text}
    (h : Cursor.Clear j k) (hk : k.rest = c :: t) (hc : o.terminator ≠ some c) :
    (readToken o first k c t).IsClear j := by
  cases tokenForm_readToken o first k c t with
  | terminator hterminator _ => contradiction
  | redirect _ harrow hr =>
    rw [← hr]
    exact isClear_readRedirect (h.advance hk (by rw [harrow]; decide))
  | pipe _ _ hr =>
    rw [← hr]
    exact isClear_readPipe _
  | descriptor _ hdigit hl hr =>
    have hbehind := h.advance hk (Quote.ofMark?_of_isDigit hdigit)
    rw [← hr]
    exact isClear_readRedirect (hbehind.skipChar? (by decide) hl)
  | nothing _ _ hr =>
    rw [← hr]
    exact isClear_fail (by simp) _ _
  | word _ _ hr =>
    rw [← hr]
    exact (isClear_readWord o first h).map

end Readers

/-! ### Scanners -/

/-- Only a quotation that is left open makes a literal unterminated. -/
theorem Cause.exists_of_kind_eq {c : Cause} (h : c.kind = .unterminatedLiteral) :
    ∃ q, c = .openQuote q := by
  cases c with
  | openQuote q => exact ⟨q, rfl⟩
  | _ => cases h

theorem RawToken.cause_of_resolve_eq_error {o : Options} {raw : RawToken} {f : Fault}
    (h : raw.resolve o = .error f) : f.cause = .noTarget := by
  cases raw with
  | redirect fd w append place =>
    by_cases hw : w.flatMap (Segment.resolve o false) = []
    · rw [resolve_redirect_of_eq hw] at h
      exact Except.error.inj h ▸ rfl
    · rw [resolve_redirect_of_ne hw] at h
      cases h
  | _ => cases h

namespace Scanner

variable {j : Nat} {s : Scanner}

theorem clear_next (h : s.finished = false → Cursor.Clear j s.cursor) :
    (∀ d, s.next.1 = some (.error d) → d.kind = .unterminatedLiteral → j ≤ d.position) ∧
      (s.next.2.finished = false → Cursor.Clear j s.next.2.cursor) := by
  cases hf : s.finished with
  | true =>
    rw [next_of_finished hf]
    exact ⟨by rintro d ⟨⟩, h⟩
  | false =>
    obtain ⟨-, hnext⟩ | ⟨c, t, hk, hnext⟩ := next_cases hf
    · rw [hnext]
      exact ⟨by rintro d ⟨⟩, by rintro ⟨⟩⟩
    · by_cases hc : s.options.terminator = some c
      · -- a terminator ends the line, even if it is a quotation mark
        have hread : readToken s.options (!s.started) s.cursor.skipBlanks c t =
            .ok (.terminator c, s.cursor.skipBlanks.advance [c] t) := by
          simp [readToken, hc]
        rw [next_of_resolve_ok hf hk hread rfl]
        exact ⟨by rintro d ⟨⟩, by rintro ⟨⟩⟩
      · have hclear := isClear_readToken (!s.started) (h hf).skipBlanks hk hc
        obtain ⟨e, hread, hnext⟩ | ⟨raw, k', hread, ⟨f, hraw, hnext⟩ | ⟨kind, -, hnext⟩⟩ := hnext
        all_goals
          rw [hread] at hclear
          rw [hnext]
        · refine ⟨?_, by rintro ⟨⟩⟩
          rintro d hd hkind
          obtain rfl := Except.error.inj (Option.some.inj hd)
          obtain ⟨q, hq⟩ := Cause.exists_of_kind_eq hkind
          exact hclear q hq
        · refine ⟨?_, by rintro ⟨⟩⟩
          rintro d hd hkind
          obtain rfl := Except.error.inj (Option.some.inj hd)
          obtain ⟨q, hq⟩ := Cause.exists_of_kind_eq hkind
          cases (RawToken.cause_of_resolve_eq_error hraw).symm.trans hq
        · exact ⟨by rintro d ⟨⟩, fun _ => hclear⟩

theorem le_position_of_run (s : Scanner) (h : s.finished = false → Cursor.Clear j s.cursor) :
    ∀ d, s.run.fault = some d → d.kind = .unterminatedLiteral → j ≤ d.position := by
  fun_induction run s with
  | case1 => rintro d ⟨⟩
  | case2 s d s' hnext =>
    rintro _ ⟨⟩
    exact (clear_next h).1 d (by rw [hnext])
  | case3 s t s' hnext r ih =>
    refine ih ?_
    have hclear := (clear_next h).2
    rwa [hnext] at hclear

end Scanner

/-- In a line whose quotation marks pair up in the first `n` bytes, no quotation is left open
there. -/
theorem le_position_of_tokenize {o : Options} {line : Text} {n : Nat} {d : Diagnostic}
    (hline : PairsUp n line) (h : tokenize o line = .error d)
    (hd : d.kind = .unterminatedLiteral) : n ≤ d.position := by
  have hfault := fault_of_tokenize_eq_error h
  refine (Scanner.ofLine o line).le_position_of_run (fun _ => ⟨n, hline, ?_⟩) d hfault hd
  exact Nat.le_add_left n _

end QueryConsole.Command
