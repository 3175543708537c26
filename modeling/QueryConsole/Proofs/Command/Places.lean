import QueryConsole.Proofs.Command.Values
import QueryConsole.Proofs.Text.Places

/-!
# Places in a command line

However often a scanner is called, its cursor stands between two characters of its line, and so do
the tokens that it reads and the fault at which it stops.
-/

namespace QueryConsole

/-- The cursor stands in the given text. -/
def Cursor.StandsIn (line : Text) (k : Cursor) : Prop := (Cursor.ofText line).Reaches k

namespace Cursor.StandsIn

variable {line : Text} {k k' : Cursor}

theorem ofText (line : Text) : (Cursor.ofText line).StandsIn line := .refl _

theorem reaches (h : k.StandsIn line) (hk : k.Reaches k') : k'.StandsIn line := h.trans hk

theorem isPlace (h : k.StandsIn line) : Text.IsPlace line k.offset := by
  obtain ⟨front, hline, hoffset⟩ := h
  apply Text.isPlace_iff.2
  exact ⟨front, k.rest, hline, by rw [hoffset, Cursor.ofText, Nat.zero_add]⟩

theorem advance {taken rest : Text} (h : k.StandsIn line) (hk : k.rest = taken ++ rest) :
    (k.advance taken rest).StandsIn line := h.reaches (.advance hk)

theorem skipBlanks (h : k.StandsIn line) : k.skipBlanks.StandsIn line := h.reaches (.skipBlanks k)

theorem finish (h : k.StandsIn line) : k.finish.StandsIn line :=
  h.advance (List.append_nil k.rest).symm

end Cursor.StandsIn

namespace Command

variable {line : Text} {k k' : Cursor} {c : Char} {place : Nat}

/-- A reader ends in the line, and its fault, if it has one, lies there. -/
def Reading.StaysIn {α : Type} (line : Text) : Reading α → Prop
  | .ok (_, k) => k.StandsIn line
  | .error e => e.cursor.StandsIn line ∧ Text.IsPlace line e.fault.position

section Readers

variable {terminator : Option Char} {fd : Option Fd} {append : Bool}

theorem Reading.StaysIn.map {α β : Type} {f : α → β} {r : Reading α} (h : r.StaysIn line) :
    (r.map f).StaysIn line := by
  cases r with
  | ok p => exact h
  | error e => exact h

theorem staysIn_fail {α : Type} {cause : Cause} (hk : k.StandsIn line)
    (hplace : Text.IsPlace line place) : (fail cause place k : Reading α).StaysIn line :=
  ⟨hk, hplace⟩

theorem staysIn_readSegments {inRun : Bool} (h : k.StandsIn line) :
    (readSegments terminator inRun k).StaysIn line := by
  fun_induction readSegments terminator inRun k with
  | case1 => exact h
  | case2 inRun k c t hr q hq e hc =>
    rename_i ih
    have hrest : k.rest = c :: e.taken ++ e.rest := by
      rw [hr, List.cons_append, Extent.taken_append_rest_toSingle]
    exact (ih (h.advance hrest)).map
  | case3 => exact staysIn_fail h h.isPlace
  | case4 => exact staysIn_fail h.finish h.isPlace
  | case5 inRun k c hq hc d t hr _ ih => exact (ih (h.advance hr)).map
  | case6 inRun k c t hr hq hc hw ih => exact (ih (h.advance hr)).map
  | case7 => exact h

theorem staysIn_readNumber (what : Numbered) (h : k.StandsIn line) :
    (readNumber what k).StaysIn line := by
  have hbehind : (k.skipWhile Char.isDigit).StandsIn line := h.reaches (.skipWhile _ k)
  unfold readNumber
  dsimp only
  split
  · exact hbehind
  · exact staysIn_fail hbehind h.isPlace

theorem staysIn_readDuplicate (h : k.StandsIn line) : (readDuplicate fd k).StaysIn line := by
  unfold readDuplicate
  dsimp only
  split
  · exact (staysIn_readNumber _ h.skipBlanks).map
  · exact staysIn_fail h.skipBlanks h.skipBlanks.isPlace

theorem staysIn_readSession (h : k.StandsIn line) (hplace : Text.IsPlace line place) :
    (readSession fd append place k).StaysIn line := by
  unfold readSession
  split
  · exact staysIn_fail h hplace
  · split
    · exact (staysIn_readNumber _ h).map
    · exact h

theorem staysIn_readTarget (h : k.StandsIn line) :
    (readTarget terminator fd append k).StaysIn line :=
  (staysIn_readSegments h.skipBlanks).map

theorem staysIn_readRedirect (h : k.StandsIn line) (hplace : Text.IsPlace line place) :
    (readRedirect terminator fd place k).StaysIn line := by
  cases redirectForm_readRedirect terminator fd place k with
  | session harrow hplus hr =>
    have hsign := harrow.reaches.trans (reaches_of_skipChar? hplus)
    rw [← hr]
    exact staysIn_readSession (h.reaches hsign) hplace
  | target harrow _ _ hr =>
    rw [← hr]
    exact staysIn_readTarget (h.reaches harrow.reaches)
  | duplicate _ hand hr =>
    rw [← hr]
    exact staysIn_readDuplicate (h.reaches (reaches_of_skipChar? hand))

theorem staysIn_readPipe (h : k.StandsIn line) : (readPipe k).StaysIn line := by
  unfold readPipe
  dsimp only
  split
  · exact staysIn_fail h.skipBlanks h.skipBlanks.isPlace
  · exact h.skipBlanks.finish

theorem staysIn_readWord (o : Options) (first : Bool) (h : k.StandsIn line) :
    (readWord o first k).StaysIn line := by
  cases wordForm_readWord o first k with
  | kept hk _ hr =>
    rw [← hr]
    exact (staysIn_readSegments (h.advance hk)).map
  | plain _ hr =>
    rw [← hr]
    exact staysIn_readSegments h

theorem staysIn_readToken (o : Options) (first : Bool) {t : Text} (h : k.StandsIn line)
    (hk : k.rest = c :: t) : (readToken o first k c t).StaysIn line := by
  have behind : (k.advance [c] t).StandsIn line := h.advance hk
  cases tokenForm_readToken o first k c t with
  | terminator _ hr =>
    rw [← hr]
    exact behind
  | redirect _ _ hr =>
    rw [← hr]
    exact staysIn_readRedirect behind h.isPlace
  | pipe _ _ hr =>
    rw [← hr]
    exact staysIn_readPipe behind
  | descriptor _ _ hl hr =>
    rw [← hr]
    exact staysIn_readRedirect (behind.reaches (reaches_of_skipChar? hl)) behind.isPlace
  | nothing _ _ hr =>
    rw [← hr]
    exact staysIn_fail h h.isPlace
  | word _ _ hr =>
    rw [← hr]
    exact (staysIn_readWord o first h).map

/-- A target that resolves to nothing lies in the line. -/
theorem isPlace_of_resolve_eq_error {o : Options} {first : Bool} {t : Text} {raw : RawToken}
    {f : Fault} (h : k.StandsIn line) (hk : k.rest = c :: t)
    (hread : readToken o first k c t = .ok (raw, k')) (hraw : raw.resolve o = .error f) :
    Text.IsPlace line f.position := by
  cases raw with
  | redirect fd w append place =>
    obtain ⟨j, hj, rfl, -⟩ := exists_target_of_readToken hk hread
    by_cases hw : w.flatMap (Segment.resolve o false) = []
    · rw [RawToken.resolve_redirect_of_eq hw] at hraw
      obtain rfl := Except.error.inj hraw
      exact (h.reaches hj).isPlace
    · rw [RawToken.resolve_redirect_of_ne hw] at hraw
      cases hraw
  | _ => cases hraw

end Readers

namespace Scanner

variable {s : Scanner}

/-- A call leaves the cursor in the line, and returns tokens and faults of the line. -/
structure Call.StaysIn (line : Text) (call : Call) : Prop where
  cursor : call.cursor.StandsIn line
  token : ∀ t, call.result = some (.ok t) →
    t.line = line ∧ ∃ p, t.position = some p ∧ Text.IsPlace line p
  fault : ∀ d, call.result = some (.error d) → d.line = line ∧ Text.IsPlace line d.position

theorem staysIn_call (h : s.cursor.StandsIn s.line) : s.call.StaysIn s.line := by
  cases hf : s.finished with
  | true =>
    rw [call, next_of_finished hf]
    exact ⟨h, by rintro t ⟨⟩, by rintro d ⟨⟩⟩
  | false =>
    have hskip := h.skipBlanks
    obtain ⟨-, hnext⟩ | ⟨c, t, hk, ⟨e, hread, hnext⟩ | ⟨raw, k', hread, ⟨f, hraw, hnext⟩ |
      ⟨kind, hraw, hnext⟩⟩⟩ := next_cases hf
    · rw [call, hnext]
      exact ⟨hskip, by rintro t ⟨⟩, by rintro d ⟨⟩⟩
    all_goals
      have hstays := staysIn_readToken s.options (!s.started) hskip hk
      rw [hread] at hstays
      rw [call, hnext]
    · refine ⟨hstays.1, by rintro t ⟨⟩, ?_⟩
      rintro _ ⟨⟩
      exact ⟨rfl, hstays.2⟩
    · refine ⟨hstays, by rintro t ⟨⟩, ?_⟩
      rintro _ ⟨⟩
      exact ⟨rfl, isPlace_of_resolve_eq_error hskip hk hread hraw⟩
    · refine ⟨hstays, ?_, by rintro d ⟨⟩⟩
      rintro _ ⟨⟩
      exact ⟨rfl, _, rfl, hskip.isPlace⟩

theorem staysIn_calls (n : Nat) (h : s.cursor.StandsIn s.line) :
    ∀ call ∈ s.calls n, call.StaysIn s.line := by
  induction n generalizing s with
  | zero => simp [calls]
  | succ n ih =>
    have hcall := staysIn_call h
    have hline : s.next.2.line = s.line := s.next_snd.2.1
    have hrest := ih (s := s.next.2) (by rw [hline]; exact hcall.cursor)
    rw [hline] at hrest
    rw [calls]
    exact List.forall_mem_cons.2 ⟨hcall, hrest⟩

/-- After any number of calls the cursor stands in the line, which is kept, as the options are. -/
theorem standsIn_after (o : Options) (line : Text) (n : Nat) :
    ((ofLine o line).after n).cursor.StandsIn line ∧ ((ofLine o line).after n).line = line ∧
      ((ofLine o line).after n).options = o := by
  induction n with
  | zero => exact ⟨.ofText line, rfl, rfl⟩
  | succ n ih =>
    obtain ⟨hstands, hline, hoptions⟩ := ih
    rw [after_succ]
    refine ⟨?_, (next_snd _).2.1.trans hline, (next_snd _).1.trans hoptions⟩
    have hcall := staysIn_call (s := (ofLine o line).after n) (by rwa [hline])
    rw [hline] at hcall
    exact hcall.cursor

end Scanner

end Command

end QueryConsole
