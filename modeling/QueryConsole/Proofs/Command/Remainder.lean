import QueryConsole.Proofs.Command.Progress

/-!
# What stands behind a terminator

A token is known from its own text and the one character behind it, and a terminator from its text
alone. `AgreeTo` relates two cursors before the same text, with other text behind it. Every reader
that reads this text from one of them reads it from the other, and so does the scanner; a line is
therefore read alike up to its terminator, whatever stands behind that.
-/

namespace QueryConsole

namespace Cursor

/-- From both cursors the same text leads to `l` and to `l'`. -/
def AgreeTo (l l' k k' : Cursor) : Prop := ∃ taken, k.Takes taken l ∧ k'.Takes taken l'

/-- Both cursors are at the same offset, and the same character is next. -/
def LookAlike (l l' : Cursor) : Prop := l'.offset = l.offset ∧ l'.rest.head? = l.rest.head?

namespace AgreeTo

variable {j k k' l l' : Cursor} {c : Char} {t t' u : Text}

theorem offset_eq (hl : l'.offset = l.offset) (h : AgreeTo l l' k k') : k'.offset = k.offset := by
  obtain ⟨taken, hk, hk'⟩ := h
  have hoffset := hk'.2
  rw [hl, hk.2] at hoffset
  exact (Nat.add_right_cancel hoffset).symm

theorem head?_eq (hl : LookAlike l l') (h : AgreeTo l l' k k') : k'.rest.head? = k.rest.head? := by
  obtain ⟨taken, hk, hk'⟩ := h
  rw [hk.1, hk'.1, List.head?_append, List.head?_append, hl.2]

theorem eq_of_eq (h : AgreeTo l l' l k') : k' = l' := by
  obtain ⟨taken, hk, hk'⟩ := h
  have hnil : taken = [] := List.self_eq_append_left.1 hk.1
  rw [hnil] at hk'
  exact (congrArg₂ mk hk'.2 hk'.1.symm).symm

/-- Both cursors advance over the same text, if it does not lead beyond `l`. -/
theorem advance (h : AgreeTo l l' k k') (hk : k.rest = u ++ t) (hreach : (k.advance u t).Reaches l) :
    ∃ t', k'.rest = u ++ t' ∧ AgreeTo l l' (k.advance u t) (k'.advance u t') := by
  obtain ⟨taken, htaken, htaken'⟩ := h
  obtain ⟨v, hv, hoffset⟩ := hreach
  have hsplit : taken = u ++ v := by
    have ht : t = v ++ l.rest := hv
    have hrest : taken ++ l.rest = u ++ v ++ l.rest := by
      rw [← htaken.1, hk, ht, List.append_assoc]
    exact List.append_cancel_right hrest
  subst hsplit
  refine ⟨v ++ l'.rest, by rw [htaken'.1, List.append_assoc], v, ⟨hv, hoffset⟩, rfl, ?_⟩
  rw [htaken'.2, Text.size_append, ← Nat.add_assoc]
  rfl

theorem advance_char (h : AgreeTo l l' k k') (hk : k.rest = c :: t)
    (hreach : (k.advance [c] t).Reaches l) :
    ∃ t', k'.rest = c :: t' ∧ AgreeTo l l' (k.advance [c] t) (k'.advance [c] t') :=
  h.advance (u := [c]) hk hreach

/-- On the way to `l` and `l'` the text can be cut at a cursor `j`. -/
theorem split (hl : l'.offset = l.offset) (h : AgreeTo l l' k k') (hj : k.Takes t j)
    (hu : j.Takes u l) : AgreeTo j ⟨j.offset, u ++ l'.rest⟩ k k' ∧
      AgreeTo l l' j ⟨j.offset, u ++ l'.rest⟩ := by
  have hoffset := h.offset_eq hl
  obtain ⟨taken, htaken, htaken'⟩ := h
  have hsplit : taken = t ++ u := by
    have hrest : taken ++ l.rest = t ++ u ++ l.rest := by
      rw [← htaken.1, hj.1, hu.1, List.append_assoc]
    exact List.append_cancel_right hrest
  subst hsplit
  refine ⟨⟨t, hj, ?_, ?_⟩, u, hu, rfl, hl.trans hu.2⟩
  · rw [htaken'.1, List.append_assoc]
  · rw [hoffset]
    exact hj.2

/-- A token that begins at both cursors leads on from behind its first character. -/
theorem behind (h : AgreeTo l l' k k') (hk : k.rest = c :: t) (hk' : k'.rest = c :: t')
    (hlt : l.rest.length < k.rest.length) :
    AgreeTo l l' (k.advance [c] t) (k'.advance [c] t') := by
  obtain ⟨taken, htaken, htaken'⟩ := h
  have htail : ∃ v, taken = c :: v ∧ t = v ++ l.rest := by
    cases taken with
    | nil =>
      rw [htaken.1] at hlt
      exact absurd hlt (Nat.lt_irrefl _)
    | cons d v =>
      obtain ⟨rfl, ht⟩ := List.cons.inj (hk.symm.trans htaken.1)
      exact ⟨v, rfl, ht⟩
  obtain ⟨v, rfl, ht⟩ := htail
  have ht' : t' = v ++ l'.rest := (List.cons.inj (hk'.symm.trans htaken'.1)).2
  refine ⟨v, ⟨ht, ?_⟩, ht', ?_⟩
  · rw [htaken.2, Text.size_cons, ← Nat.add_assoc]
    rfl
  · rw [htaken'.2, Text.size_cons, ← Nat.add_assoc]
    rfl

/-- The same row of characters is skipped. -/
theorem skipWhile (hl : LookAlike l l') (h : AgreeTo l l' k k') (p : Char → Bool)
    (hreach : (k.skipWhile p).Reaches l) : AgreeTo l l' (k.skipWhile p) (k'.skipWhile p) ∧
      k'.rest.takeWhile p = k.rest.takeWhile p := by
  have hrow := Run.maximal_takeWhile p k.rest
  obtain ⟨t', hk', hagree⟩ := h.advance List.takeWhile_append_dropWhile.symm hreach
  have hhead : ∀ c ∈ t'.head?, p c = false := by
    intro c hc
    exact hrow.2 c ((hagree.head?_eq hl).symm.trans hc)
  have htake := Run.takeWhile_append hrow.1 hhead
  have hdrop := Run.dropWhile_append hrow.1 hhead
  rw [← hk'] at htake hdrop
  refine ⟨?_, htake⟩
  rw [Cursor.skipWhile, Cursor.skipWhile, htake, hdrop]
  exact hagree

theorem skipBlanks (hl : LookAlike l l') (h : AgreeTo l l' k k')
    (hreach : k.skipBlanks.Reaches l) : AgreeTo l l' k.skipBlanks k'.skipBlanks :=
  (h.skipWhile hl _ hreach).1

theorem skipChar?_some (h : AgreeTo l l' k k') (hj : Command.skipChar? c k = some j)
    (hreach : j.Reaches l) : ∃ j', Command.skipChar? c k' = some j' ∧ AgreeTo l l' j j' := by
  obtain ⟨t, hrest, rfl⟩ := Command.skipChar?_eq_some_iff.1 hj
  obtain ⟨t', hk', hagree⟩ := h.advance_char hrest hreach
  exact ⟨_, Command.skipChar?_of_cons hk', hagree⟩

theorem skipChar?_none (hl : LookAlike l l') (h : AgreeTo l l' k k')
    (hnone : Command.skipChar? c k = none) : Command.skipChar? c k' = none := by
  rw [Command.skipChar?_eq_none_iff, h.head?_eq hl]
  exact Command.skipChar?_eq_none_iff.1 hnone

theorem endsArrow {append : Bool} (hl : LookAlike l l') (h : AgreeTo l l' k k')
    (harrow : Command.EndsArrow k append j) (hreach : j.Reaches l) :
    ∃ j', Command.EndsArrow k' append j' ∧ AgreeTo l l' j j' := by
  cases harrow with
  | single hnone => exact ⟨k', .single (h.skipChar?_none hl hnone), h⟩
  | double hj =>
    obtain ⟨j', hj', hagree⟩ := h.skipChar?_some hj hreach
    exact ⟨j', .double hj', hagree⟩

end AgreeTo

end Cursor

namespace Command

/-! ### Readers -/

section Readers

variable {o : Options} {terminator : Option Char} {fd : Option Fd} {append first : Bool}
  {place : Nat} {k k' l l' : Cursor} {c : Char} {t t' : Text} {raw : RawToken} {w : List Segment}

theorem readSegments_congr (hl : l.LookAlike l') {inRun : Bool} (h : Cursor.AgreeTo l l' k k')
    (hread : readSegments terminator inRun k = .ok (w, l)) :
    readSegments terminator inRun k' = .ok (w, l') := by
  fun_induction readSegments terminator inRun k generalizing w k' with
  | case1 inRun k hr =>
    obtain ⟨rfl, rfl⟩ := Prod.mk.inj (Except.ok.inj hread)
    have hhead := h.head?_eq hl
    rw [hr, List.head?_nil, List.head?_eq_none_iff] at hhead
    rw [readSegments_of_nil hhead, h.eq_of_eq]
  | case2 inRun k c t hr q hq extent hclosed =>
    rename_i ih
    obtain ⟨v, hv, rfl⟩ := Reading.map_eq_ok_iff.1 hread
    obtain rfl := Quote.ofMark?_eq_some_iff.1 hq
    have hrest : k.rest = q.mark :: extent.taken ++ extent.rest := by
      rw [hr, List.cons_append, Extent.taken_append_rest_toSingle]
    obtain ⟨t', hk', hagree⟩ := h.advance hrest (reaches_of_readSegments hv)
    have hhead : t'.head? ≠ some q.mark :=
      (hagree.head?_eq hl).trans_ne (Extent.head?_rest_toSingle_ne hclosed)
    have hextent : Extent.toSingle q.mark (extent.taken ++ t') = ⟨extent.taken, t', true⟩ :=
      Extent.toSingle_taken_append hclosed hhead
    rw [List.cons_append] at hk'
    rw [readSegments_quotation hk' (by rw [hextent]), hextent, ih hagree hv]
    rfl
  | case3 => cases hread
  | case4 => cases hread
  | case5 inRun k c hq hescape d t hr _ ih =>
    obtain ⟨v, hv, rfl⟩ := Reading.map_eq_ok_iff.1 hread
    obtain ⟨rfl, hescape⟩ := hescape
    obtain ⟨t', hk', hagree⟩ := h.advance (u := ['\\', d]) hr (reaches_of_readSegments hv)
    rw [List.cons_append, List.singleton_append] at hk'
    rw [readSegments_escape hk' hescape, ih hagree hv]
    rfl
  | case6 inRun k c t hr hq hescape hword ih =>
    obtain ⟨v, hv, rfl⟩ := Reading.map_eq_ok_iff.1 hread
    obtain ⟨t', hk', hagree⟩ := h.advance_char hr (reaches_of_readSegments hv)
    rw [readSegments_wordChar hk' hq hescape hword, ih hagree hv]
    rfl
  | case7 inRun k c t hr hq hescape hword =>
    obtain ⟨rfl, rfl⟩ := Prod.mk.inj (Except.ok.inj hread)
    have hhead := h.head?_eq hl
    rw [hr, List.head?_cons] at hhead
    obtain ⟨t', hk'⟩ := List.head?_eq_some_iff.1 hhead
    rw [readSegments_stop hk' hq hescape hword, h.eq_of_eq]

theorem digitNext_congr (hl : l.LookAlike l') (h : Cursor.AgreeTo l l' k k') :
    digitNext k' = digitNext k := by
  rw [digitNext, digitNext, h.head?_eq hl]

theorem readNumber_congr (hl : l.LookAlike l') {what : Numbered} {n : UInt32}
    (h : Cursor.AgreeTo l l' k k') (hread : readNumber what k = .ok (n, l)) :
    readNumber what k' = .ok (n, l') := by
  obtain ⟨hsize, rfl, hend⟩ := readNumber_eq_ok_iff.1 hread
  obtain ⟨hagree, hdigits⟩ := h.skipWhile hl Char.isDigit (hend ▸ .refl _)
  rw [← hend] at hagree
  rw [readNumber, hdigits, if_pos hsize, hagree.eq_of_eq]

theorem readDuplicate_congr (hl : l.LookAlike l') (h : Cursor.AgreeTo l l' k k')
    (hread : readDuplicate fd k = .ok (raw, l)) : readDuplicate fd k' = .ok (raw, l') := by
  obtain ⟨hnext, n, hn, hraw⟩ := readDuplicate_eq_ok_iff.1 hread
  have hagree := h.skipBlanks hl (reaches_of_readNumber hn)
  exact readDuplicate_eq_ok_iff.2
    ⟨(digitNext_congr hl hagree).trans hnext, n, readNumber_congr hl hagree hn, hraw⟩

theorem readSession_congr (hl : l.LookAlike l') (h : Cursor.AgreeTo l l' k k')
    (hread : readSession fd append place k = .ok (raw, l)) :
    readSession fd append place k' = .ok (raw, l') := by
  obtain ⟨hfd, hform⟩ := readSession_eq_ok_iff.1 hread
  have hnext := digitNext_congr hl h
  refine readSession_eq_ok_iff.2 ⟨hfd, ?_⟩
  cases hform with
  | numbered hdigit hn hraw => exact .numbered (hnext.trans hdigit) (readNumber_congr hl h hn) hraw
  | current hdigit hraw hk =>
    subst hk
    exact .current (hnext ▸ hdigit) hraw h.eq_of_eq

theorem readTarget_congr (hl : l.LookAlike l') (h : Cursor.AgreeTo l l' k k')
    (hread : readTarget terminator fd append k = .ok (raw, l)) :
    readTarget terminator fd append k' = .ok (raw, l') := by
  obtain ⟨w, hw, rfl⟩ := Reading.map_eq_ok_iff.1 hread
  have hagree := h.skipBlanks hl (reaches_of_readSegments hw)
  rw [readTarget, readSegments_congr hl hagree hw, hagree.offset_eq hl.1]
  rfl

theorem readRedirect_congr (hl : l.LookAlike l') (h : Cursor.AgreeTo l l' k k')
    (hread : readRedirect terminator fd place k = .ok (raw, l)) :
    readRedirect terminator fd place k' = .ok (raw, l') := by
  apply redirectForm_iff.1
  cases redirectForm_iff.2 hread with
  | session harrow hplus hr =>
    have hreach := reaches_of_readSession hr
    obtain ⟨j', harrow', hagree⟩ :=
      h.endsArrow hl harrow ((reaches_of_skipChar? hplus).trans hreach)
    obtain ⟨m', hplus', hagree⟩ := hagree.skipChar?_some hplus hreach
    exact .session harrow' hplus' (readSession_congr hl hagree hr)
  | target harrow hplus hand hr =>
    obtain ⟨j', harrow', hagree⟩ := h.endsArrow hl harrow (reaches_of_readTarget hr)
    exact .target harrow' (hagree.skipChar?_none hl hplus)
      (fun happend => hagree.skipChar?_none hl (hand happend)) (readTarget_congr hl hagree hr)
  | duplicate harrow hand hr =>
    obtain ⟨j', hand', hagree⟩ := h.skipChar?_some hand (reaches_of_readDuplicate hr)
    exact .duplicate (h.skipChar?_none hl harrow) hand' (readDuplicate_congr hl hagree hr)

theorem readPipe_congr (hl : l.LookAlike l') (h : Cursor.AgreeTo l l' k k')
    (hread : readPipe k = .ok (raw, l)) : readPipe k' = .ok (raw, l') := by
  obtain ⟨hne, rfl, rfl⟩ := readPipe_eq_ok_iff.1 hread
  have hagree := h.skipBlanks hl (.advance (List.append_nil _).symm)
  -- nothing stands behind a pipe on either line
  have hnil : l'.rest = [] := List.head?_eq_none_iff.1 hl.2
  obtain ⟨taken, htaken, htaken'⟩ := id hagree
  have hrest : k'.skipBlanks.rest = k.skipBlanks.rest := by
    rw [htaken.1, htaken'.1, hnil]
    rfl
  have hend : l' = k'.skipBlanks.finish := by
    have hfinish : l'.offset = k.skipBlanks.offset + Text.size k.skipBlanks.rest := hl.1
    rw [Cursor.finish, Cursor.advance, hagree.offset_eq hl.1, hrest, ← hfinish, ← hnil]
  exact readPipe_eq_ok_iff.2 ⟨hrest ▸ hne, by rw [hrest], hend⟩

theorem readWord_congr (hl : l.LookAlike l') (h : Cursor.AgreeTo l l' k k')
    (hread : readWord o first k = .ok (w, l)) : readWord o first k' = .ok (w, l') := by
  apply wordForm_iff.1
  cases wordForm_iff.2 hread with
  | kept hk hkeep hr =>
    obtain ⟨v, hv, rfl⟩ := Reading.map_eq_ok_iff.1 hr
    obtain ⟨t', hk', hagree⟩ := h.advance_char hk (reaches_of_readSegments hv)
    refine .kept hk' hkeep ?_
    rw [readSegments_congr hl hagree hv]
    rfl
  | plain hplain hr => exact .plain (h.head?_eq hl ▸ hplain) (readSegments_congr hl h hr)

/-- A token is known from its text and from the character behind it. -/
theorem readToken_congr (hl : l.LookAlike l') (h : Cursor.AgreeTo l l' k k')
    (hk : k.rest = c :: t) (hk' : k'.rest = c :: t')
    (hread : readToken o first k c t = .ok (raw, l)) :
    readToken o first k' c t' = .ok (raw, l') := by
  have hbehind := h.behind hk hk' (length_rest_lt_of_readToken hk hread)
  have hoffset := h.offset_eq hl.1
  have hbegins (h : BeginsWord o c (k.advance [c] t)) : BeginsWord o c (k'.advance [c] t') :=
    { h with no_descriptor := fun hdigit => hbehind.skipChar?_none hl (h.no_descriptor hdigit) }
  apply tokenForm_iff.1
  cases tokenForm_iff.2 hread with
  | terminator hc hr =>
    obtain ⟨rfl, rfl⟩ := Prod.mk.inj (Except.ok.inj hr)
    exact .terminator hc (by rw [hbehind.eq_of_eq])
  | redirect hc harrow hr =>
    exact .redirect hc harrow (hoffset ▸ readRedirect_congr hl hbehind hr)
  | pipe hc hbar hr => exact .pipe hc hbar (readPipe_congr hl hbehind hr)
  | descriptor hc hdigit hj hr =>
    obtain ⟨j', hj', hagree⟩ := hbehind.skipChar?_some hj (reaches_of_readRedirect hr)
    have hplace := hbehind.offset_eq hl.1
    exact .descriptor hc hdigit hj' (hplace ▸ readRedirect_congr hl hagree hr)
  | nothing _ _ hr => cases hr
  | word h' hne hr =>
    obtain ⟨v, hv, rfl⟩ := Reading.map_eq_ok_iff.1 hr
    have hword := readWord_congr hl h hv
    refine .word (hbegins h') (fun m hnil => ?_) (by rw [hword]; rfl)
    obtain ⟨rfl, -⟩ := Prod.mk.inj (Except.ok.inj (hword.symm.trans hnil))
    exact hne l hv

/-- Behind the same blanks the same token is read. Nothing that stands behind a terminator matters. -/
theorem readToken_skipBlanks_congr (hoffset : l'.offset = l.offset)
    (hhead : o.terminator ≠ some c → l'.rest.head? = l.rest.head?) (h : Cursor.AgreeTo l l' k k')
    (hk : k.skipBlanks.rest = c :: t) (hread : readToken o first k.skipBlanks c t = .ok (raw, l)) :
    ∃ t', k'.skipBlanks.rest = c :: t' ∧ k'.skipBlanks.offset = k.skipBlanks.offset ∧
      readToken o first k'.skipBlanks c t' = .ok (raw, l') := by
  by_cases hc : o.terminator = some c
  · rw [readToken, if_pos hc] at hread
    obtain ⟨rfl, rfl⟩ := Prod.mk.inj (Except.ok.inj hread)
    -- the cursors before the terminator look alike, whatever the ones behind it do
    let j' : Cursor := ⟨k.skipBlanks.offset, c :: l'.rest⟩
    have hj : k.skipBlanks.LookAlike j' := ⟨rfl, by rw [hk]; rfl⟩
    have hagree : Cursor.AgreeTo k.skipBlanks j' k k' :=
      (h.split hoffset (Cursor.Takes.refl k).skipBlanks ⟨hk, rfl⟩).1
    have hskip := (hagree.skipBlanks hj (.refl _)).eq_of_eq
    refine ⟨l'.rest, by rw [hskip], by rw [hskip], ?_⟩
    have hend : j'.advance [c] l'.rest = l' := congrArg (Cursor.mk · l'.rest) hoffset.symm
    rw [readToken, if_pos hc, hskip, hend]
  · have hl : l.LookAlike l' := ⟨hoffset, hhead hc⟩
    have hagree := h.skipBlanks hl (reaches_of_readToken hk hread)
    have hnext := hagree.head?_eq hl
    rw [hk, List.head?_cons] at hnext
    obtain ⟨t', hk'⟩ := List.head?_eq_some_iff.1 hnext
    exact ⟨t', hk', hagree.offset_eq hoffset, readToken_congr hl hagree hk hk' hread⟩

end Readers

/-! ### Scanners -/

/-- The token in another line. -/
def Token.within (line : Text) (t : Token) : Token := { t with line }

namespace Scanner

variable {s s' : Scanner} {t : Token} {k' l' : Cursor}

/-- The scanner at a cursor of another line. -/
def moveTo (s : Scanner) (line : Text) (k : Cursor) : Scanner := { s with line, cursor := k }

/-- Before the same text a scanner returns the same token. If the token is no terminator, the
character behind it has to be the same as well. -/
theorem next_moveTo (line : Text) (hoffset : l'.offset = s'.cursor.offset)
    (hhead : t.kind.isTerminator = false → l'.rest.head? = s'.cursor.rest.head?)
    (h : Cursor.AgreeTo s'.cursor l' s.cursor k') (hnext : s.next = (some (.ok t), s')) :
    (s.moveTo line k').next = (some (.ok (t.within line)), s'.moveTo line l') := by
  have hresult : s.next.1 = some (.ok t) := by rw [hnext]
  obtain ⟨hf, c, u, raw, k, hk, hread, hraw, ht, hs'⟩ := exists_of_next_ok hresult
  obtain rfl := (congrArg Prod.snd hnext).symm.trans hs'
  have hhead' : s.options.terminator ≠ some c → l'.rest.head? = k.rest.head? := by
    intro hc
    apply hhead
    rw [Bool.eq_false_iff]
    intro hkind
    cases hterminator : t.kind with
    | terminator d =>
      rw [hterminator] at hraw
      obtain ⟨d, rfl, -⟩ | ⟨command, -, hpipe⟩ := RawToken.eq_of_endsLine hraw rfl
      · exact hc (terminator_of_readToken hread)
      · cases hpipe
    | _ =>
      rw [hterminator] at hkind
      cases hkind
  obtain ⟨u', hk', hplace, hread'⟩ := readToken_skipBlanks_congr hoffset hhead' h hk hread
  have hplace' : (s.moveTo line k').cursor.skipBlanks.offset = s.cursor.skipBlanks.offset := hplace
  rw [next_of_resolve_ok (s := s.moveTo line k') hf hk' hread' hraw, hplace', ht]
  rfl

/-- Without a fault, what a scanner reads leads to where it stops. -/
theorem exists_takes_of_run (s : Scanner) (hfault : s.run.fault = none) :
    ∃ taken, s.cursor.Takes taken s.run.scanner.cursor ∧ (s.run.tokens ≠ [] → taken ≠ []) := by
  fun_induction run s with
  | case1 s s' hnext =>
    have hreach := reaches_next s
    rw [hnext] at hreach
    obtain ⟨taken, htaken⟩ := hreach
    exact ⟨taken, htaken, fun hne => absurd rfl hne⟩
  | case2 => cases hfault
  | case3 s t s' hnext r ih =>
    obtain ⟨taken, htaken, -⟩ := ih hfault
    have hresult : s.next.1 = some (.ok t) := by rw [hnext]
    obtain ⟨blanks, text, -, htext, hspans, -, -⟩ := spans_of_next hresult
    rw [hnext] at hspans
    refine ⟨blanks ++ text ++ taken, ⟨?_, ?_⟩, fun _ => by simp [htext]⟩
    · rw [hspans.1, htaken.1, ← List.append_assoc]
    · rw [htaken.2, hspans.2, Text.size_append (blanks ++ text), Nat.add_assoc]

/-- A scanner that stops behind a terminator reads the same tokens from another cursor before the
same text, and stops behind it, whatever stands there. -/
theorem run_moveTo (line : Text) (hfault : s.run.fault = none)
    (hend : ∃ t ∈ s.run.tokens, t.kind.isTerminator = true)
    (hoffset : l'.offset = s.run.scanner.cursor.offset)
    (h : Cursor.AgreeTo s.run.scanner.cursor l' s.cursor k') :
    (s.moveTo line k').run =
      ⟨s.run.tokens.map (Token.within line), none, s.run.scanner.moveTo line l'⟩ := by
  fun_induction run s generalizing k' with
  | case1 =>
    obtain ⟨t, ht, -⟩ := hend
    cases ht
  | case2 => cases hfault
  | case3 s t s' hnext r =>
    rename_i ih
    have hresult : s.next.1 = some (.ok t) := by rw [hnext]
    cases hkind : t.kind.isTerminator with
    | true =>
      have hfinished : s'.finished = true := by
        obtain ⟨-, c, u, raw, k, -, -, -, -, hs'⟩ := exists_of_next_ok hresult
        rw [hnext] at hs'
        rw [← hkind]
        exact congrArg Scanner.finished hs'
      have hr : r = ⟨[], none, s'⟩ := run_of_none (next_of_finished hfinished)
      rw [hr] at hoffset h ⊢
      have hmoved := next_moveTo line hoffset (fun hno => by cases hkind.symm.trans hno) h hnext
      have hstop : (s'.moveTo line l').next = (none, s'.moveTo line l') :=
        next_of_finished hfinished
      rw [run_of_ok hmoved, run_of_none hstop]
      rfl
    | false =>
      obtain ⟨u, hu, hterminator⟩ := hend
      have hrest : ∃ u ∈ r.tokens, u.kind.isTerminator = true := by
        obtain rfl | hu := List.mem_cons.1 hu
        · cases hkind.symm.trans hterminator
        · exact ⟨u, hu, hterminator⟩
      obtain ⟨taken, htaken, hne⟩ := exists_takes_of_run s' hfault
      obtain ⟨front, hfront⟩ := reaches_next s
      have hfront : s.cursor.Takes front s'.cursor := by rwa [hnext] at hfront
      obtain ⟨hbefore, hbehind⟩ := h.split hoffset hfront htaken
      have hhead : (taken ++ l'.rest).head? = s'.cursor.rest.head? := by
        obtain ⟨v, hv, -⟩ := hrest
        obtain ⟨c, text, rfl⟩ := List.exists_cons_of_ne_nil (hne (List.ne_nil_of_mem hv))
        rw [htaken.1]
        rfl
      have hmoved : (s.moveTo line k').next = (some (.ok (t.within line)),
          s'.moveTo line ⟨s'.cursor.offset, taken ++ l'.rest⟩) :=
        next_moveTo line rfl (fun _ => hhead) hbefore hnext
      rw [run_of_ok hmoved, ih hfault hrest hoffset hbehind]
      rfl

end Scanner

/-- A line that ends with a terminator is read alike whatever stands behind the terminator, and this
is then left unread. -/
theorem tokenize_append_remainder {o : Options} {line : Text} {ts : List Token}
    (h : tokenize o line = .ok ts) (hend : ∃ t ∈ ts, t.kind.isTerminator = true) :
    ∃ consumed, line = consumed ++ (Scanner.ofLine o line).run.scanner.cursor.rest ∧
      (Scanner.ofLine o line).run.scanner.cursor.offset = Text.size consumed ∧
      ∀ x, tokenize o (consumed ++ x) = .ok (ts.map (Token.within (consumed ++ x))) ∧
        (Scanner.ofLine o (consumed ++ x)).run.scanner.cursor = ⟨Text.size consumed, x⟩ := by
  obtain ⟨hfault, rfl⟩ := run_of_tokenize_eq_ok h
  obtain ⟨consumed, hconsumed, -⟩ := Scanner.exists_takes_of_run _ hfault
  have hoffset : (Scanner.ofLine o line).run.scanner.cursor.offset = Text.size consumed := by
    rw [hconsumed.2]
    exact Nat.zero_add _
  refine ⟨consumed, hconsumed.1, hoffset, fun x => ?_⟩
  have hagree : Cursor.AgreeTo (Scanner.ofLine o line).run.scanner.cursor
      ⟨Text.size consumed, x⟩ (Scanner.ofLine o line).cursor (Cursor.ofText (consumed ++ x)) :=
    ⟨consumed, hconsumed, rfl, (Nat.zero_add _).symm⟩
  have hrun : (Scanner.ofLine o (consumed ++ x)).run = _ :=
    Scanner.run_moveTo (consumed ++ x) hfault hend hoffset.symm hagree
  rw [hrun]
  refine ⟨?_, rfl⟩
  simp only [tokenize, hrun]

theorem tokenize_append_remainder_quoted :
    ∃ (o : Options) (line : Text) (ts : List Token), line = "2>'a' b;c".toList ∧
      tokenize o line = .ok ts ∧ (∃ t ∈ ts, t.kind.isTerminator = true) ∧
      ∃ consumed, line = consumed ++ (Scanner.ofLine o line).run.scanner.cursor.rest ∧
        (Scanner.ofLine o line).run.scanner.cursor.offset = Text.size consumed ∧
        ∀ x, tokenize o (consumed ++ x) = .ok (ts.map (Token.within (consumed ++ x))) ∧
          (Scanner.ofLine o (consumed ++ x)).run.scanner.cursor = ⟨Text.size consumed, x⟩ := by
  let o : Options := { terminator := some ';' }
  let line : Text := "2>'a' b;c".toList
  have hline : tokenize o line =
      .ok [⟨.redirect ⟨2, by decide⟩ ['a'] false, some 0, line⟩, ⟨.word ['b'], some 6, line⟩,
        ⟨.terminator ';', some 7, line⟩] := by
    decide +kernel
  have hend : ∃ t ∈ [⟨.redirect ⟨2, by decide⟩ ['a'] false, some 0, line⟩,
      ⟨.word ['b'], some 6, line⟩, (⟨.terminator ';', some 7, line⟩ : Token)],
      t.kind.isTerminator = true :=
    ⟨⟨.terminator ';', some 7, line⟩, by simp, rfl⟩
  exact ⟨o, line, _, rfl, hline, hend, tokenize_append_remainder hline hend⟩

end Command

end QueryConsole
