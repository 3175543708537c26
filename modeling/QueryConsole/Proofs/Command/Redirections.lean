import QueryConsole.Proofs.Command.Numbers

/-!
# Written redirections

A redirection goes to a file, to a descriptor or to a session. `IsRedirection` lists the ways to
write one and what each means. Wherever a redirection is followed by a blank or by nothing, it is
read as what it means.
-/

namespace QueryConsole.Command

/-- Whether a token directs output. -/
def Token.Kind.isRedirection : Token.Kind → Bool
  | redirect .. | duplicate .. | session .. => true
  | _ => false

/-- The redirections that a line can hold, with the tokens that they mean. -/
inductive IsRedirection (o : Options) : Token.Kind → Text → Prop
  /-- The target is a word that does not come to nothing. -/
  | file {fd : Option Fd} {blanks target : Text} {w : List Segment} {k : Cursor} (append : Bool) :
      o.AdmitsRedirect fd → (∀ b ∈ blanks, Text.isBlank b = true) →
      (blanks ++ target).head? ≠ some '+' →
      readSegments o.terminator false (Cursor.ofText target) = .ok (w, k) → k.rest = [] →
      w.flatMap (Segment.resolve o false) ≠ [] →
      IsRedirection o (.redirect (fd.getD Fd.stdout) (w.flatMap (Segment.resolve o false)) append)
        (descriptorText fd ++ arrow append ++ blanks ++ target)
  | descriptor {fd : Option Fd} {blanks ds : Text} (n : UInt32) :
      o.AdmitsRedirect fd → (∀ b ∈ blanks, Text.isBlank b = true) → ds ≠ [] →
      (∀ d ∈ ds, d.isDigit = true) → decimal ds = n.toNat →
      IsRedirection o (.duplicate (fd.getD Fd.stdout) n)
        (descriptorText fd ++ ['>', '&'] ++ blanks ++ ds)
  | session {ds : Text} (n : UInt32) (append : Bool) :
      o.AdmitsRedirect none → (∀ d ∈ ds, d.isDigit = true) → decimal ds = n.toNat →
      IsRedirection o (.session (if n = 0 then none else some n) append) (arrow append ++ '+' :: ds)

namespace IsRedirection

variable {o : Options} {kind : Token.Kind} {text : Text}

theorem isTerminator_eq (h : IsRedirection o kind text) : kind.isTerminator = false := by
  cases h <;> rfl

theorem word?_eq (h : IsRedirection o kind text) : kind.word? = none := by
  cases h <;> rfl

theorem isRedirection_eq (h : IsRedirection o kind text) : kind.isRedirection = true := by
  cases h <;> rfl

end IsRedirection

section Reading

variable {o : Options} {terminator : Option Char} {inRun first : Bool} {j k l : Cursor}
  {w : List Segment} {kind : Token.Kind} {text rest : Text}

/-- A word that fills a text is read alike before every end of a word. -/
theorem exists_readSegments_append (h : readSegments terminator inRun j = .ok (w, l))
    (hl : l.rest = []) (hrest : AtWordEnd terminator rest) (hk : k.rest = j.rest ++ rest) :
    ∃ k', readSegments terminator inRun k = .ok (w, k') ∧ k'.rest = rest := by
  fun_induction readSegments terminator inRun j generalizing w k with
  | case1 inRun j hr =>
    obtain ⟨rfl, rfl⟩ := Prod.mk.inj (Except.ok.inj h)
    rw [hr, List.nil_append] at hk
    exact ⟨k, readSegments_of_atWordEnd (hk ▸ hrest), hk⟩
  | case2 inRun j c t hr q hq extent hclosed =>
    rename_i ih
    obtain ⟨v, hv, rfl⟩ := Reading.map_eq_ok_iff.1 h
    obtain rfl := Quote.ofMark?_eq_some_iff.1 hq
    have hhead : (extent.rest ++ rest).head? ≠ some q.mark :=
      head?_append_ne (Extent.head?_rest_toSingle_ne hclosed) (hrest.head?_ne q)
    have hextent : Extent.toSingle q.mark (extent.taken ++ (extent.rest ++ rest)) =
        ⟨extent.taken, extent.rest ++ rest, true⟩ :=
      Extent.toSingle_taken_append hclosed hhead
    have hk' : k.rest = q.mark :: (extent.taken ++ (extent.rest ++ rest)) := by
      rw [hk, hr, ← List.append_assoc, Extent.taken_append_rest_toSingle]
      rfl
    obtain ⟨k', hread, hk''⟩ := ih hv
      (k := k.advance (q.mark :: extent.taken) (extent.rest ++ rest)) rfl
    refine ⟨k', ?_, hk''⟩
    rw [readSegments_quotation hk' (by rw [hextent]), hextent, hread]
    rfl
  | case3 => cases h
  | case4 => cases h
  | case5 inRun j c hq hescape d t hr _ ih =>
    obtain ⟨v, hv, rfl⟩ := Reading.map_eq_ok_iff.1 h
    obtain ⟨rfl, hescape⟩ := hescape
    have hk : k.rest = '\\' :: d :: (t ++ rest) := by rw [hk, hr]; rfl
    obtain ⟨k', hread, hk'⟩ := ih hv (k := k.advance ['\\', d] (t ++ rest)) rfl
    exact ⟨k', by rw [readSegments_escape hk hescape, hread]; rfl, hk'⟩
  | case6 inRun j c t hr hq hescape hword ih =>
    obtain ⟨v, hv, rfl⟩ := Reading.map_eq_ok_iff.1 h
    have hk : k.rest = c :: (t ++ rest) := by rw [hk, hr]; rfl
    obtain ⟨k', hread, hk'⟩ := ih hv (k := k.advance [c] (t ++ rest)) rfl
    exact ⟨k', by rw [readSegments_wordChar hk hq hescape hword, hread]; rfl, hk'⟩
  | case7 inRun j c t hr =>
    obtain ⟨rfl, rfl⟩ := Prod.mk.inj (Except.ok.inj h)
    cases hr.symm.trans hl

/-- A word that is read begins with a character of a word. -/
theorem not_atWordEnd_of_readSegments (h : readSegments terminator inRun k = .ok (w, l))
    (hw : w ≠ []) : ¬AtWordEnd terminator k.rest := by
  intro hend
  rw [readSegments_of_atWordEnd hend] at h
  exact hw (Prod.mk.inj (Except.ok.inj h)).1.symm

theorem exists_cons_of_not_atWordEnd (h : ¬AtWordEnd terminator rest) :
    ∃ c t, rest = c :: t ∧ Text.isBlank c = false ∧ c ∉ ['>', '&'] := by
  cases rest with
  | nil => exact absurd nofun h
  | cons c t =>
    refine ⟨c, t, rfl, ?_, ?_⟩
    · rw [Bool.eq_false_iff]
      intro hblank
      have hgap : AtGap (c :: t) := by
        intro d hd
        rwa [← Option.some.inj hd]
      exact h (hgap.atWordEnd terminator)
    · intro hsign
      apply h
      intro d hd
      obtain rfl := Option.some.inj hd
      have hcases : c = '>' ∨ c = '&' := by simpa using hsign
      rcases hcases with rfl | rfl
      · exact ⟨rfl, by decide, by simp [isWordChar]⟩
      · exact ⟨rfl, by decide, by simp [isWordChar]⟩

theorem IsRedirection.reads (h : IsRedirection o kind text) (first : Bool) (hrest : AtGap rest)
    (hk : k.rest = text ++ rest) : Reads o first k kind rest := by
  have hdigits {ds : Text} (hds : ∀ d ∈ ds, d.isDigit = true) : Run.Maximal Char.isDigit ds rest :=
    ⟨hds, (maximal_digits 0 hrest).2⟩
  have hnumber {ds : Text} {n : UInt32} (hn : decimal ds = n.toNat) :
      ofDigits ds < UInt32.size ∧ UInt32.ofNat (ofDigits ds) = n := by
    rw [ofDigits_eq_decimal, hn, UInt32.ofNat_toNat]
    exact ⟨n.toNat_lt, rfl⟩
  cases h with
  | @file fd blanks target w l append ho hblanks hplus hread hl hname =>
    have hw : w ≠ [] := by
      rintro rfl
      exact hname rfl
    have hbegins := exists_cons_of_not_atWordEnd (not_atWordEnd_of_readSegments hread hw)
    obtain ⟨c, t, hct, hblank, hsign⟩ := hbegins
    obtain rfl : target = c :: t := hct
    have hhead : ∀ d ∈ ['>', '&', '+'], (blanks ++ (c :: t ++ rest)).head? ≠ some d := by
      intro d hd hfirst
      cases blanks with
      | nil =>
        obtain rfl : c = d := Option.some.inj hfirst
        simp_all
      | cons b blanks =>
        obtain rfl : b = d := Option.some.inj hfirst
        cases (isBlank_of_mem_signs hd).symm.trans (hblanks b List.mem_cons_self)
    obtain ⟨k', hread', rfl⟩ := exists_readSegments_append hread hl (hrest.atWordEnd _)
      (Cursor.rest_advance k (descriptorText fd ++ arrow append ++ blanks) _)
    rw [List.append_assoc] at hk
    have hnext : ∀ d ∈ (c :: t ++ k'.rest).head?, Text.isBlank d = false := by
      intro d hd
      rwa [← Option.some.inj hd]
    have hraw := readsRaw_file first append ho hblanks hnext hhead hk hread'
    exact hraw.reads (RawToken.resolve_redirect_of_ne hname)
  | descriptor n ho hblanks hne hds hn =>
    obtain ⟨hsize, rfl⟩ := hnumber hn
    exact (readsRaw_duplicate first ho hblanks hne (hdigits hds) hk).reads_number (hdigits hds)
      hsize rfl
  | session n append ho hds hn =>
    obtain ⟨hsize, rfl⟩ := hnumber hn
    exact (readsRaw_session first ho (hdigits hds) hk).reads_number (hdigits hds) hsize rfl

theorem IsRedirection.exists_cons (h : IsRedirection o kind text) :
    ∃ c t, text = c :: t ∧ Text.isBlank c = false := by
  obtain ⟨c, t, -, -, htext, hblank, -⟩ :=
    h.reads (k := Cursor.ofText text) true (show AtGap [] from nofun) (List.append_nil text).symm
  exact ⟨c, t, htext, hblank⟩

/-! ### What is read as a redirection -/

theorem exists_digits_of_readNumber {what : Numbered} {n : UInt32}
    (h : readNumber what k = .ok (n, l)) :
    ∃ ds, Run.Maximal Char.isDigit ds l.rest ∧ k.rest = ds ++ l.rest ∧ decimal ds = n.toNat := by
  obtain ⟨hsize, rfl, rfl⟩ := readNumber_eq_ok_iff.1 h
  refine ⟨_, Run.maximal_takeWhile Char.isDigit k.rest, List.takeWhile_append_dropWhile.symm, ?_⟩
  rw [← ofDigits_eq_decimal]
  exact (UInt32.toNat_ofNat_of_lt hsize).symm

variable {fd : Option Fd} {place : Nat} {raw : RawToken}

theorem IsRedirection.of_readDuplicate (ho : o.AdmitsRedirect fd)
    (h : readDuplicate fd k = .ok (raw, l)) (hl : l.rest = []) (hraw : raw.resolve o = .ok kind) :
    IsRedirection o kind (descriptorText fd ++ ['>', '&'] ++ k.rest) := by
  obtain ⟨hnext, n, hn, rfl⟩ := readDuplicate_eq_ok_iff.1 h
  obtain rfl := Except.ok.inj hraw
  obtain ⟨ds, hds, hk, hvalue⟩ := exists_digits_of_readNumber hn
  rw [hl, List.append_nil] at hk
  have hne : ds ≠ [] := by
    rintro rfl
    rw [digitNext, hk] at hnext
    cases hnext
  rw [← rest_eq_blanks_append k, hk, ← List.append_assoc]
  exact .descriptor n ho (Run.maximal_takeWhile _ _).1 hne hds.1 hvalue

theorem IsRedirection.of_readSession {append : Bool} (ho : o.AdmitsRedirect fd)
    (h : readSession fd append place k = .ok (raw, l)) (hl : l.rest = [])
    (hraw : raw.resolve o = .ok kind) :
    IsRedirection o kind (descriptorText fd ++ arrow append ++ '+' :: k.rest) := by
  cases fd with
  | some n => cases h
  | none =>
    rw [readSession_of_maximal append place (Run.maximal_takeWhile _ k.rest)
      List.takeWhile_append_dropWhile.symm] at h
    obtain ⟨n, hn, rfl⟩ := Reading.map_eq_ok_iff.1 h
    obtain rfl := Except.ok.inj hraw
    obtain ⟨ds, hds, hk, hvalue⟩ := exists_digits_of_readNumber hn
    rw [hl, List.append_nil] at hk
    rw [hk]
    exact .session n append ho hds.1 hvalue

theorem IsRedirection.of_readTarget {append : Bool} (ho : o.AdmitsRedirect fd)
    (hplus : k.rest.head? ≠ some '+') (h : readTarget o.terminator fd append k = .ok (raw, l))
    (hl : l.rest = []) (hraw : raw.resolve o = .ok kind) :
    IsRedirection o kind (descriptorText fd ++ arrow append ++ k.rest) := by
  obtain ⟨w, hw, rfl⟩ := Reading.map_eq_ok_iff.1 h
  have hname : w.flatMap (Segment.resolve o false) ≠ [] := by
    intro hnone
    cases (RawToken.resolve_redirect_of_eq hnone).symm.trans hraw
  obtain rfl := Except.ok.inj ((RawToken.resolve_redirect_of_ne hname).symm.trans hraw)
  have hend : AtWordEnd o.terminator [] := nofun
  obtain ⟨k', hread, hk'⟩ := exists_readSegments_append (k := Cursor.ofText k.skipBlanks.rest)
    hw hl hend (List.append_nil _).symm
  have hblanks := Run.maximal_takeWhile Text.isBlank k.rest
  rw [← rest_eq_blanks_append k] at hplus ⊢
  rw [← List.append_assoc]
  exact .file append ho hblanks.1 hplus hread hk' hname

theorem IsRedirection.of_readRedirect (ho : o.AdmitsRedirect fd)
    (h : readRedirect o.terminator fd place k = .ok (raw, l)) (hl : l.rest = [])
    (hraw : raw.resolve o = .ok kind) :
    IsRedirection o kind (descriptorText fd ++ '>' :: k.rest) := by
  cases redirectForm_iff.2 h with
  | session harrow hplus hr =>
    have hwritten := of_readSession ho hr hl hraw
    rw [harrow.rest_eq, rest_of_skipChar? hplus]
    rwa [arrow_eq_cons, List.append_assoc, List.cons_append] at hwritten
  | target harrow hplus _ hr =>
    have hwritten := of_readTarget ho (skipChar?_eq_none_iff.1 hplus) hr hl hraw
    rw [harrow.rest_eq]
    rwa [arrow_eq_cons, List.append_assoc, List.cons_append] at hwritten
  | duplicate _ hand hr =>
    rw [rest_of_skipChar? hand]
    simpa using of_readDuplicate ho hr hl hraw

theorem IsRedirection.of_readToken {c : Char} {t : Text}
    (h : readToken o first (Cursor.ofText (c :: t)) c t = .ok (raw, l)) (hl : l.rest = [])
    (hraw : raw.resolve o = .ok kind) (hkind : kind.isRedirection = true) :
    IsRedirection o kind (c :: t) := by
  cases tokenForm_iff.2 h with
  | terminator _ hr =>
    obtain ⟨rfl, -⟩ := Prod.mk.inj (Except.ok.inj hr)
    obtain rfl := Except.ok.inj hraw
    cases hkind
  | redirect hterminator harrow hr =>
    obtain rfl := harrow
    have ho : o.AdmitsRedirect none := fun d hd => Option.some.inj hd ▸ hterminator
    exact of_readRedirect ho hr hl hraw
  | pipe _ _ hr =>
    obtain ⟨-, rfl, -⟩ := readPipe_eq_ok_iff.1 hr
    obtain rfl := Except.ok.inj hraw
    cases hkind
  | @descriptor m hterminator hdigit hm hr =>
    obtain ⟨n, hn, rfl⟩ := exists_fd_of_isDigit hdigit
    have htext := descriptorText_some n
    have ho : o.AdmitsRedirect (some n) := by
      intro d hd
      rw [htext] at hd
      rwa [← Option.some.inj hd]
    have ht : t = '>' :: m.rest := rest_of_skipChar? hm
    rw [hn] at hr
    have hwritten := of_readRedirect ho hr hl hraw
    rwa [htext, ← ht] at hwritten
  | nothing _ _ hr => cases hr
  | word _ _ hr =>
    obtain ⟨w, -, rfl⟩ := Reading.map_eq_ok_iff.1 hr
    obtain rfl := Except.ok.inj hraw
    cases hkind

/-- Every text that is read as a redirection is written in one of these ways. -/
theorem isRedirection_iff (first : Bool) : IsRedirection o kind text ↔
    kind.isRedirection = true ∧ Reads o first (Cursor.ofText text) kind [] := by
  constructor
  · intro h
    exact ⟨h.isRedirection_eq, h.reads first nofun (List.append_nil text).symm⟩
  · rintro ⟨hkind, c, t, raw, l, hk, -, hread, hl, hraw⟩
    obtain rfl : text = c :: t := hk
    exact .of_readToken hread hl hraw hkind

end Reading

end QueryConsole.Command
