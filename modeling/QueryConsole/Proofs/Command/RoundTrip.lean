import QueryConsole.Proofs.Command.Reading

/-!
# Written command lines are read back

Tokens that are written and read again are the same tokens, under all options whose terminator
cannot be mistaken for another part of a line. Not every list of tokens is a command line: a
terminator or a pipe ends one, a pipe has a command and a redirection a target. The lists with
these properties are exactly what reading a line gives.
-/

namespace QueryConsole.Command

/-- Whether the terminator can be mistaken for nothing that words are written with, and begins no
other token. -/
def Options.IsSeparable (o : Options) : Prop :=
  ∀ c ∈ o.terminator, Text.isBlank c = false ∧ isPlain c = false ∧ c ∉ ['\'', '>', '|']

namespace Token.Kind

/-- Whether a line can have such a token, when `terminator` ends it. -/
def IsCanonical (terminator : Option Char) : Kind → Prop
  | word _ => True
  | .terminator c => terminator = some c
  | pipe command => command ≠ [] ∧ ∀ c ∈ command.head?, Text.isBlank c = false
  | redirect _ target _ => target ≠ []
  | duplicate _ _ => True
  | session id _ => ∀ n ∈ id, 0 < n

/-- Whether nothing can follow such a token. -/
def endsLine : Kind → Bool
  | terminator _ | pipe _ => true
  | _ => false

end Token.Kind

/-- Whether a line can have these tokens. -/
def IsCanonical (terminator : Option Char) (ks : List Token.Kind) : Prop :=
  (∀ k ∈ ks, k.IsCanonical terminator) ∧ ∀ k ∈ ks.dropLast, k.endsLine = false

theorem isCanonical_nil (terminator : Option Char) : IsCanonical terminator [] :=
  ⟨by simp, by simp⟩

theorem isCanonical_cons_iff {terminator : Option Char} {k : Token.Kind} {ks : List Token.Kind} :
    IsCanonical terminator (k :: ks) ↔
      k.IsCanonical terminator ∧ (k.endsLine = true → ks = []) ∧ IsCanonical terminator ks := by
  cases ks with
  | nil => simp [IsCanonical]
  | cons l ks =>
    simp only [IsCanonical, List.forall_mem_cons, List.dropLast_cons_cons, reduceCtorEq, imp_false,
      Bool.not_eq_true]
    constructor
    · rintro ⟨⟨hk, hl, hks⟩, hends, hdrop⟩
      exact ⟨hk, hends, ⟨hl, hks⟩, hdrop⟩
    · rintro ⟨hk, hends, ⟨hl, hks⟩, hdrop⟩
      exact ⟨⟨hk, hl, hks⟩, hends, hdrop⟩

/-! ### Reading what is written -/

section Reads

variable {o : Options} {first : Bool} {k : Cursor} {rest : Text}

theorem Options.IsSeparable.isPlain_eq_false (ho : o.IsSeparable) :
    ∀ c ∈ o.terminator, isPlain c = false := by
  intro c hc
  obtain ⟨-, hplain, -⟩ := ho c hc
  exact hplain

theorem Options.IsSeparable.ne {c : Char} (ho : o.IsSeparable)
    (hc : isPlain c = true ∨ c ∈ ['\'', '>', '|']) : o.terminator ≠ some c := by
  intro ht
  obtain ⟨-, hplain, hmark⟩ := ho c ht
  rcases hc with hc | hc
  · exact ne_of_isPlain hc hplain rfl
  · exact hmark hc

theorem head?_ne_of_atGap {c : Char} (h : AtGap rest) (hc : Text.isBlank c = false) :
    rest.head? ≠ some c := by
  intro hr
  cases hc.symm.trans (h c hr)

theorem head?_append_ne {t : Text} {c : Char} (ht : t.head? ≠ some c)
    (hrest : rest.head? ≠ some c) : (t ++ rest).head? ≠ some c := by
  cases t with
  | nil => exact hrest
  | cons d t => exact ht

/-- The terminator is no part of the written word: not one of the characters of a word that is
written as it is, and not the mark of a word that is written between quotes. -/
def Options.Spares (o : Options) (w : Text) : Prop :=
  ∀ c ∈ o.terminator, if quoteWord w = w then c ∉ w else c ≠ '\''

theorem Options.IsSeparable.spares (ho : o.IsSeparable) (w : Text) : o.Spares w := by
  intro c hc
  split
  · next hw =>
    intro hmem
    have hplain := (isWritten_quoteWord w).isPlain_of_mem hw hmem
    exact ne_of_isPlain hplain (ho.isPlain_eq_false c hc) rfl
  · rintro rfl
    exact ho.ne (.inr (by decide)) hc

/-- A terminator that spares a word does not stand at its front. -/
theorem Options.Spares.head?_ne {w : Text} (h : o.Spares w) {c : Char}
    (hc : (quoteWord w).head? = some c) : o.terminator ≠ some c := by
  intro hterminator
  have hspares := h c hterminator
  split at hspares
  · next hw =>
    rw [hw] at hc
    exact hspares (List.mem_of_head? hc)
  · next hw =>
    unfold quoteWord at hc hw
    split at hc
    · next hplain => exact hw (if_pos hplain)
    · exact hspares (Option.some.inj hc).symm

theorem reads_word {w : Text} (hw : o.Spares w) (hk : k.rest = quoteWord w ++ rest)
    (hrest : AtWordEnd o.terminator rest) (harrow : rest.head? ≠ some '>') :
    Reads o first k (.word w) rest := by
  have hwritten := isWritten_quoteWord w
  have hplain : ∀ c ∈ o.terminator, quoteWord w = w → c ∉ w := by
    intro c hc hquote
    have hspares := hw c hc
    rwa [if_pos hquote] at hspares
  obtain ⟨c, t, htext, hc⟩ := hwritten.exists_cons
  obtain ⟨segs, k', hread, hk', hne, hresolve⟩ := hwritten.readSegments false hk hplain hrest
  have hterminator : o.terminator ≠ some c := hw.head?_ne (by rw [htext, List.head?_cons])
  rw [htext, List.cons_append] at hk
  have hordinary : c ≠ '>' ∧ c ≠ '|' ∧ c ≠ '\\' ∧ Text.isBlank c = false := by
    rcases hc with rfl | ⟨hc, -⟩
    · exact ⟨by decide, by decide, by decide, by decide⟩
    · exact ⟨ne_of_isPlain hc (isPlain_eq_false _ (by decide)),
        ne_of_isPlain hc (isPlain_eq_false _ (by decide)),
        ne_of_isPlain hc (isPlain_eq_false _ (by decide)), isBlank_of_isPlain hc⟩
  obtain ⟨harrow', hpipe, hescape, hblank⟩ := hordinary
  -- a word of one digit is not read as a descriptor, since no arrow follows
  have hdescriptor (hdigit : c.isDigit = true) : (t ++ rest).head? ≠ some '>' := by
    rcases hc with rfl | ⟨-, ht⟩
    · cases hdigit
    · refine head?_append_ne ?_ harrow
      intro hhead
      exact ne_of_isPlain (ht '>' (List.mem_of_head? hhead)) (isPlain_eq_false _ (by decide)) rfl
  refine ⟨c, t ++ rest, .word segs, k', hk, hblank, ?_, hk', ?_⟩
  · exact readToken_word hterminator harrow' hpipe hdescriptor
      ((readWord_of_ne hk hescape).trans hread) hne
  · rw [RawToken.resolve, hresolve]

theorem Options.IsSeparable.admitsRedirect (ho : o.IsSeparable) (fd : Option Fd) :
    o.AdmitsRedirect fd := by
  intro c hc
  cases fd with
  | none => exact ho.ne (.inr (by rw [← Option.some.inj hc]; decide))
  | some n =>
    rw [descriptorText_some] at hc
    exact ho.ne (.inl (Option.some.inj hc ▸ (digitChar_fd n).1))

theorem reads_redirect (ho : o.IsSeparable) (fd : Fd) {target : Text} (append : Bool)
    (htarget : target ≠ []) (hrest : AtGap rest)
    (hk : k.rest = digits fd ++ arrow append ++ quoteTarget target ++ rest) :
    Reads o first k (.redirect fd target append) rest := by
  have hwritten := isWritten_quoteTarget target
  have hhead : ∀ c ∈ ['>', '&', '+'], (quoteTarget target ++ rest).head? ≠ some c := by
    intro c hc
    refine head?_append_ne ?_ (head?_ne_of_atGap hrest (isBlank_of_mem_signs hc))
    rcases List.mem_cons.1 hc with rfl | hc
    · exact hwritten.head?_ne (isPlain_eq_false _ (by decide)) (by decide)
    · rcases List.mem_cons.1 hc with rfl | hc
      · exact hwritten.head?_ne (isPlain_eq_false _ (by decide)) (by decide)
      · rw [List.mem_singleton.1 hc]
        exact head?_quoteTarget_ne target
  have hblank : ∀ c ∈ (quoteTarget target ++ rest).head?, Text.isBlank c = false := by
    obtain ⟨c, t, ht, hc⟩ := hwritten.exists_cons
    rw [ht]
    intro d hd
    obtain rfl := Option.some.inj hd
    rcases hc with rfl | ⟨hc, -⟩
    · decide
    · exact isBlank_of_isPlain hc
  have hplain : ∀ c ∈ o.terminator, quoteTarget target = target → c ∉ target := by
    intro c hc hquote hmem
    exact ne_of_isPlain (hwritten.isPlain_of_mem hquote hmem) (ho.isPlain_eq_false c hc) rfl
  have hk' : k.rest =
      descriptorText (some fd) ++ arrow append ++ [] ++ (quoteTarget target ++ rest) := by
    rw [List.append_nil, ← List.append_assoc]
    exact hk
  obtain ⟨segs, k', hread, rfl, -, hresolve⟩ := hwritten.readSegments false
    (Cursor.rest_advance k (descriptorText (some fd) ++ arrow append ++ []) _) hplain
    (hrest.atWordEnd _)
  have hraw := readsRaw_file first append (ho.admitsRedirect _) (List.forall_mem_nil _) hblank hhead
    hk' hread
  have hname : segs.flatMap (Segment.resolve o false) ≠ [] := by rwa [hresolve]
  have hreads := hraw.reads (RawToken.resolve_redirect_of_ne hname)
  rwa [hresolve] at hreads

theorem reads_duplicate (ho : o.IsSeparable) (old : Fd) (new : UInt32) (hrest : AtGap rest)
    (hk : k.rest = digits old ++ ['>', '&'] ++ digits new.toNat ++ rest) :
    Reads o first k (.duplicate old new) rest := by
  have hds := maximal_digits new.toNat hrest
  have hk' : k.rest =
      descriptorText (some old) ++ ['>', '&'] ++ [] ++ digits new.toNat ++ rest := by
    rw [List.append_nil]
    exact hk
  have hraw := readsRaw_duplicate first (ho.admitsRedirect _) (by simp) (digits_ne_nil _) hds hk'
  refine hraw.reads_number hds ?_ ?_
  · rw [ofDigits_digits]
    exact new.toNat_lt
  · rw [ofDigits_digits, UInt32.ofNat_toNat]
    rfl

theorem reads_session (ho : o.IsSeparable) {id : Option UInt32} (append : Bool)
    (hid : ∀ n ∈ id, 0 < n) (hrest : AtGap rest)
    (hk : k.rest = arrow append ++ '+' :: (id.map fun n => digits n.toNat).getD [] ++ rest) :
    Reads o first k (.session id append) rest := by
  cases id with
  | none =>
    have hds : Run.Maximal Char.isDigit [] rest := ⟨nofun, (maximal_digits 0 hrest).2⟩
    exact (readsRaw_session first (ho.admitsRedirect none) hds hk).reads_number hds (by decide) rfl
  | some n =>
    have hds := maximal_digits n.toNat hrest
    have hn : n ≠ 0 := by
      rintro rfl
      exact absurd (hid 0 rfl) (by decide)
    refine (readsRaw_session first (ho.admitsRedirect none) hds hk).reads_number hds ?_ ?_
    · rw [ofDigits_digits]
      exact n.toNat_lt
    · rw [ofDigits_digits, UInt32.ofNat_toNat, if_neg hn]
      rfl

theorem reads_pipe (ho : o.IsSeparable) {command : Text} (hne : command ≠ [])
    (hhead : ∀ c ∈ command.head?, Text.isBlank c = false) (hk : k.rest = '|' :: ' ' :: command) :
    Reads o first k (.pipe command) [] := by
  have hskip : (k.advance ['|'] (' ' :: command)).skipBlanks.rest = command :=
    Run.dropWhile_append (w := [' ']) (List.forall_mem_singleton.2 (by decide)) hhead
  have hterminator := ho.ne (c := '|') (.inr (by decide))
  refine ⟨'|', ' ' :: command, .pipe command,
    (k.advance ['|'] (' ' :: command)).skipBlanks.finish, hk, by decide, ?_, rfl, rfl⟩
  simp [readToken, hterminator, readPipe, hskip, hne]

/-- A token that is written is read to its end. -/
theorem reads_render (ho : o.IsSeparable) {kind : Token.Kind}
    (hkind : kind.IsCanonical o.terminator) (hrest : AtGap rest)
    (hends : kind.endsLine = true → rest = []) (hk : k.rest = kind.render ++ rest) :
    Reads o first k kind rest := by
  cases kind with
  | word w =>
    exact reads_word (ho.spares w) hk (hrest.atWordEnd _) (head?_ne_of_atGap hrest (by decide))
  | terminator c => exact reads_terminator hkind (ho c hkind).1 hk
  | pipe command =>
    obtain rfl := hends rfl
    rw [List.append_nil] at hk
    exact reads_pipe ho hkind.1 hkind.2 hk
  | redirect fd target append => exact reads_redirect ho fd append hkind hrest hk
  | duplicate old new => exact reads_duplicate ho old new hrest hk
  | session id append => exact reads_session ho append hkind hrest hk

end Reads

/-! ### Scanning a written line -/

/-- Behind a written token there is either nothing or a space and the tokens that follow. -/
theorem exists_render_cons (kind : Token.Kind) (ks : List Token.Kind) :
    ∃ sep, render (kind :: ks) = kind.render ++ (sep ++ render ks) ∧
      (∀ c ∈ sep, Text.isBlank c = true) ∧ AtGap (sep ++ render ks) ∧
      (ks = [] → sep ++ render ks = []) := by
  cases ks with
  | nil => exact ⟨[], by simp [render], by simp, by simp [AtGap, render], by simp [render]⟩
  | cons l ks =>
    have hblank : Text.isBlank ' ' = true := by decide
    exact ⟨[' '], by simp [render], by simpa using hblank, by simpa [AtGap] using hblank, by simp⟩

namespace Scanner

/-- A scanner that has written tokens ahead reads them. -/
theorem run_render {ks : List Token.Kind} {s : Scanner} (ho : s.options.IsSeparable)
    (hks : IsCanonical s.options.terminator ks) (hf : s.finished = true → ks = []) (sep : Text)
    (hsep : ∀ c ∈ sep, Text.isBlank c = true) (hs : s.cursor.rest = sep ++ render ks) :
    s.run.fault = none ∧ s.run.tokens.map Token.kind = ks := by
  induction ks generalizing s sep with
  | nil =>
    have hblank : ∀ c ∈ s.cursor.rest, Text.isBlank c = true := by simpa [hs, render] using hsep
    obtain ⟨s', hnext⟩ := exists_next_eq_none (.inr hblank)
    rw [run_of_none hnext]
    exact ⟨rfl, rfl⟩
  | cons kind ks ih =>
    obtain ⟨hkind, hends, hks⟩ := isCanonical_cons_iff.1 hks
    obtain ⟨sep', hrender, hsep', hgap, hnil⟩ := exists_render_cons kind ks
    have hfinished : s.finished = false := by
      cases hfinished : s.finished with
      | false => rfl
      | true => cases hf hfinished
    have hreads {k : Cursor} (hk : k.rest = kind.render ++ (sep' ++ render ks)) :
        Reads s.options (!s.started) k kind (sep' ++ render ks) := by
      apply reads_render ho hkind hgap _ hk
      intro h
      exact hnil (hends h)
    have hskip : s.cursor.skipBlanks.rest = kind.render ++ (sep' ++ render ks) := by
      obtain ⟨c, t, -, -, htext, hblank, -⟩ := hreads (k := ⟨0, _⟩) rfl
      rw [hrender] at hs
      change s.cursor.rest.dropWhile Text.isBlank = _
      rw [hs, Run.dropWhile_append hsep]
      intro d hd
      rw [show kind.render ++ (sep' ++ render ks) = c :: t from htext] at hd
      exact Option.some.inj hd ▸ hblank
    obtain ⟨t, s', hnext, hkind', hrest, hoptions, hfinished', -⟩ :=
      next_of_reads hfinished (hreads hskip)
    have hf' : s'.finished = true → ks = [] := by
      intro h
      refine hends ?_
      rw [hfinished'] at h
      cases kind <;> first | rfl | cases h
    obtain ⟨hfault, htokens⟩ := ih (s := s') (hoptions ▸ ho) (hoptions ▸ hks) hf' sep' hsep' hrest
    rw [run_of_ok hnext]
    exact ⟨hfault, by rw [List.map_cons, htokens, hkind']⟩

end Scanner

theorem tokenize_render {o : Options} (ho : o.IsSeparable) {ks : List Token.Kind}
    (hks : IsCanonical o.terminator ks) :
    (tokenize o (render ks)).map (·.map Token.kind) = .ok ks := by
  obtain ⟨hfault, htokens⟩ := Scanner.run_render (s := Scanner.ofLine o (render ks)) ho hks
    (fun h => by cases h) [] (by simp) rfl
  simp only [tokenize, hfault, Except.map, htokens]

/-! ### What reading a line gives -/

/-- What holds of a raw token that was read up to the cursor `k`. -/
def RawToken.IsCanonical (terminator : Option Char) (k : Cursor) : RawToken → Prop
  | .terminator c => terminator = some c
  | pipe command => command ≠ [] ∧ (∀ c ∈ command.head?, Text.isBlank c = false) ∧ k.rest = []
  | session id _ => ∀ n ∈ id, 0 < n
  | word _ | redirect .. | duplicate .. => True

section Canonical

variable {o : Options} {k k' : Cursor} {raw : RawToken}

theorem isCanonical_of_readSession {fd : Option Fd} {append : Bool} {place : Nat}
    (h : readSession fd append place k = .ok (raw, k')) : raw.IsCanonical o.terminator k' := by
  obtain ⟨-, hform⟩ := readSession_eq_ok_iff.1 h
  cases hform with
  | numbered _ _ hraw =>
    subst hraw
    intro m hm
    split at hm
    · cases hm
    · next hn =>
      obtain rfl := Option.some.inj hm
      exact UInt32.pos_iff_ne_zero.2 hn
  | current _ hraw _ =>
    subst hraw
    intro m hm
    cases hm

theorem isCanonical_of_readRedirect {fd : Option Fd} {place : Nat}
    (h : readRedirect o.terminator fd place k = .ok (raw, k')) :
    raw.IsCanonical o.terminator k' := by
  cases redirectForm_iff.2 h with
  | session _ _ hr => exact isCanonical_of_readSession hr
  | target _ _ _ hr =>
    obtain ⟨w, -, rfl⟩ := Reading.map_eq_ok_iff.1 hr
    trivial
  | duplicate _ _ hr =>
    obtain ⟨-, n, -, rfl⟩ := readDuplicate_eq_ok_iff.1 hr
    trivial

theorem isCanonical_of_readPipe (h : readPipe k = .ok (raw, k')) :
    raw.IsCanonical o.terminator k' := by
  obtain ⟨hne, rfl, rfl⟩ := readPipe_eq_ok_iff.1 h
  exact ⟨hne, Run.head?_dropWhile Text.isBlank k.rest, rfl⟩

theorem isCanonical_of_readToken {first : Bool} {c : Char} {t : Text}
    (h : readToken o first k c t = .ok (raw, k')) : raw.IsCanonical o.terminator k' := by
  cases tokenForm_iff.2 h with
  | terminator hc hr =>
    obtain ⟨rfl, rfl⟩ := Prod.mk.inj (Except.ok.inj hr)
    exact hc
  | redirect _ _ hr => exact isCanonical_of_readRedirect hr
  | pipe _ _ hr => exact isCanonical_of_readPipe hr
  | descriptor _ _ _ hr => exact isCanonical_of_readRedirect hr
  | nothing _ _ hr => cases hr
  | word _ _ hr =>
    obtain ⟨w, -, rfl⟩ := Reading.map_eq_ok_iff.1 hr
    trivial

/-- Resolving keeps what holds of a raw token, and gives no redirection without a target. -/
theorem RawToken.IsCanonical.resolve {kind : Token.Kind} (h : raw.IsCanonical o.terminator k')
    (hkind : raw.resolve o = .ok kind) : kind.IsCanonical o.terminator ∧
      (kind.endsLine = true → kind.isTerminator = true ∨ k'.rest = []) := by
  cases raw with
  | word w =>
    obtain rfl := Except.ok.inj hkind
    exact ⟨trivial, by simp [Token.Kind.endsLine]⟩
  | terminator c =>
    obtain rfl := Except.ok.inj hkind
    exact ⟨h, fun _ => .inl rfl⟩
  | pipe command =>
    obtain rfl := Except.ok.inj hkind
    exact ⟨⟨h.1, h.2.1⟩, fun _ => .inr h.2.2⟩
  | redirect fd target append place =>
    simp only [RawToken.resolve] at hkind
    split at hkind
    · cases hkind
    · next hne =>
      obtain rfl := Except.ok.inj hkind
      exact ⟨hne, by simp [Token.Kind.endsLine]⟩
  | duplicate old new =>
    obtain rfl := Except.ok.inj hkind
    exact ⟨trivial, by simp [Token.Kind.endsLine]⟩
  | session id append =>
    obtain rfl := Except.ok.inj hkind
    exact ⟨h, by simp [Token.Kind.endsLine]⟩

namespace Scanner

variable {s s' : Scanner} {t : Token}

theorem isCanonical_of_next (h : s.next = (some (.ok t), s')) :
    t.kind.IsCanonical s.options.terminator ∧ s'.options = s.options ∧
      (t.kind.endsLine = true → s'.finished = true ∨ s'.cursor.rest = []) := by
  unfold next at h
  split at h
  · cases h
  · dsimp only at h
    split at h
    · cases h
    · split at h
      · cases h
      · next raw k' hraw =>
        split at h
        · cases h
        · next kind hkind =>
          obtain ⟨ht, rfl⟩ := Prod.mk.inj h
          obtain rfl := Except.ok.inj (Option.some.inj ht)
          obtain ⟨hcanonical, hends⟩ := (isCanonical_of_readToken hraw).resolve hkind
          exact ⟨hcanonical, rfl, hends⟩

theorem isCanonical_of_run (s : Scanner) :
    IsCanonical s.options.terminator (s.run.tokens.map Token.kind) := by
  fun_induction run s with
  | case1 => exact isCanonical_nil _
  | case2 => exact isCanonical_nil _
  | case3 s t s' hnext r ih =>
    obtain ⟨hkind, hoptions, hends⟩ := isCanonical_of_next hnext
    refine isCanonical_cons_iff.2 ⟨hkind, ?_, hoptions ▸ ih⟩
    intro h
    obtain ⟨s'', hstop⟩ :=
      exists_next_eq_none ((hends h).imp_right fun hrest => by simp [hrest])
    simp [r, run_of_none hstop]

end Scanner

end Canonical

theorem isCanonical_of_tokenize {o : Options} {line : Text} {ts : List Token}
    (h : tokenize o line = .ok ts) : IsCanonical o.terminator (ts.map Token.kind) := by
  obtain ⟨-, rfl⟩ := run_of_tokenize_eq_ok h
  exact (Scanner.ofLine o line).isCanonical_of_run

/-- Lists of tokens that a line can have are read back from what is written, and every line that
can be read has such tokens. -/
theorem tokenize_roundTrip (o : Options) (ho : o.IsSeparable) :
    (∀ ks, IsCanonical o.terminator ks →
      (tokenize o (render ks)).map (·.map Token.kind) = .ok ks) ∧
    ∀ line ts, tokenize o line = .ok ts → IsCanonical o.terminator (ts.map Token.kind) ∧
      (tokenize o (render (ts.map Token.kind))).map (·.map Token.kind) =
        .ok (ts.map Token.kind) := by
  constructor
  · intro ks hks
    exact tokenize_render ho hks
  · intro line ts h
    have hks := isCanonical_of_tokenize h
    exact ⟨hks, tokenize_render ho hks⟩

theorem tokenize_roundTrip_semicolon :
    ∃ o : Options, o.terminator = some ';' ∧ o.IsSeparable ∧
      IsCanonical o.terminator [.word "$a".toList, .terminator ';'] ∧
      (tokenize o (render [.word "$a".toList, .terminator ';'])).map (·.map Token.kind) =
        .ok [.word "$a".toList, .terminator ';'] ∧
      ∃ ts, tokenize o "ls >b".toList = .ok ts ∧ IsCanonical o.terminator (ts.map Token.kind) ∧
        (tokenize o (render (ts.map Token.kind))).map (·.map Token.kind) =
          .ok (ts.map Token.kind) := by
  let o : Options := { terminator := some ';', lookup := some fun _ => none }
  have ho : o.IsSeparable := by
    intro c hc
    obtain rfl := Option.some.inj hc
    exact ⟨by decide, by decide +kernel, by decide⟩
  have hks : IsCanonical o.terminator [.word "$a".toList, .terminator ';'] := by
    simp [IsCanonical, Token.Kind.IsCanonical, Token.Kind.endsLine, o]
  have hline : tokenize o "ls >b".toList =
      .ok [⟨.word "ls".toList, some 0, "ls >b".toList⟩,
        ⟨.redirect Fd.stdout "b".toList false, some 3, "ls >b".toList⟩] := by
    decide +kernel
  obtain ⟨hrender, hread⟩ := tokenize_roundTrip o ho
  exact ⟨o, rfl, ho, hks, hrender _ hks, _, hline, hread _ _ hline⟩

end QueryConsole.Command
