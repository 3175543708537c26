import QueryConsole.Proofs.Command.Progress
import QueryConsole.Proofs.Command.TokenEnds
import QueryConsole.Settings

/-!
# Where a terminator is overlooked

A line that can be read is read up to its terminator. That is the first place where the terminator
stands with nothing to hide it and no reader to overlook it. Each reader sweeps a part of the line,
and spares only what is hidden or overlooked; it leaves nothing open and nothing that it would have
taken, so the next can go on, and where the terminator is read no other reader would have taken it.
-/

namespace QueryConsole.Command

variable {o : Options} {c d : Char} {front u : Text} {j k k' : Cursor}

/-- No number goes on at `rest`, unless with the terminator. -/
def EndsNumber (terminator : Option Char) (rest : Text) : Prop :=
  ∀ d ∈ rest.head?, d.isDigit = true → terminator = some d

/-- Reading from `k` to `k'` behind `front` spares `c` and takes all that a reader would take. -/
def SweepsTo (o : Options) (c : Char) (front : Text) (k k' : Cursor) : Prop :=
  ∃ taken, k.rest = taken ++ k'.rest ∧ Sweeps o c front taken ∧
    Settled o (front ++ taken) k'.rest ∧ EndsNumber o.terminator k'.rest

namespace SweepsTo

theorem refl (hsettled : Settled o front k.rest) (hends : EndsNumber o.terminator k.rest) :
    SweepsTo o c front k k :=
  ⟨[], rfl, .nil o c front, by rwa [List.append_nil], hends⟩

theorem of_append (hk : k.rest = u ++ j.rest) (hu : Sweeps o c front u)
    (h : SweepsTo o c (front ++ u) j k') : SweepsTo o c front k k' := by
  obtain ⟨taken, hj, htaken, hsettled, hends⟩ := h
  rw [List.append_assoc] at hsettled
  exact ⟨u ++ taken, by rw [hk, hj, List.append_assoc], hu.append htaken, hsettled, hends⟩

/-- Blanks are passed over. -/
theorem of_skipBlanks (hfront : coverAfter o front = .bare) (hc : Text.isBlank c = false)
    (h : ∀ bs : Text, k.rest = bs ++ k.skipBlanks.rest → (∀ b ∈ bs, Text.isBlank b = true) →
      SweepsTo o c (front ++ bs) k.skipBlanks k') : SweepsTo o c front k k' := by
  have hblanks : ∀ b ∈ k.rest.takeWhile Text.isBlank, Text.isBlank b = true :=
    List.all_eq_true.1 List.all_takeWhile
  have hrest := (rest_eq_blanks_append k).symm
  exact of_append hrest (sweeps_blanks hfront hc hblanks) (h _ hrest hblanks)

end SweepsTo

theorem notMem_blanks (hc : Text.isBlank c = false) : c ∉ k.rest.takeWhile Text.isBlank := by
  intro hmem
  have hblank := List.all_eq_true.1 List.all_takeWhile c hmem
  rw [hc] at hblank
  cases hblank

/-! ### Readers -/

section Readers

variable {fd : Option Fd} {append : Bool} {place : Nat} {x : RawToken}

/-- The segments of a word are taken to its end. Where the word can end at once it must have begun
before, and then it is known how it has gone on. -/
theorem sweepsTo_readSegments {inRun : Bool} {w : List Segment} (hc : o.terminator = some c)
    (hopen : Opens o front k.rest) (hleaves : LeavesWord o front k.rest)
    (hwithin : inRun = true ∨ w = [] → WithinWord o inRun front k.rest)
    (h : readSegments o.terminator inRun k = .ok (w, k')) : SweepsTo o c front k k' := by
  fun_induction readSegments o.terminator inRun k generalizing w front with
  | case1 inRun k hr =>
    cases h
    refine .refl ((hwithin (.inr rfl)).settled ?_) ?_
    · simp [hr]
    · simp [EndsNumber, hr]
  | case2 inRun k d t hr q hq e hclosed =>
    rename_i ih
    obtain ⟨w', hw, -⟩ := Reading.map_eq_ok_iff.1 h
    obtain rfl := Quote.ofMark?_eq_some_iff.1 hq
    rw [hr] at hopen
    have hsweeps : Sweeps o c front (q.mark :: e.taken) := sweeps_quotation hopen hclosed
    have hrest : k.rest = q.mark :: e.taken ++ e.rest := by
      rw [hr, List.cons_append, Extent.taken_append_rest_toSingle]
    have hwithin : WithinWord o false (front ++ q.mark :: e.taken) e.rest :=
      .quotation hopen hclosed
    exact .of_append hrest hsweeps
      (ih (.of_bare (hsweeps.bare (by simp)) _) hwithin.leavesWord (fun _ => hwithin) hw)
  | case3 => cases h
  | case4 => cases h
  | case5 inRun k d hd hescape b t hr _ ih =>
    obtain ⟨w', hw, -⟩ := Reading.map_eq_ok_iff.1 h
    obtain ⟨rfl, hescape⟩ := hescape
    -- a backslash that is the terminator is taken for an escape inside a run only
    have hover : c = '\\' → Overlooked o front '\\' := by
      rintro rfl
      have hrun : inRun = true := hescape.resolve_right fun hne => hne hc
      exact (hwithin (.inl hrun)).overlooked hrun
    rw [hr] at hopen
    have hsweeps : Sweeps o c front ['\\', b] := sweeps_escape hopen hover
    have hwithin : WithinWord o true (front ++ ['\\', b]) t := .escape hopen
    exact .of_append (by rw [hr]; rfl) hsweeps
      (ih (.of_bare (hsweeps.bare (by simp)) _) hwithin.leavesWord (fun _ => hwithin) hw)
  | case6 inRun k d t hr hd hescape hword ih =>
    obtain ⟨w', hw, -⟩ := Reading.map_eq_ok_iff.1 h
    rw [hr] at hopen hleaves
    have hne : d ≠ '\\' := by
      rintro rfl
      refine hescape ⟨rfl, .inr fun hterminator => ?_⟩
      simp [isWordChar, hterminator] at hword
    have hsweeps : Sweeps o c front [d] := sweeps_wordChar hopen hc hword hd hne
    have hwithin : WithinWord o true (front ++ [d]) t := .run hopen.1 hword hleaves
    exact .of_append hr hsweeps
      (ih (.of_bare (hsweeps.bare (by simp)) _) hwithin.leavesWord (fun _ => hwithin) hw)
  | case7 inRun k d t hr hd hescape hword =>
    cases h
    refine .refl ((hwithin (.inr rfl)).settled fun hslash hrun => ?_) fun b hb hdigit => ?_
    · rw [hr] at hslash
      exact hescape ⟨Option.some.inj hslash, hrun⟩
    · rw [hr] at hb
      obtain rfl := Option.some.inj hb
      by_contra hne
      exact hword (isWordChar_of_isDigit hdigit hne)

/-- No run goes on where a word begins. -/
theorem sweepsTo_readSegments_start {w : List Segment} (hc : o.terminator = some c)
    (hopen : Opens o front k.rest) (hleaves : LeavesWord o front k.rest) (hw : w ≠ [])
    (h : readSegments o.terminator false k = .ok (w, k')) : SweepsTo o c front k k' := by
  refine sweepsTo_readSegments hc hopen hleaves (fun hrun => ?_) h
  exact absurd (hrun.resolve_left Bool.false_ne_true) hw

/-- A number is taken to its end. -/
theorem sweepsTo_readNumber {what : Numbered} {n : UInt32} (hfront : InNumber o front)
    (hdigit : digitNext k = true) (h : readNumber what k = .ok (n, k')) :
    SweepsTo o c front k k' := by
  have hdigits := Run.maximal_takeWhile Char.isDigit k.rest
  have hne := takeWhile_isDigit_ne_nil hdigit
  obtain ⟨-, -, rfl⟩ := readNumber_eq_ok_iff.1 h
  refine ⟨_, List.takeWhile_append_dropWhile.symm, sweeps_digits hfront hdigits.1,
    hfront.settled_append_digits hne hdigits, fun d hd hdigit => ?_⟩
  cases (hdigits.2 d hd).symm.trans hdigit

theorem sweepsTo_readDuplicate (hfront : Awaits o .descriptor front) (hc : Text.isBlank c = false)
    (h : readDuplicate fd k = .ok (x, k')) : SweepsTo o c front k k' := by
  obtain ⟨hdigit, n, hn, -⟩ := readDuplicate_eq_ok_iff.1 h
  apply SweepsTo.of_skipBlanks hfront.cover_eq hc
  intro bs _ hbs
  exact sweepsTo_readNumber (.descriptor ((Awaits.append_blanks_iff hbs).2 hfront)) hdigit hn

theorem sweepsTo_readSession (hfront : IsBare o front)
    (h : readSession fd append place k = .ok (x, k')) :
    SweepsTo o c (front ++ ['>', '+']) k k' := by
  have hnumber : InNumber o (front ++ ['>', '+']) := .session hfront
  obtain ⟨-, hform⟩ := readSession_eq_ok_iff.1 h
  cases hform with
  | numbered hdigit hn _ => exact sweepsTo_readNumber hnumber hdigit hn
  | current hnext _ hk =>
    subst hk
    have hrest := isDigit_of_not_digitNext hnext
    have hsign : front ++ ['>', '+'] = front ++ ['>'] ++ ['+'] := by simp
    refine .refl (hnumber.settled hrest fun what => ?_) fun d hd hdigit => ?_
    · rw [hsign]
      exact Awaits.not_concat (by decide) (by decide) (by decide)
    · cases (hrest d hd).symm.trans hdigit

/-- A target that is not missing is taken to its end. -/
theorem sweepsTo_readTarget {kind : Token.Kind} (hfront : Awaits o .target front)
    (hplus : skipChar? '+' k = none) (hc : o.terminator = some c)
    (hblank : Text.isBlank c = false) (h : readTarget o.terminator fd append k = .ok (x, k'))
    (hx : x.resolve o = .ok kind) : SweepsTo o c front k k' := by
  obtain ⟨w, hw, rfl⟩ := Reading.map_eq_ok_iff.1 h
  have hne : w ≠ [] := by
    rintro rfl
    cases (RawToken.resolve_redirect_of_eq rfl).symm.trans hx
  apply SweepsTo.of_skipBlanks hfront.cover_eq hblank
  intro bs hk hbs
  have hawaits := (Awaits.append_blanks_iff hbs).2 hfront
  apply sweepsTo_readSegments_start hc (.of_bare hawaits.cover_eq _) _ hne hw
  -- behind blanks a plus sign is part of the target
  refine hawaits.leavesWord fun s hs => ?_
  obtain rfl | ⟨init, b, rfl⟩ := List.eq_nil_or_concat bs
  · rw [List.nil_append] at hk
    rw [← hk]
    exact skipChar?_eq_none_iff.1 hplus
  · rw [List.concat_eq_append] at hs hbs
    rw [← List.append_assoc] at hs
    obtain ⟨-, rfl⟩ := List.append_singleton_inj.1 hs
    exact absurd (hbs '>' (by simp)) (by decide)

/-- A sign directly behind an arrow is taken, whether or not it is the terminator. -/
theorem SweepsTo.of_sign (hfront : IsBare o front) (hd : d = '&' ∨ d = '+')
    (hj : skipChar? d k = some j) (h : SweepsTo o c (front ++ ['>', d]) j k') :
    SweepsTo o c (front ++ ['>']) k k' := by
  have hsign : Sweeps o c (front ++ ['>']) [d] := by
    refine ⟨.single ?_, fun _ => ?_⟩
    · rintro rfl
      exact .inr (.sign hfront hd)
    · exact IsBare.concat_of_sign (.inr (hfront.concat_of_sign (by simp))) (by simp [hd])
  apply SweepsTo.of_append (rest_of_skipChar? hj) hsign
  rwa [List.append_assoc]

/-- A second `>` is taken with the first one. -/
theorem SweepsTo.of_endsArrow (hfront : IsBare o front)
    (hsecond : c = '>' → Overlooked o (front ++ ['>']) '>') (harrow : EndsArrow k append j)
    (h : ∀ front', IsBare o front' → SweepsTo o c (front' ++ ['>']) j k') :
    SweepsTo o c (front ++ ['>']) k k' := by
  cases harrow with
  | single => exact h front hfront
  | double hj =>
    have hbare : IsBare o (front ++ ['>']) := .inr (hfront.concat_of_sign (by simp))
    have hmore : Sweeps o c (front ++ ['>']) ['>'] := by
      refine ⟨.single fun hd => .inr ?_, fun _ => hbare.concat_of_sign (by simp)⟩
      rw [← hd]
      exact hsecond hd.symm
    exact SweepsTo.of_append (rest_of_skipChar? hj) hmore (h _ hbare)

/-- From behind its first arrow a redirection is read to its end. -/
theorem sweepsTo_readRedirect {kind : Token.Kind} (hfront : IsBare o front)
    (hc : o.terminator = some c) (hblank : Text.isBlank c = false)
    (hsecond : c = '>' → Overlooked o (front ++ ['>']) '>')
    (h : readRedirect o.terminator fd place k = .ok (x, k')) (hx : x.resolve o = .ok kind) :
    SweepsTo o c (front ++ ['>']) k k' := by
  cases redirectForm_iff.2 h with
  | session harrow hplus hr =>
    apply SweepsTo.of_endsArrow hfront hsecond harrow
    intro front hfront
    exact SweepsTo.of_sign hfront (.inr rfl) hplus (sweepsTo_readSession hfront hr)
  | target harrow hplus _ hr =>
    apply SweepsTo.of_endsArrow hfront hsecond harrow
    intro front hfront
    exact sweepsTo_readTarget (.target hfront) hplus hc hblank hr hx
  | duplicate _ hand hr =>
    exact SweepsTo.of_sign hfront (.inl rfl) hand
      (sweepsTo_readDuplicate (.descriptor hfront) hblank hr)

/-- With the digit of a descriptor its arrows are taken, whether or not they are the terminator. -/
theorem sweepsTo_descriptor {kind : Token.Kind} {t : Text} (hstart : AtTokenStart o front)
    (hc : o.terminator = some c) (hblank : Text.isBlank c = false) (hk : k.rest = d :: t)
    (hdigit : d.isDigit = true) (hd : d ≠ c) (hj : skipChar? '>' (k.advance [d] t) = some j)
    (h : readRedirect o.terminator fd place j = .ok (x, k')) (hx : x.resolve o = .ok kind) :
    SweepsTo o c front k k' := by
  have hover (arrows : Text) (harrows : arrows = [] ∨ arrows = ['>']) :
      Overlooked o (front ++ [d] ++ arrows) '>' := by
    rw [List.append_assoc]
    exact .arrow hstart hdigit harrows
  have hfd : Sweeps o c front [d] :=
    ⟨.single fun hc => absurd hc hd, fun _ => hstart.isBare.concat_of_isDigit hdigit⟩
  have hbehind : IsBare o (front ++ [d]) := .inr (hfd.bare (by simp))
  have harrow : Sweeps o c (front ++ [d]) ['>'] := by
    refine ⟨.single fun hc => .inr ?_, fun _ => hbehind.concat_of_sign (by simp)⟩
    rw [← hc]
    simpa using hover [] (.inl rfl)
  have hrest := sweepsTo_readRedirect hbehind hc hblank (fun _ => hover ['>'] (.inr rfl)) h hx
  exact SweepsTo.of_append hk hfd (SweepsTo.of_append (rest_of_skipChar? hj) harrow hrest)

theorem sweepsTo_readWord {first : Bool} {w : List Segment} {t : Text} (hc : o.terminator = some c)
    (hfront : coverAfter o front = if first then .start else .bare) (hk : k.rest = d :: t)
    (hd : d ≠ c) (hleaves : LeavesWord o front (d :: t)) (hne : w ≠ [])
    (h : readWord o first k = .ok (w, k')) : SweepsTo o c front k k' := by
  have hbare : IsBare o front := .of_eq hfront
  have hopen (hrest : (first && o.keepInitialEscape) = true → k.rest.head? ≠ some '\\') :
      Opens o front k.rest := by
    cases first with
    | true => exact .of_isBare hbare hrest
    | false => exact .of_bare hfront _
  cases wordForm_iff.2 h with
  | @kept s hs hkeep hr =>
    obtain ⟨w', hw, -⟩ := Reading.map_eq_ok_iff.1 hr
    obtain ⟨rfl, rfl⟩ := List.cons.inj (hk.symm.trans hs)
    rw [Bool.and_eq_true] at hkeep
    have hkept : Sweeps o c front ['\\'] := by
      refine ⟨.single fun hslash => absurd hslash hd, fun _ => ?_⟩
      have hblank : Text.isBlank '\\' = false := by decide
      rw [coverAfter_concat, hfront, if_pos hkeep.1]
      simp [Cover.step, hblank, hkeep.2]
    have hwithin : WithinWord o false (front ++ ['\\']) t := by
      refine .kept fun hslash => hd ?_
      exact Option.some.inj (hslash.symm.trans hc)
    have hbehind := Opens.of_bare (hkept.bare (by simp)) t
    exact .of_append hs hkept
      (sweepsTo_readSegments hc hbehind hwithin.leavesWord (fun _ => hwithin) hw)
  | plain hplain hr =>
    rw [← hk] at hleaves
    exact sweepsTo_readSegments_start hc (hopen hplain) hleaves hne hr

/-- Reading a token from `k` to `k'` behind `front` spares `c`. Unless the line is over, nothing is
left open, and nothing that the token would have taken. -/
def SparedTo (o : Options) (c : Char) (front : Text) (k k' : Cursor) : Prop :=
  ∃ taken, k.rest = taken ++ k'.rest ∧ Spared o c front taken ∧
    (k'.rest ≠ [] → coverAfter o (front ++ taken) = .bare ∧ Settled o (front ++ taken) k'.rest) ∧
    EndsNumber o.terminator k'.rest

theorem SweepsTo.sparedTo (h : SweepsTo o c front k k') (hlt : k'.rest.length < k.rest.length) :
    SparedTo o c front k k' := by
  obtain ⟨taken, hk, hsweeps, hsettled, hends⟩ := h
  refine ⟨taken, hk, hsweeps.spared, fun _ => ⟨hsweeps.bare ?_, hsettled⟩, hends⟩
  rintro rfl
  rw [hk, List.nil_append] at hlt
  exact Nat.lt_irrefl _ hlt

/-- A pipe hides all that follows. -/
theorem sparedTo_readPipe {t : Text} (hfront : IsBare o front) (hk : k.rest = '|' :: t)
    (hc : c ≠ '|') (h : readPipe (k.advance ['|'] t) = .ok (x, k')) : SparedTo o c front k k' := by
  have hrest : k'.rest = [] := by
    obtain ⟨-, -, rfl⟩ := readPipe_eq_ok_iff.1 h
    rfl
  refine ⟨'|' :: t, by rw [hk, hrest, List.append_nil], ?_, fun hne => absurd hrest hne, ?_⟩
  · exact Spared.cons (fun hbar => absurd hbar.symm hc) (spared_of_piped hfront.concat_pipe)
  · rw [hrest]
    simp [EndsNumber]

/-- A token that does not begin with the terminator spares it. -/
theorem sparedTo_readToken {first : Bool} {kind : Token.Kind} {t : Text}
    (hc : o.terminator = some c) (hblank : Text.isBlank c = false)
    (hfront : coverAfter o front = if first then .start else .bare)
    (hsettled : Settled o front (d :: t)) (hstart : d.isDigit = true → AtTokenStart o front)
    (hk : k.rest = d :: t) (hd : d ≠ c) (h : readToken o first k d t = .ok (x, k'))
    (hx : x.resolve o = .ok kind) : SparedTo o c front k k' := by
  have hbare : IsBare o front := .of_eq hfront
  have hlt := length_rest_lt_of_readToken hk h
  cases tokenForm_iff.2 h with
  | terminator hterminator _ => exact absurd (Option.some.inj (hterminator.symm.trans hc)) hd
  | redirect _ harrow hr =>
    subst harrow
    have hsign : Sweeps o c front ['>'] :=
      ⟨.single fun hc => absurd hc hd, fun _ => hbare.concat_of_sign (by simp)⟩
    have hrest := sweepsTo_readRedirect hbare hc hblank (fun hc => absurd hc.symm hd) hr hx
    exact (SweepsTo.of_append hk hsign hrest).sparedTo hlt
  | pipe _ hbar hr =>
    subst hbar
    exact sparedTo_readPipe hbare hk hd.symm hr
  | descriptor _ hdigit hl hr =>
    exact (sweepsTo_descriptor (hstart hdigit) hc hblank hk hdigit hd hl hr hx).sparedTo hlt
  | nothing _ _ hr => cases hr
  | word hbegins hne hr =>
    obtain ⟨w, hw, -⟩ := Reading.map_eq_ok_iff.1 hr
    have hleaves : LeavesWord o front (d :: t) := hsettled.leavesWord fun hdigit =>
      skipChar?_eq_none_iff.1 (hbegins.no_descriptor hdigit)
    have hnil : w ≠ [] := by
      rintro rfl
      exact hne k' hw
    exact (sweepsTo_readWord hc hfront hk hd hleaves hnil hw).sparedTo hlt

end Readers

/-! ### Scanners -/

theorem AtTokenStart.of_nil (o : Options) : AtTokenStart o [] :=
  ⟨fun s b h => by simp at h, fun _ h => h.ne_nil rfl⟩

theorem AtTokenStart.of_blanks {bs : Text} (h : IsBare o front)
    (hawaits : ∀ what, ¬Awaits o what front) (hne : bs ≠ [])
    (hbs : ∀ b ∈ bs, Text.isBlank b = true) : AtTokenStart o (front ++ bs) := by
  refine ⟨fun s b heq => ?_, fun what hw => hawaits what ((Awaits.append_blanks_iff hbs).1 hw)⟩
  obtain rfl | ⟨init, last, rfl⟩ := List.eq_nil_or_concat bs
  · exact absurd rfl hne
  · rw [List.concat_eq_append] at hbs heq
    rw [← List.append_assoc] at heq
    obtain ⟨rfl, rfl⟩ := List.append_singleton_inj.1 heq
    refine ⟨?_, hbs last (by simp)⟩
    have hinit := h.append_blanks fun b hb => hbs b (List.mem_append_left _ hb)
    rwa [IsBare, hinit]

namespace Scanner

variable {s s' : Scanner} {t : Token}

/-- A scanner that stands in its line behind `front`. -/
structure Stands (c : Char) (front : Text) (s : Scanner) : Prop where
  terminator : s.options.terminator = some c
  offset : s.cursor.offset = Text.size front
  cover : s.cursor.rest ≠ [] →
    coverAfter s.options front = if !s.started then Cover.start else Cover.bare
  settled : s.cursor.rest ≠ [] → Settled s.options front s.cursor.rest
  start : AtTokenStart s.options front ∨ EndsNumber s.options.terminator s.cursor.rest

/-- Blanks before a token change nothing, except that the token stands apart. -/
theorem Stands.skipBlanks (hs : s.Stands c front) {d : Char} {u : Text}
    (hk : s.cursor.skipBlanks.rest = d :: u) :
    coverAfter s.options (front ++ s.cursor.rest.takeWhile Text.isBlank) =
        (if !s.started then Cover.start else Cover.bare) ∧
      Settled s.options (front ++ s.cursor.rest.takeWhile Text.isBlank) (d :: u) ∧
      (d ≠ c → d.isDigit = true →
        AtTokenStart s.options (front ++ s.cursor.rest.takeWhile Text.isBlank)) := by
  have hblanks : ∀ b ∈ s.cursor.rest.takeWhile Text.isBlank, Text.isBlank b = true :=
    List.all_eq_true.1 List.all_takeWhile
  have hrest : s.cursor.rest.takeWhile Text.isBlank ++ d :: u = s.cursor.rest :=
    hk ▸ rest_eq_blanks_append s.cursor
  have hne : s.cursor.rest ≠ [] := by
    rw [← hrest]
    simp
  have hbare : IsBare s.options front := .of_eq (hs.cover hne)
  have hsettled := hs.settled hne
  refine ⟨(hbare.append_blanks hblanks).trans (hs.cover hne), ?_, fun hd hdigit => ?_⟩
  · exact Settled.append_blanks hblanks hbare (by rwa [hrest])
  · by_cases hnil : s.cursor.rest.takeWhile Text.isBlank = []
    · -- a digit directly behind a token would have been read with it
      rw [hnil, List.append_nil]
      refine hs.start.resolve_right fun hends => ?_
      rw [hnil, List.nil_append] at hrest
      have hterminator := hends d (by rw [← hrest]; rfl) hdigit
      exact hd (Option.some.inj (hterminator.symm.trans hs.terminator))
    · exact .of_blanks hbare hsettled.not_awaits hnil hblanks

/-- A scanner that returns a token either reads the terminator, where nothing hides or overlooks it,
or another token that spares it. -/
theorem stands_next (hs : s.Stands c front) (hblank : Text.isBlank c = false)
    (h : s.next.1 = some (.ok t)) :
    (∃ bs, s.cursor.rest = bs ++ c :: s.next.2.cursor.rest ∧ c ∉ bs ∧ s.next.2.finished = true ∧
        IsBare s.options (front ++ bs) ∧ ¬Overlooked s.options (front ++ bs) c ∧
        t.kind = .terminator c ∧ t.position = some (Text.size (front ++ bs))) ∨
      (s.next.2.options = s.options ∧ t.kind ≠ .terminator c ∧
        ∃ taken, s.cursor.rest = taken ++ s.next.2.cursor.rest ∧
          Spared s.options c front taken ∧ s.next.2.Stands c (front ++ taken)) := by
  have hrest := rest_eq_blanks_append s.cursor
  have hnotmem := notMem_blanks (k := s.cursor) hblank
  have hoffset : s.cursor.skipBlanks.offset =
      Text.size (front ++ s.cursor.rest.takeWhile Text.isBlank) := by
    rw [Text.size_append, ← hs.offset]
    rfl
  obtain ⟨-, d, u, raw, k', hk, hread, hraw, ht, hnext⟩ := exists_of_next_ok h
  obtain ⟨hcover, hsettled, hstart⟩ := hs.skipBlanks hk
  rw [hnext]
  by_cases hd : d = c
  · subst hd
    left
    have hread := (TokenForm.readToken_eq (.terminator hs.terminator rfl)).symm.trans hread
    obtain ⟨rfl, rfl⟩ := Prod.mk.inj (Except.ok.inj hread)
    have hkind : t.kind = .terminator d := (Except.ok.inj hraw).symm
    refine ⟨_, ?_, hnotmem, ?_, .of_eq hcover, hsettled.not_overlooked d rfl, hkind, ?_⟩
    · rw [hk] at hrest
      exact hrest.symm
    · rw [hkind]
      rfl
    · rw [ht, ← hoffset]
  · right
    obtain ⟨taken, htaken, hspared, hbare, hends⟩ :=
      sparedTo_readToken hs.terminator hblank hcover hsettled (hstart hd) hk hd hread hraw
    obtain ⟨taken', htaken', hoffset'⟩ := reaches_of_readToken hk hread
    obtain rfl : taken' = taken := List.append_cancel_right (htaken'.symm.trans htaken)
    refine ⟨rfl, fun hkind => ?_, s.cursor.rest.takeWhile Text.isBlank ++ taken', ?_, ?_, ?_⟩
    · rw [hkind] at hraw
      obtain ⟨e, rfl, -⟩ | ⟨command, -, hcommand⟩ := RawToken.eq_of_endsLine hraw rfl
      · exact hd (Option.some.inj ((terminator_of_readToken hread).symm.trans hs.terminator))
      · cases hcommand
    · rw [List.append_assoc, ← htaken, hrest]
    · exact (Spared.of_notMem hnotmem).append hspared
    · rw [← List.append_assoc]
      refine ⟨hs.terminator, ?_, fun hne => (hbare hne).1, fun hne => (hbare hne).2, .inr hends⟩
      rw [Text.size_append, ← hoffset]
      exact hoffset'

/-- The last of the given tokens is the terminator `c` at the offset `n`. -/
def EndsWith (c : Char) (n : Nat) (ts : List Token) : Prop :=
  ∃ t, ts.getLast? = some t ∧ t.kind = .terminator c ∧ t.position = some n

theorem EndsWith.cons {n : Nat} {ts : List Token} (h : EndsWith c n ts) (t : Token) :
    EndsWith c n (t :: ts) := by
  obtain ⟨last, hlast, hkind, hposition⟩ := h
  refine ⟨last, ?_, hkind, hposition⟩
  rw [List.getLast?_cons, hlast]
  rfl

/-- Behind `front`, the character `c` is hidden or overlooked wherever it stands in `u`, unless it
ends both `u` and the tokens. Where it does, nothing hides or overlooks it. -/
structure SparedToEnd (o : Options) (c : Char) (front : Text) (ts : List Token) (u : Text) :
    Prop where
  spared : ∀ before after, u = before ++ c :: after →
    (coverAfter o (front ++ before)).hides c = true ∨ Overlooked o (front ++ before) c ∨
      after = [] ∧ EndsWith c (Text.size (front ++ before)) ts
  ends : ∀ t ∈ ts, t.kind = .terminator c →
    ∃ before, u = before ++ [c] ∧ IsBare o (front ++ before) ∧ ¬Overlooked o (front ++ before) c

theorem SparedToEnd.append {ts : List Token} {v : Text} (hu : Spared o c front u)
    (hv : SparedToEnd o c (front ++ u) ts v) {t : Token} (ht : t.kind ≠ .terminator c) :
    SparedToEnd o c front (t :: ts) (u ++ v) := by
  constructor
  · intro before after h
    obtain ⟨w, hw⟩ | ⟨w, rfl, hw⟩ := append_eq_append_cons h
    · exact (hu before w hw).imp_right .inl
    · rw [← List.append_assoc]
      exact (hv.spared w after hw).imp_right
        (.imp_right fun ⟨hafter, hends⟩ => ⟨hafter, hends.cons t⟩)
  · intro t' ht' hkind
    obtain rfl | ht' := List.mem_cons.1 ht'
    · exact absurd hkind ht
    · obtain ⟨before, rfl, hbare, hover⟩ := hv.ends t' ht' hkind
      rw [List.append_assoc] at hbare hover
      exact ⟨u ++ before, by rw [List.append_assoc], hbare, hover⟩

theorem SparedToEnd.terminator {t : Token} (hnotmem : c ∉ u) (hkind : t.kind = .terminator c)
    (hposition : t.position = some (Text.size (front ++ u))) (hbare : IsBare o (front ++ u))
    (hover : ¬Overlooked o (front ++ u) c) : SparedToEnd o c front [t] (u ++ [c]) := by
  refine ⟨fun before after h => ?_, fun _ _ _ => ⟨u, rfl, hbare, hover⟩⟩
  obtain ⟨w, rfl⟩ | ⟨w, rfl, hw⟩ := append_eq_append_cons h
  · simp at hnotmem
  · cases w with
    | nil =>
      rw [List.append_nil]
      exact .inr (.inr ⟨(List.cons.inj hw).2.symm, t, rfl, hkind, hposition⟩)
    | cons b w => simp at hw

/-- A scanner that reads nothing more has only blanks before it. -/
theorem exists_taken_of_next_eq_none (hblank : Text.isBlank c = false) (h : s.next = (none, s')) :
    ∃ taken, s.cursor.rest = taken ++ s'.cursor.rest ∧ c ∉ taken := by
  cases hf : s.finished with
  | true =>
    rw [next_of_finished hf] at h
    exact ⟨[], by rw [(Prod.mk.inj h).2, List.nil_append], by simp⟩
  | false =>
    obtain ⟨-, hnext⟩ | ⟨d, u, -, ⟨e, -, hnext⟩ | ⟨raw, k', -, ⟨f, -, hnext⟩ |
      ⟨kind, -, hnext⟩⟩⟩ := next_cases hf
    · rw [← (Prod.mk.inj (hnext.symm.trans h)).2]
      exact ⟨_, (rest_eq_blanks_append s.cursor).symm, notMem_blanks hblank⟩
    · cases hnext.symm.trans h
    · cases hnext.symm.trans h
    · cases hnext.symm.trans h

/-- What a scanner reads without a fault spares the terminator up to the one with which it ends. -/
theorem exists_taken_of_run (hs : s.Stands c front) (hblank : Text.isBlank c = false)
    (hfault : s.run.fault = none) :
    ∃ taken, s.cursor.rest = taken ++ s.run.scanner.cursor.rest ∧
      SparedToEnd s.options c front s.run.tokens taken := by
  fun_induction run s generalizing front with
  | case1 s s' hnext =>
    obtain ⟨taken, hrest, hnotmem⟩ := exists_taken_of_next_eq_none hblank hnext
    exact ⟨taken, hrest, fun before after h => absurd (by simp [h]) hnotmem, by simp⟩
  | case2 => cases hfault
  | case3 s t s' hnext r =>
    rename_i ih
    have hnext' : s' = s.next.2 := by rw [hnext]
    subst hnext'
    obtain ⟨bs, hrest, hnotmem, hfinished, hbare, hover, hkind, hposition⟩ |
      ⟨hoptions, hkind, taken, hrest, hspared, hs'⟩ := stands_next hs hblank (by rw [hnext])
    · have hrun : r = ⟨[], none, s.next.2⟩ := run_of_none (next_of_finished hfinished)
      rw [hrun]
      exact ⟨bs ++ [c], by rw [hrest, List.append_assoc]; rfl,
        .terminator hnotmem hkind hposition hbare hover⟩
    · obtain ⟨taken', hrest', hspared'⟩ := ih hs' hfault
      rw [hoptions] at hspared'
      exact ⟨taken ++ taken', by rw [hrest, hrest', List.append_assoc],
        .append hspared hspared' hkind⟩

theorem stands_ofLine (hc : o.terminator = some c) (line : Text) :
    (ofLine o line).Stands c [] :=
  ⟨hc, rfl, fun _ => rfl, fun _ => .start o line, .inl (.of_nil o)⟩

end Scanner

/-- Wherever the terminator stands in what is read of a line, it is hidden, or a reader overlooks
it, or it is the token that ends the line. Where it is that token, nothing stands open and no reader
overlooks it. -/
theorem exists_consumed_of_tokenize {line : Text} {ts : List Token} (hc : o.terminator = some c)
    (hblank : Text.isBlank c = false) (h : tokenize o line = .ok ts) :
    ∃ consumed, line = consumed ++ (Scanner.ofLine o line).run.scanner.cursor.rest ∧
      (∀ before after, consumed = before ++ c :: after →
        (coverAfter o before).hides c = true ∨ Overlooked o before c ∨
          after = [] ∧ ∃ t, ts.getLast? = some t ∧ t.kind = .terminator c ∧
            t.position = some (Text.size before)) ∧
      ∀ t ∈ ts, t.kind = .terminator c →
        ∃ before, consumed = before ++ [c] ∧ IsBare o before ∧ ¬Overlooked o before c := by
  obtain ⟨hfault, rfl⟩ := run_of_tokenize_eq_ok h
  obtain ⟨consumed, hline, hspared⟩ :=
    Scanner.exists_taken_of_run (Scanner.stands_ofLine hc line) hblank hfault
  exact ⟨consumed, hline, hspared.spared, hspared.ends⟩

theorem exists_consumed_of_tokenize_ampersand :
    ∃ (o : Options) (line : Text) (ts : List Token), line = ">&1 'a&b' &c".toList ∧
      o.terminator = some '&' ∧ Text.isBlank '&' = false ∧ tokenize o line = .ok ts ∧
      ∃ consumed, line = consumed ++ (Scanner.ofLine o line).run.scanner.cursor.rest ∧
        (∀ before after, consumed = before ++ '&' :: after →
          (coverAfter o before).hides '&' = true ∨ Overlooked o before '&' ∨
            after = [] ∧ ∃ t, ts.getLast? = some t ∧ t.kind = .terminator '&' ∧
              t.position = some (Text.size before)) ∧
        ∀ t ∈ ts, t.kind = .terminator '&' →
          ∃ before, consumed = before ++ ['&'] ∧ IsBare o before ∧ ¬Overlooked o before '&' := by
  let o : Options := { terminator := some '&' }
  let line : Text := ">&1 'a&b' &c".toList
  have hblank : Text.isBlank '&' = false := by decide
  have hline : tokenize o line =
      .ok [⟨.duplicate Fd.stdout 1, some 0, line⟩, ⟨.word "a&b".toList, some 4, line⟩,
        ⟨.terminator '&', some 10, line⟩] := by
    decide +kernel
  exact ⟨o, line, _, rfl, rfl, hblank, hline, exists_consumed_of_tokenize rfl hblank hline⟩

/-- The arrow of a descriptor is taken though it is the terminator. -/
theorem not_forall_hides_terminator :
    ¬ ∀ (s : Settings) (o : Options) (c : Char) (line consumed : Text) (ts : List Token),
      s.terminatorChar = .ok c → s.lineOptions = .ok o → tokenize o line = .ok ts →
      line = consumed ++ (Scanner.ofLine o line).run.scanner.cursor.rest →
      ∀ before after, consumed = before ++ c :: after →
        (coverAfter o before).hides c = true ∨
          after = [] ∧ ∃ t, ts.getLast? = some t ∧ t.kind = .terminator c ∧
            t.position = some (Text.size before) := by
  intro h
  let o : Options := { terminator := some '>' }
  have hline : tokenize o "2>x".toList =
      .ok [⟨.redirect ⟨2, by decide⟩ ['x'] false, some 0, "2>x".toList⟩] := by
    decide +kernel
  have hrest : (Scanner.ofLine o "2>x".toList).run.scanner.cursor.rest = [] := by
    decide +kernel
  have harrow := h { terminator := ['>'] } o '>' "2>x".toList "2>x".toList _ rfl rfl hline
    (by rw [hrest, List.append_nil]) ['2'] ['x'] rfl
  have hbare : (coverAfter o ['2']).hides '>' = false := by decide
  obtain hhides | ⟨hafter, -⟩ := harrow
  · rw [hbare] at hhides
    cases hhides
  · cases hafter

end QueryConsole.Command
