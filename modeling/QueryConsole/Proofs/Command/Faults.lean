import QueryConsole.Proofs.Command.Places

/-!
# What faults point at

A fault names a cause and a place. `Explains` says for each cause what stands before and behind its
place, without a scan of the line, and `PointsAt` says it for each kind of fault. Every reader that
fails, fails at a place that is explained, and a diagnostic shows that place.
-/

namespace QueryConsole

/-- Reading `taken` leads from `k` to `k'`. -/
def Cursor.Takes (k : Cursor) (taken : Text) (k' : Cursor) : Prop :=
  k.rest = taken ++ k'.rest ∧ k'.offset = k.offset + Text.size taken

namespace Cursor.Takes

variable {j k k' : Cursor} {front taken rest : Text} {c : Char}

theorem refl (k : Cursor) : k.Takes [] k := ⟨rfl, rfl⟩

theorem reaches (h : j.Takes front k) : j.Reaches k := ⟨front, h⟩

theorem advance (h : j.Takes front k) (hk : k.rest = taken ++ rest) :
    j.Takes (front ++ taken) (k.advance taken rest) := by
  constructor
  · rw [h.1, hk, List.append_assoc]
    rfl
  · rw [Text.size_append, ← Nat.add_assoc, ← h.2]
    rfl

theorem skipBlanks (h : j.Takes front k) :
    j.Takes (front ++ k.rest.takeWhile Text.isBlank) k.skipBlanks :=
  h.advance List.takeWhile_append_dropWhile.symm

theorem skipChar? (h : j.Takes front k) (hk : Command.skipChar? c k = some k') :
    j.Takes (front ++ [c]) k' := by
  obtain ⟨t, hrest, rfl⟩ := Command.skipChar?_eq_some_iff.1 hk
  exact h.advance hrest

theorem endsArrow {append : Bool} (h : j.Takes (front ++ ['>']) k)
    (harrow : Command.EndsArrow k append k') : j.Takes (front ++ Command.arrow append) k' := by
  cases harrow with
  | single => exact h
  | double hk =>
    have hmore := h.skipChar? hk
    rwa [List.append_assoc] at hmore

end Cursor.Takes

namespace Command

/-! ### Causes and their places -/

/-- How a descriptor is named before an arrow: not at all, or by a digit. -/
inductive Names : Option Fd → Text → Prop
  | stdout : Names none []
  | digit {d : Char} : d.isDigit = true → Names (Fd.ofNat? (d.toNat - '0'.toNat)) [d]

/-- What stands before the target of a redirection. -/
inductive Directs : Text → Prop
  | mk {fd : Option Fd} {name blanks : Text} (append : Bool) : Names fd name →
      (∀ b ∈ blanks, Text.isBlank b = true) → Directs (name ++ arrow append ++ blanks)

/-- What stands before the number in a redirection. -/
inductive Introduces : Numbered → Text → Prop
  | descriptor {fd : Option Fd} {name blanks : Text} : Names fd name →
      (∀ b ∈ blanks, Text.isBlank b = true) → Introduces .descriptor (name ++ ['>', '&'] ++ blanks)
  | session (append : Bool) : Introduces .session (arrow append ++ ['+'])

/-- What the line holds around a fault with a given cause: `front` stands between the start of the
token and the fault, and `back` is the line from the fault on. -/
inductive Explains (o : Options) : Cause → Text → Text → Prop
  | openQuote (front : Text) (q : Quote) {rest : Text} : Extent.EvenRuns q.mark rest →
      Explains o (.openQuote q) front (q.mark :: rest)
  | danglingEscape (front : Text) : Explains o .danglingEscape front ['\\']
  | unexpected {c : Char} (rest : Text) : c = '<' ∨ c = '&' →
      Explains o (.unexpected (some c)) [] (c :: rest)
  | noCommand {blanks : Text} : (∀ b ∈ blanks, Text.isBlank b = true) →
      Explains o .noCommand ('|' :: blanks) []
  | sessionDescriptor {d : Char} (append : Bool) (rest : Text) : d.isDigit = true →
      Explains o .sessionDescriptor [d] (arrow append ++ '+' :: rest)
  /-- No target begins here. -/
  | missingTarget {front back : Text} : Directs front →
      (∀ c ∈ back.head?, Text.isBlank c = false ∧ Quote.ofMark? c = none ∧
        isWordChar o.terminator c = false) → Explains o .noTarget front back
  /-- The target that begins here denotes the empty text. -/
  | emptyTarget {front : Text} {k k' : Cursor} {w : List Segment} : Directs front →
      readSegments o.terminator false k = .ok (w, k') → w ≠ [] →
      w.flatMap (Segment.resolve o false) = [] → Explains o .noTarget front k.rest
  | noDescriptor {front back : Text} : Introduces .descriptor front →
      (∀ c ∈ back.head?, Text.isBlank c = false ∧ c.isDigit = false) →
      Explains o .noDescriptor front back
  | outOfRange {what : Numbered} {front ds rest : Text} : Introduces what front → ds ≠ [] →
      Run.Maximal Char.isDigit ds rest → UInt32.size ≤ ofDigits ds →
      Explains o (.outOfRange what) front (ds ++ rest)

/-- No cause that the line bears out is an early end of the line. -/
theorem Explains.message_ne {o : Options} {cause : Cause} {front back : Text}
    (h : Explains o cause front back) : cause.message ≠ "Unexpected end of line".toList := by
  cases h with
  | openQuote _ q => cases q <;> decide +kernel
  | @unexpected c =>
    intro hmessage
    have hlength : ("Unexpected character '".toList ++ [c, '\'']).length =
        "Unexpected end of line".toList.length := congrArg List.length hmessage
    rw [List.length_append, List.length_cons, List.length_singleton] at hlength
    revert hlength
    decide +kernel
  | @outOfRange what => cases what <;> decide +kernel
  | _ => decide +kernel

/-- At `back` no target begins, or one that denotes the empty text. -/
def LacksTarget (o : Options) (back : Text) : Prop :=
  (∀ c ∈ back.head?, Text.isBlank c = false ∧ Quote.ofMark? c = none ∧
    isWordChar o.terminator c = false) ∨
  ∃ (k k' : Cursor) (w : List Segment), k.rest = back ∧
    readSegments o.terminator false k = .ok (w, k') ∧ w ≠ [] ∧
    w.flatMap (Segment.resolve o false) = []

/-- What the line holds around a fault of a given kind, whatever its cause: `front` stands between
the start of the token and the fault, and `back` is the line from the fault on. -/
def PointsAt (o : Options) (front back : Text) : Fault.Kind → Prop
  -- a mark behind which no run of marks is odd, so that none of them closes the quotation
  | .unterminatedLiteral => ∃ (q : Quote) (rest : Text), back = q.mark :: rest ∧
      Extent.EvenRuns q.mark rest
  | .syntaxError =>
      (front = [] ∧ ∃ c rest, back = c :: rest ∧ (c = '<' ∨ c = '&')) ∨
      back = ['\\'] ∨
      back = [] ∧ ∃ blanks, front = '|' :: blanks ∧ ∀ b ∈ blanks, Text.isBlank b = true
  | .malformedRedirect =>
      (∃ d append rest, d.isDigit = true ∧ front = [d] ∧ back = arrow append ++ '+' :: rest) ∨
      Directs front ∧ LacksTarget o back ∨
      Introduces .descriptor front ∧
        (∀ c ∈ back.head?, Text.isBlank c = false ∧ c.isDigit = false) ∨
      ∃ what ds rest, Introduces what front ∧ back = ds ++ rest ∧ ds ≠ [] ∧
        Run.Maximal Char.isDigit ds rest ∧ UInt32.size ≤ ofDigits ds

/-- A fault points at what its kind says. -/
theorem Explains.pointsAt {o : Options} {cause : Cause} {front back : Text}
    (h : Explains o cause front back) : PointsAt o front back cause.kind := by
  cases h with
  | openQuote _ q heven => exact ⟨q, _, rfl, heven⟩
  | danglingEscape => exact .inr (.inl rfl)
  | unexpected rest hc => exact .inl ⟨rfl, _, rest, rfl, hc⟩
  | noCommand hblanks => exact .inr (.inr ⟨rfl, _, rfl, hblanks⟩)
  | sessionDescriptor append rest hd => exact .inl ⟨_, append, rest, hd, rfl, rfl⟩
  | missingTarget hfront hnone => exact .inr (.inl ⟨hfront, .inl hnone⟩)
  | emptyTarget hfront hread hne hempty =>
    exact .inr (.inl ⟨hfront, .inr ⟨_, _, _, rfl, hread, hne, hempty⟩⟩)
  | noDescriptor hfront hnone => exact .inr (.inr (.inl ⟨hfront, hnone⟩))
  | outOfRange hfront hne hdigits hsize =>
    exact .inr (.inr (.inr ⟨_, _, _, hfront, rfl, hne, hdigits, hsize⟩))

/-! ### Readers -/

variable {o : Options} {j k k' : Cursor} {front name t : Text} {fd : Option Fd} {append : Bool}
  {place : Nat} {e : Failure}

/-- A failure at a token that begins at `j`, with a place that is explained. -/
def Failure.IsExplained (o : Options) (j : Cursor) (e : Failure) : Prop :=
  j.Reaches e.cursor ∧ ∃ front k, j.Takes front k ∧ e.fault.position = k.offset ∧
    Explains o e.fault.cause front k.rest

/-- If a token cannot be read at `j`, or what is read cannot be resolved, this is explained. -/
def Reading.IsExplained (o : Options) (j : Cursor) : Reading RawToken → Prop
  | .ok (raw, k) => ∀ f, raw.resolve o = .error f → Failure.IsExplained o j ⟨f, k⟩
  | .error e => e.IsExplained o j

theorem Reading.map_eq_error_iff {α β : Type} {f : α → β} {r : Reading α} :
    r.map f = .error e ↔ r = .error e := by
  cases r <;> simp [Reading.map]

theorem Reading.IsExplained.map {α : Type} {f : α → RawToken} {r : Reading α}
    (herror : ∀ e, r = .error e → e.IsExplained o j)
    (hok : ∀ a k g, r = .ok (a, k) → (f a).resolve o = .error g → Failure.IsExplained o j ⟨g, k⟩) :
    (r.map f).IsExplained o j := by
  cases hr : r with
  | error e => exact herror e hr
  | ok p => exact fun g hg => hok p.1 p.2 g hr hg

theorem isExplained_fail {cause : Cause} (hk : j.Reaches k) (hj : j.Takes front k')
    (h : Explains o cause front k'.rest) :
    (fail cause k'.offset k : Reading RawToken).IsExplained o j := ⟨hk, front, k', hj, rfl, h⟩

theorem isExplained_of_readSegments {inRun : Bool} (hj : j.Takes front k)
    (h : readSegments o.terminator inRun k = .error e) : e.IsExplained o j := by
  fun_induction readSegments o.terminator inRun k generalizing front with
  | case1 => cases h
  | case2 inRun k c t hr q hq extent hclosed =>
    rename_i ih
    have hrest : k.rest = c :: extent.taken ++ extent.rest := by
      rw [hr, List.cons_append, Extent.taken_append_rest_toSingle]
    exact ih (hj.advance hrest) (Reading.map_eq_error_iff.1 h)
  | case3 inRun k c t hr q hq extent =>
    rename_i hopen
    obtain rfl := Except.error.inj h
    obtain rfl := Quote.ofMark?_eq_some_iff.1 hq
    refine ⟨hj.reaches, front, k, hj, rfl, ?_⟩
    rw [hr]
    exact .openQuote front q (Extent.evenRuns_of_open (by simpa using hopen))
  | case4 inRun k c hq hc hr =>
    obtain rfl := Except.error.inj h
    refine ⟨hj.reaches.trans (.advance (by simp)), front, k, hj, rfl, ?_⟩
    rw [hr, hc.1]
    exact .danglingEscape front
  | case5 inRun k c hq hc d t hr _ ih => exact ih (hj.advance hr) (Reading.map_eq_error_iff.1 h)
  | case6 inRun k c t hr hq hc hw ih => exact ih (hj.advance hr) (Reading.map_eq_error_iff.1 h)
  | case7 => cases h

/-- Where no segment is read, no word begins. -/
theorem head?_of_readSegments_nil {terminator : Option Char}
    (h : readSegments terminator false k = .ok ([], k')) :
    ∀ c ∈ k.rest.head?, Quote.ofMark? c = none ∧ isWordChar terminator c = false := by
  intro c hc
  obtain ⟨t, hk⟩ := List.head?_eq_some_iff.1 hc
  rw [readSegments] at h
  split at h
  · next hr => rw [hk] at hr; cases hr
  · next d u hr =>
    obtain ⟨rfl, rfl⟩ := List.cons.inj (hk.symm.trans hr)
    split at h
    · dsimp only at h
      split at h
      · obtain ⟨w, -, hw⟩ := Reading.map_eq_ok_iff.1 h
        cases hw
      · cases h
    · next hmark =>
      refine ⟨hmark, ?_⟩
      split at h
      · split at h
        · cases h
        · obtain ⟨w, -, hw⟩ := Reading.map_eq_ok_iff.1 h
          cases hw
      · split at h
        · obtain ⟨w, -, hw⟩ := Reading.map_eq_ok_iff.1 h
          unfold Segment.consRun at hw
          split at hw <;> cases hw
        · next hword => simpa using hword

theorem isExplained_of_readNumber {what : Numbered} (hj : j.Takes front k)
    (hfront : Introduces what front) (hnext : digitNext k = true)
    (h : readNumber what k = .error e) : e.IsExplained o j := by
  have hdigits := Run.maximal_takeWhile Char.isDigit k.rest
  have hne := takeWhile_isDigit_ne_nil hnext
  unfold readNumber at h
  dsimp only at h
  split at h
  · cases h
  · next hsize =>
    obtain rfl := Except.error.inj h
    refine ⟨hj.reaches.trans (.skipWhile _ k), front, k, hj, rfl, ?_⟩
    rw [← List.takeWhile_append_dropWhile (p := Char.isDigit) (l := k.rest)]
    exact .outOfRange hfront hne hdigits (Nat.not_lt.1 hsize)

theorem isExplained_readDuplicate (hname : Names fd name) (hj : j.Takes (name ++ ['>', '&']) k) :
    (readDuplicate fd k).IsExplained o j := by
  have hblanks := Run.maximal_takeWhile Text.isBlank k.rest
  have hfront := Introduces.descriptor hname hblanks.1
  unfold readDuplicate
  dsimp only
  split
  · next hnext =>
    apply Reading.IsExplained.map
    · intro e h
      exact isExplained_of_readNumber hj.skipBlanks hfront hnext h
    · rintro n l g - ⟨⟩
  · next hnext =>
    apply isExplained_fail hj.skipBlanks.reaches hj.skipBlanks
    apply Explains.noDescriptor hfront
    intro c hc
    exact ⟨hblanks.2 c hc, isDigit_of_not_digitNext hnext c hc⟩

theorem isSome_ofNat?_of_isDigit {d : Char} (h : d.isDigit = true) :
    (Fd.ofNat? (d.toNat - '0'.toNat)).isSome = true := by
  obtain ⟨n, hn, -⟩ := exists_fd_of_isDigit h
  rw [hn]
  rfl

theorem isExplained_readSession (hname : Names fd name)
    (hj : j.Takes (name ++ arrow append ++ ['+']) k) (hplace : place = j.offset + Text.size name) :
    (readSession fd append place k).IsExplained o j := by
  unfold readSession
  cases hname with
  | stdout =>
    rw [Option.isSome_none, if_neg Bool.false_ne_true]
    split
    · next hnext =>
      apply Reading.IsExplained.map
      · intro e h
        exact isExplained_of_readNumber hj (.session append) hnext h
      · rintro n l g - ⟨⟩
    · rintro g ⟨⟩
  | @digit d hd =>
    rw [if_pos (isSome_ofNat?_of_isDigit hd), hplace]
    let arrowPlace := j.advance [d] (arrow append ++ '+' :: k.rest)
    have hj' : j.Takes [d] arrowPlace := (Cursor.Takes.refl j).advance (by simp [hj.1])
    have hexplains : Explains o .sessionDescriptor [d] arrowPlace.rest :=
      .sessionDescriptor append k.rest hd
    exact isExplained_fail hj.reaches hj' hexplains

theorem isExplained_readTarget (hname : Names fd name) (hj : j.Takes (name ++ arrow append) k) :
    (readTarget o.terminator fd append k).IsExplained o j := by
  have hblanks := Run.maximal_takeWhile Text.isBlank k.rest
  have hfront := Directs.mk append hname hblanks.1
  apply Reading.IsExplained.map
  · intro e h
    exact isExplained_of_readSegments hj.skipBlanks h
  · intro w l g hread hresolve
    have hnone : w.flatMap (Segment.resolve o false) = [] := by
      by_contra hne
      cases (RawToken.resolve_redirect_of_ne hne).symm.trans hresolve
    obtain rfl := Except.error.inj ((RawToken.resolve_redirect_of_eq hnone).symm.trans hresolve)
    refine ⟨hj.skipBlanks.reaches.trans (reaches_of_readSegments hread), _, _, hj.skipBlanks, rfl,
      ?_⟩
    by_cases hw : w = []
    · rw [hw] at hread
      exact .missingTarget hfront fun c hc =>
        ⟨hblanks.2 c hc, head?_of_readSegments_nil hread c hc⟩
    · exact .emptyTarget hfront hread hw hnone

theorem isExplained_readRedirect (hname : Names fd name) (hj : j.Takes (name ++ ['>']) k)
    (hplace : place = j.offset + Text.size name) :
    (readRedirect o.terminator fd place k).IsExplained o j := by
  cases redirectForm_readRedirect o.terminator fd place k with
  | session harrow hplus hr =>
    rw [← hr]
    exact isExplained_readSession hname ((hj.endsArrow harrow).skipChar? hplus) hplace
  | target harrow _ _ hr =>
    rw [← hr]
    exact isExplained_readTarget hname (hj.endsArrow harrow)
  | duplicate _ hand hr =>
    have hsign := hj.skipChar? hand
    rw [List.append_assoc] at hsign
    rw [← hr]
    exact isExplained_readDuplicate hname hsign

theorem isExplained_readPipe (hj : j.Takes ['|'] k) : (readPipe k).IsExplained o j := by
  have hblanks := Run.maximal_takeWhile Text.isBlank k.rest
  unfold readPipe
  dsimp only
  split
  · next hend =>
    apply isExplained_fail hj.skipBlanks.reaches hj.skipBlanks
    rw [List.isEmpty_iff.1 hend]
    exact .noCommand hblanks.1
  · rintro g ⟨⟩

theorem isExplained_of_readWord {first : Bool} (h : readWord o first j = .error e) :
    e.IsExplained o j := by
  cases wordForm_iff.2 h with
  | @kept t hk _ hr =>
    have hslash : j.Takes ['\\'] (j.advance ['\\'] t) := (Cursor.Takes.refl j).advance hk
    exact isExplained_of_readSegments hslash (Reading.map_eq_error_iff.1 hr)
  | plain _ hr => exact isExplained_of_readSegments (.refl j) hr

/-- Where a word has no segment, none begins. -/
theorem head?_of_readWord_nil {first : Bool} (h : readWord o first k = .ok ([], k')) :
    ∀ c ∈ k.rest.head?, Quote.ofMark? c = none ∧ isWordChar o.terminator c = false := by
  cases wordForm_iff.2 h with
  | kept _ _ hr =>
    obtain ⟨w, -, hw⟩ := Reading.map_eq_ok_iff.1 hr
    cases hw
  | plain _ hr => exact head?_of_readSegments_nil hr

/-- The characters that can neither begin a token nor stand between tokens. -/
theorem eq_of_isWordChar_eq_false {terminator : Option Char} {c : Char}
    (hblank : Text.isBlank c = false) (hmark : Quote.ofMark? c = none)
    (hword : isWordChar terminator c = false) (hterminator : terminator ≠ some c) (harrow : c ≠ '>')
    (hbar : c ≠ '|') : c = '<' ∨ c = '&' := by
  have hquotes : c ≠ '\'' ∧ c ≠ '"' := by
    constructor
    · rintro rfl
      cases hmark
    · rintro rfl
      cases hmark
  apply Decidable.or_iff_not_imp_left.2
  simpa [isWordChar, hblank, hterminator.symm, harrow, hbar, hquotes] using hword

theorem isExplained_readToken {first : Bool} {c : Char} (hk : j.rest = c :: t)
    (hblank : Text.isBlank c = false) : (readToken o first j c t).IsExplained o j := by
  have hbehind : j.Takes [c] (j.advance [c] t) := (Cursor.Takes.refl j).advance hk
  cases tokenForm_readToken o first j c t with
  | terminator _ hr =>
    rw [← hr]
    rintro g ⟨⟩
  | redirect _ harrow hr =>
    subst harrow
    rw [← hr]
    exact isExplained_readRedirect .stdout hbehind rfl
  | pipe _ hbar hr =>
    subst hbar
    rw [← hr]
    exact isExplained_readPipe hbehind
  | descriptor _ hdigit hl hr =>
    rw [← hr]
    exact isExplained_readRedirect (.digit hdigit) (hbehind.skipChar? hl) rfl
  | nothing hbegins hword hr =>
    obtain ⟨hmark, hnone⟩ := head?_of_readWord_nil hword c (by rw [hk]; rfl)
    rw [← hr]
    apply isExplained_fail (.refl j) (.refl j)
    rw [hk]
    exact .unexpected t (eq_of_isWordChar_eq_false hblank hmark hnone hbegins.ne_terminator
      hbegins.ne_arrow hbegins.ne_bar)
  | word _ _ hr =>
    rw [← hr]
    apply Reading.IsExplained.map
    · intro e h
      exact isExplained_of_readWord h
    · rintro w l g - ⟨⟩

/-! ### Scanners -/

namespace Scanner

variable {s : Scanner} {d : Diagnostic}

/-- A call that returns a fault stops the scanner where reading failed. -/
theorem exists_failure_of_next (h : s.next.1 = some (.error d)) :
    ∃ e : Failure, e.IsExplained s.options s.cursor.skipBlanks ∧ d = e.fault.diagnose s.line ∧
      s.next.2 = s.stopAt e.cursor := by
  cases hf : s.finished with
  | true =>
    rw [next_of_finished hf] at h
    cases h
  | false =>
    obtain ⟨-, hnext⟩ | ⟨c, t, hk, hnext⟩ := next_cases hf
    · rw [hnext] at h
      cases h
    · have hblank := Run.head?_dropWhile Text.isBlank s.cursor.rest c
        (by rw [show s.cursor.rest.dropWhile Text.isBlank = c :: t from hk]; rfl)
      have hread : (readToken s.options (!s.started) s.cursor.skipBlanks c t).IsExplained s.options
          s.cursor.skipBlanks := isExplained_readToken hk hblank
      obtain ⟨e, herror, hnext⟩ | ⟨raw, k', hok, ⟨f, hraw, hnext⟩ | ⟨kind, -, hnext⟩⟩ := hnext
      · rw [herror] at hread
        rw [hnext] at h ⊢
        exact ⟨e, hread, (Except.error.inj (Option.some.inj h)).symm, rfl⟩
      · rw [hok] at hread
        rw [hnext] at h ⊢
        exact ⟨_, hread f hraw, (Except.error.inj (Option.some.inj h)).symm, rfl⟩
      · rw [hnext] at h
        cases h

theorem exists_after_of_run (s : Scanner) (h : s.run.fault = some d) :
    ∃ n, (s.after n).next.1 = some (.error d) := by
  fun_induction run s with
  | case1 => cases h
  | case2 s d' s' hnext =>
    obtain rfl := Option.some.inj h
    exact ⟨0, by rw [after, hnext]⟩
  | case3 s t s' hnext r ih =>
    obtain ⟨n, hn⟩ := ih h
    exact ⟨n + 1, by rw [after, hnext, hn]⟩

end Scanner

theorem Diagnostic.caret_diagnose (front back : Text) (cause : Cause) :
    (Fault.diagnose (front ++ back) ⟨cause, Text.size front⟩).caret =
      front ++ back ++ '\n' :: List.replicate front.length ' ' ++ ['^'] := by
  have hmin : min (Text.size front) (Text.size (front ++ back)) = Text.size front := by
    rw [Text.size_append]
    omega
  have hcolumn : (Fault.diagnose (front ++ back) ⟨cause, Text.size front⟩).column =
      front.length := by
    simp only [column, Fault.diagnose, hmin, Text.splitAt?_size]
  rw [caret, hcolumn]
  rfl

/-- Every fault of a line, however the line is read, points at what explains it and at what its kind
says. Its token begins behind `before`, and the caret stands below the character at its place. -/
theorem exists_explanation {line : Text} {d : Diagnostic}
    (h : tokenize o line = .error d ∨
      ∃ n, ((Scanner.ofLine o line).after n).next.1 = some (.error d)) :
    ∃ n before front back cause, line = before ++ front ++ back ∧
      ((Scanner.ofLine o line).after n).cursor.skipBlanks = ⟨Text.size before, front ++ back⟩ ∧
      d = Fault.diagnose line ⟨cause, Text.size (before ++ front)⟩ ∧
      Explains o cause front back ∧ PointsAt o front back d.kind ∧
      d.message ≠ "Unexpected end of line".toList ∧
      d.caret = line ++ '\n' :: List.replicate (before ++ front).length ' ' ++ ['^'] := by
  have hcall : ∃ n, ((Scanner.ofLine o line).after n).next.1 = some (.error d) := by
    obtain h | h := h
    · exact Scanner.exists_after_of_run _ (fault_of_tokenize_eq_error h)
    · exact h
  obtain ⟨n, hn⟩ := hcall
  obtain ⟨hstands, hline, hoptions⟩ := Scanner.standsIn_after o line n
  obtain ⟨e, ⟨-, front, k, hk, hposition, hexplains⟩, hd, -⟩ := Scanner.exists_failure_of_next hn
  obtain ⟨before, hbefore, hoffset⟩ := hstands.skipBlanks
  rw [hline] at hd
  rw [hoptions] at hexplains
  have hline' : line = before ++ front ++ k.rest := by
    rw [List.append_assoc, ← hk.1]
    exact hbefore
  have hstart : ((Scanner.ofLine o line).after n).cursor.skipBlanks =
      ⟨Text.size before, front ++ k.rest⟩ := by
    rw [← hk.1, ← Nat.zero_add (Text.size before)]
    exact congrArg (Cursor.mk · _) hoffset
  have hplace : e.fault.position = Text.size (before ++ front) := by
    rw [hposition, hk.2, hstart, Text.size_append]
  have hfault : d = Fault.diagnose line ⟨e.fault.cause, Text.size (before ++ front)⟩ := by
    rw [hd, ← hplace]
  refine ⟨n, before, front, k.rest, e.fault.cause, hline', hstart, hfault, hexplains, ?_, ?_, ?_⟩
  · rw [hfault]
    exact hexplains.pointsAt
  · rw [hfault]
    exact hexplains.message_ne
  · have hcaret := Diagnostic.caret_diagnose (before ++ front) k.rest e.fault.cause
    rw [← hline'] at hcaret
    rw [hfault, hcaret]

theorem exists_explanation_descriptor :
    ∃ (o : Options) (line : Text) (d : Diagnostic), line = "é 2>& x".toList ∧
      tokenize o line = .error d ∧ d.position = 7 ∧
      ∃ n before front back cause, line = before ++ front ++ back ∧
        ((Scanner.ofLine o line).after n).cursor.skipBlanks = ⟨Text.size before, front ++ back⟩ ∧
        d = Fault.diagnose line ⟨cause, Text.size (before ++ front)⟩ ∧
        Explains o cause front back ∧ PointsAt o front back d.kind ∧
        d.message ≠ "Unexpected end of line".toList ∧
        d.caret = line ++ '\n' :: List.replicate (before ++ front).length ' ' ++ ['^'] := by
  let o : Options := { terminator := some ';' }
  have hline : tokenize o "é 2>& x".toList =
      .error (Fault.diagnose "é 2>& x".toList ⟨.noDescriptor, 7⟩) := by
    decide +kernel
  exact ⟨o, _, _, rfl, hline, rfl, exists_explanation (.inl hline)⟩

end Command

end QueryConsole
