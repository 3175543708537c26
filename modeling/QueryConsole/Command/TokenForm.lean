import QueryConsole.Command.RawToken

/-!
# The forms of a token

Each reader tells apart a few forms of what it reads. A relation beside it names the forms, with what
they ask of the text and with the reader that goes on, and holds of what the reader gives and of
nothing else. So a fact about a reader is proved form by form.
-/

namespace QueryConsole.Command

section Readers

variable {o : Options} {terminator : Option Char} {fd : Option Fd} {first append : Bool}
  {place : Nat} {k l : Cursor} {c d : Char} {t : Text} {raw : RawToken} {r : Reading RawToken}

theorem skipChar?_eq_some_iff :
    skipChar? c k = some l ↔ ∃ t, k.rest = c :: t ∧ l = k.advance [c] t := by
  unfold skipChar?
  constructor
  · intro h
    split at h
    · cases h
    · next d t hk =>
      split at h
      · next hd => exact ⟨t, hd ▸ hk, (Option.some.inj h).symm⟩
      · cases h
  · rintro ⟨t, hk, rfl⟩
    simp [hk]

theorem skipChar?_eq_none_iff : skipChar? c k = none ↔ k.rest.head? ≠ some c := by
  rw [Option.eq_none_iff_forall_ne_some, Ne, List.head?_eq_some_iff]
  simp only [ne_eq, skipChar?_eq_some_iff]
  exact ⟨fun h ⟨t, hk⟩ => h _ ⟨t, hk, rfl⟩, fun h _ ⟨t, hk, _⟩ => h ⟨t, hk⟩⟩

theorem skipChar?_of_cons (h : k.rest = c :: t) : skipChar? c k = some (k.advance [c] t) :=
  skipChar?_eq_some_iff.2 ⟨t, h, rfl⟩

theorem rest_of_skipChar? (h : skipChar? c k = some l) : k.rest = c :: l.rest := by
  obtain ⟨t, hk, rfl⟩ := skipChar?_eq_some_iff.1 h
  exact hk

theorem skipChar?_eq_none_of_ne (h : skipChar? c k = some l) (hd : d ≠ c) :
    skipChar? d k = none := by
  rw [skipChar?_eq_none_iff, rest_of_skipChar? h]
  exact fun hhead => hd (Option.some.inj hhead).symm

theorem ne_of_isDigit (hc : c.isDigit = true) (hd : d.isDigit = false) : c ≠ d := by
  rintro rfl
  rw [hc] at hd
  cases hd

theorem takeWhile_isDigit_ne_nil (h : digitNext k = true) : k.rest.takeWhile Char.isDigit ≠ [] := by
  obtain ⟨d, hd, hdigit⟩ := (Option.any_eq_true _ _).1 h
  obtain ⟨t, ht⟩ := List.head?_eq_some_iff.1 hd
  simp [ht, hdigit]

theorem isDigit_of_not_digitNext (h : ¬digitNext k = true) :
    ∀ d ∈ k.rest.head?, d.isDigit = false := by
  intro d hd
  rw [Bool.eq_false_iff]
  exact fun hdigit => h ((Option.any_eq_true _ _).2 ⟨d, hd, hdigit⟩)

theorem readNumber_eq_ok_iff {what : Numbered} {n : UInt32} :
    readNumber what k = .ok (n, l) ↔ ofDigits (k.rest.takeWhile Char.isDigit) < UInt32.size ∧
      n = .ofNat (ofDigits (k.rest.takeWhile Char.isDigit)) ∧ l = k.skipWhile Char.isDigit := by
  unfold readNumber
  dsimp only
  split
  · next hsize =>
    constructor
    · intro h
      obtain ⟨rfl, rfl⟩ := Prod.mk.inj (Except.ok.inj h)
      exact ⟨hsize, rfl, rfl⟩
    · rintro ⟨-, rfl, rfl⟩
      rfl
  · next hsize =>
    constructor
    · intro h
      cases h
    · rintro ⟨h, -⟩
      exact absurd h hsize

theorem readDuplicate_eq_ok_iff :
    readDuplicate fd k = .ok (raw, l) ↔ digitNext k.skipBlanks = true ∧
      ∃ n, readNumber .descriptor k.skipBlanks = .ok (n, l) ∧
        .duplicate (fd.getD Fd.stdout) n = raw := by
  unfold readDuplicate
  dsimp only
  split
  · next hdigit => simp only [Reading.map_eq_ok_iff, hdigit, true_and]
  · next hdigit => simp only [fail, hdigit, false_and, reduceCtorEq]

/-- A session is named by a number, or by nothing if it is the current one. -/
inductive SessionForm (append : Bool) (k : Cursor) (raw : RawToken) (l : Cursor) : Prop
  | numbered {n : UInt32} : digitNext k = true → readNumber .session k = .ok (n, l) →
      .session (if n = 0 then none else some n) append = raw → SessionForm append k raw l
  | current : ¬digitNext k = true → .session none append = raw → k = l →
      SessionForm append k raw l

theorem readSession_eq_ok_iff :
    readSession fd append place k = .ok (raw, l) ↔
      fd.isSome = false ∧ SessionForm append k raw l := by
  cases fd with
  | some _ => simp [readSession, fail]
  | none =>
    rw [readSession, Option.isSome_none, if_neg Bool.false_ne_true]
    split
    · next hdigit =>
      rw [Reading.map_eq_ok_iff]
      constructor
      · rintro ⟨n, hn, hraw⟩
        exact ⟨rfl, .numbered hdigit hn hraw⟩
      · rintro ⟨-, ⟨-, hn, hraw⟩ | ⟨hnot, -, -⟩⟩
        · exact ⟨_, hn, hraw⟩
        · exact absurd hdigit hnot
    · next hdigit =>
      constructor
      · intro h
        obtain ⟨hraw, hl⟩ := Prod.mk.inj (Except.ok.inj h)
        exact ⟨rfl, .current hdigit hraw hl⟩
      · rintro ⟨-, ⟨hnot, -, -⟩ | ⟨-, rfl, rfl⟩⟩
        · exact absurd hnot hdigit
        · rfl

theorem readPipe_eq_ok_iff :
    readPipe k = .ok (raw, l) ↔
      k.skipBlanks.rest ≠ [] ∧ raw = .pipe k.skipBlanks.rest ∧ l = k.skipBlanks.finish := by
  unfold readPipe
  dsimp only
  split
  · next hend => simp [fail, List.isEmpty_iff.1 hend]
  · next hne =>
    constructor
    · intro h
      obtain ⟨rfl, rfl⟩ := Prod.mk.inj (Except.ok.inj h)
      exact ⟨by simpa using hne, rfl, rfl⟩
    · rintro ⟨-, rfl, rfl⟩
      rfl

/-- The arrow whose first `>` stands before `k` ends at `j`. One that appends has a second `>`. -/
inductive EndsArrow (k : Cursor) : Bool → Cursor → Prop
  | single : skipChar? '>' k = none → EndsArrow k false k
  | double {j : Cursor} : skipChar? '>' k = some j → EndsArrow k true j

/-- What a redirection is made to, and the reading of it. -/
inductive RedirectForm (terminator : Option Char) (fd : Option Fd) (place : Nat) (k : Cursor)
    (r : Reading RawToken) : Prop
  | session {append : Bool} {j l : Cursor} : EndsArrow k append j → skipChar? '+' j = some l →
      readSession fd append place l = r → RedirectForm terminator fd place k r
  | target {append : Bool} {j : Cursor} : EndsArrow k append j → skipChar? '+' j = none →
      (append = false → skipChar? '&' j = none) → readTarget terminator fd append j = r →
      RedirectForm terminator fd place k r
  | duplicate {j : Cursor} : skipChar? '>' k = none → skipChar? '&' k = some j →
      readDuplicate fd j = r → RedirectForm terminator fd place k r

theorem RedirectForm.readRedirect_eq (h : RedirectForm terminator fd place k r) :
    readRedirect terminator fd place k = r := by
  cases h with
  | session harrow hplus hr =>
    cases harrow with
    | single harrow =>
      have hand := skipChar?_eq_none_of_ne hplus (show '&' ≠ '+' by decide)
      simp only [readRedirect, harrow, hplus, hand, hr]
    | double harrow => simp only [readRedirect, harrow, hplus, hr]
  | target harrow hplus hand hr =>
    cases harrow with
    | single harrow => simp only [readRedirect, harrow, hplus, hand rfl, hr]
    | double harrow => simp only [readRedirect, harrow, hplus, hr]
  | duplicate harrow hand hr => simp only [readRedirect, harrow, hand, hr]

theorem redirectForm_readRedirect (terminator : Option Char) (fd : Option Fd) (place : Nat)
    (k : Cursor) : RedirectForm terminator fd place k (readRedirect terminator fd place k) := by
  unfold readRedirect
  split
  · next j harrow =>
    split
    · next hplus => exact .session (.double harrow) hplus rfl
    · next hplus => exact .target (.double harrow) hplus nofun rfl
  · next harrow =>
    split
    · next hand => exact .duplicate harrow hand rfl
    · next hplus => exact .session (.single harrow) hplus rfl
    · next hand hplus => exact .target (.single harrow) hplus (fun _ => hand) rfl

theorem redirectForm_iff :
    RedirectForm terminator fd place k r ↔ readRedirect terminator fd place k = r :=
  ⟨RedirectForm.readRedirect_eq, fun h => h ▸ redirectForm_readRedirect terminator fd place k⟩

/-- No token but a word begins with the character `c`, when `behind` is the cursor behind it. -/
structure BeginsWord (o : Options) (c : Char) (behind : Cursor) : Prop where
  ne_terminator : o.terminator ≠ some c
  ne_arrow : c ≠ '>'
  ne_bar : c ≠ '|'
  no_descriptor : c.isDigit = true → skipChar? '>' behind = none

/-- What a token begins with, and the reading of it. -/
inductive TokenForm (o : Options) (first : Bool) (k : Cursor) (c : Char) (t : Text)
    (r : Reading RawToken) : Prop
  | terminator : o.terminator = some c → .ok (.terminator c, k.advance [c] t) = r →
      TokenForm o first k c t r
  | redirect : o.terminator ≠ some c → c = '>' →
      readRedirect o.terminator none k.offset (k.advance [c] t) = r → TokenForm o first k c t r
  | pipe : o.terminator ≠ some c → c = '|' → readPipe (k.advance [c] t) = r →
      TokenForm o first k c t r
  | descriptor {j : Cursor} : o.terminator ≠ some c → c.isDigit = true →
      skipChar? '>' (k.advance [c] t) = some j →
      readRedirect o.terminator (Fd.ofNat? (c.toNat - '0'.toNat)) (k.advance [c] t).offset j = r →
      TokenForm o first k c t r
  | nothing {l : Cursor} : BeginsWord o c (k.advance [c] t) → readWord o first k = .ok ([], l) →
      fail (.unexpected k.rest.head?) k.offset k = r → TokenForm o first k c t r
  | word : BeginsWord o c (k.advance [c] t) → (∀ l, readWord o first k ≠ .ok ([], l)) →
      (readWord o first k).map .word = r → TokenForm o first k c t r

theorem ite_descriptor_eq_none_iff :
    (if c.isDigit then skipChar? '>' k else none) = none ↔
      (c.isDigit = true → skipChar? '>' k = none) := by
  split
  · next hdigit => exact ⟨fun h _ => h, fun h => h hdigit⟩
  · next hdigit => exact ⟨fun _ h => absurd h hdigit, fun _ => rfl⟩

theorem TokenForm.readToken_eq (h : TokenForm o first k c t r) : readToken o first k c t = r := by
  unfold readToken
  dsimp only
  cases h with
  | terminator hc hr => rw [if_pos hc, hr]
  | redirect hc harrow hr => rw [if_neg hc, if_pos harrow, hr]
  | pipe hc hbar hr =>
    have harrow : c ≠ '>' := by
      rw [hbar]
      decide
    rw [if_neg hc, if_neg harrow, if_pos hbar, hr]
  | descriptor hc hdigit hj hr =>
    have harrow : c ≠ '>' := ne_of_isDigit hdigit (by decide)
    have hbar : c ≠ '|' := ne_of_isDigit hdigit (by decide)
    rw [if_neg hc, if_neg harrow, if_neg hbar, if_pos hdigit, hj]
    exact hr
  | nothing hbegins hword hr =>
    rw [if_neg hbegins.ne_terminator, if_neg hbegins.ne_arrow, if_neg hbegins.ne_bar,
      ite_descriptor_eq_none_iff.2 hbegins.no_descriptor, hword]
    exact hr
  | word hbegins hword hr =>
    rw [if_neg hbegins.ne_terminator, if_neg hbegins.ne_arrow, if_neg hbegins.ne_bar,
      ite_descriptor_eq_none_iff.2 hbegins.no_descriptor]
    dsimp only
    split
    · next l hnil => exact absurd hnil (hword l)
    · exact hr

theorem tokenForm_readToken (o : Options) (first : Bool) (k : Cursor) (c : Char) (t : Text) :
    TokenForm o first k c t (readToken o first k c t) := by
  unfold readToken
  dsimp only
  split
  · next hc => exact .terminator hc rfl
  · next hc =>
    split
    · next harrow => exact .redirect hc harrow rfl
    · next harrow =>
      split
      · next hbar => exact .pipe hc hbar rfl
      · next hbar =>
        split
        · next j hj =>
          split at hj
          · next hdigit => exact .descriptor hc hdigit hj rfl
          · cases hj
        · next hnone =>
          have hbegins : BeginsWord o c (k.advance [c] t) :=
            ⟨hc, harrow, hbar, ite_descriptor_eq_none_iff.1 hnone⟩
          split
          · next l hword => exact .nothing hbegins hword rfl
          · next hword => exact .word hbegins hword rfl

theorem tokenForm_iff : TokenForm o first k c t r ↔ readToken o first k c t = r :=
  ⟨TokenForm.readToken_eq, fun h => h ▸ tokenForm_readToken o first k c t⟩

/-! ### Every reader only reads on -/

theorem reaches_of_skipChar? (h : skipChar? c k = some l) : k.Reaches l := by
  obtain ⟨t, hk, rfl⟩ := skipChar?_eq_some_iff.1 h
  exact .advance (by simp [hk])

theorem EndsArrow.reaches {j : Cursor} (h : EndsArrow k append j) : k.Reaches j := by
  cases h with
  | single => exact .refl k
  | double h => exact reaches_of_skipChar? h

theorem reaches_of_readNumber {what : Numbered} {n : UInt32}
    (h : readNumber what k = .ok (n, l)) : k.Reaches l := by
  obtain ⟨-, -, rfl⟩ := readNumber_eq_ok_iff.1 h
  exact .skipWhile _ k

theorem reaches_of_readDuplicate (h : readDuplicate fd k = .ok (raw, l)) : k.Reaches l := by
  obtain ⟨-, n, hn, -⟩ := readDuplicate_eq_ok_iff.1 h
  exact (Cursor.Reaches.skipBlanks k).trans (reaches_of_readNumber hn)

theorem reaches_of_readSession (h : readSession fd append place k = .ok (raw, l)) :
    k.Reaches l := by
  obtain ⟨-, hform⟩ := readSession_eq_ok_iff.1 h
  cases hform with
  | numbered _ hn _ => exact reaches_of_readNumber hn
  | current _ _ hl => exact hl ▸ .refl k

theorem reaches_of_readTarget (h : readTarget terminator fd append k = .ok (raw, l)) :
    k.Reaches l := by
  obtain ⟨w, hw, _⟩ := Reading.map_eq_ok_iff.1 h
  exact (Cursor.Reaches.skipBlanks k).trans (reaches_of_readSegments hw)

theorem reaches_of_readRedirect (h : readRedirect terminator fd place k = .ok (raw, l)) :
    k.Reaches l := by
  cases redirectForm_iff.2 h with
  | session harrow hplus hr =>
    exact (harrow.reaches.trans (reaches_of_skipChar? hplus)).trans (reaches_of_readSession hr)
  | target harrow _ _ hr => exact harrow.reaches.trans (reaches_of_readTarget hr)
  | duplicate _ hand hr => exact (reaches_of_skipChar? hand).trans (reaches_of_readDuplicate hr)

theorem reaches_of_readPipe (h : readPipe k = .ok (raw, l)) : k.Reaches l := by
  obtain ⟨-, -, rfl⟩ := readPipe_eq_ok_iff.1 h
  exact (Cursor.Reaches.skipBlanks k).trans (.advance (by simp))

theorem reaches_of_readToken (hk : k.rest = c :: t)
    (h : readToken o first k c t = .ok (raw, l)) : k.Reaches l := by
  have behind : k.Reaches (k.advance [c] t) := .advance (by simp [hk])
  cases tokenForm_iff.2 h with
  | terminator _ hr => exact (Prod.mk.inj (Except.ok.inj hr)).2 ▸ behind
  | redirect _ _ hr => exact behind.trans (reaches_of_readRedirect hr)
  | pipe _ _ hr => exact behind.trans (reaches_of_readPipe hr)
  | descriptor _ _ hj hr =>
    exact (behind.trans (reaches_of_skipChar? hj)).trans (reaches_of_readRedirect hr)
  | nothing _ _ hr => cases hr
  | word _ _ hr =>
    obtain ⟨w, hw, _⟩ := Reading.map_eq_ok_iff.1 hr
    exact reaches_of_readWord hw

/-- A token takes at least one character. -/
theorem length_rest_lt_of_readToken (hk : k.rest = c :: t)
    (h : readToken o first k c t = .ok (raw, l)) : l.rest.length < k.rest.length := by
  rw [hk]
  apply Nat.lt_succ_of_le
  change l.rest.length ≤ (k.advance [c] t).rest.length
  cases tokenForm_iff.2 h with
  | terminator _ hr => exact (Prod.mk.inj (Except.ok.inj hr)).2 ▸ Nat.le_refl _
  | redirect _ _ hr => exact (reaches_of_readRedirect hr).length_le
  | pipe _ _ hr => exact (reaches_of_readPipe hr).length_le
  | descriptor _ _ hj hr =>
    exact ((reaches_of_skipChar? hj).trans (reaches_of_readRedirect hr)).length_le
  | nothing _ _ hr => cases hr
  | word _ hne hr =>
    obtain ⟨w, hw, _⟩ := Reading.map_eq_ok_iff.1 hr
    have hlt := length_rest_lt_of_readWord hw fun hnil => hne l (hnil ▸ hw)
    rw [hk] at hlt
    exact Nat.le_of_lt_succ hlt

end Readers

end QueryConsole.Command
