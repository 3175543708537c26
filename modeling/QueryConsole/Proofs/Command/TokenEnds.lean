import QueryConsole.Proofs.Command.Cover

/-!
# Where tokens end

Between two tokens nothing is awaited, and the character at hand is not overlooked: a reader that
stops has left nothing that it would have taken. For a number this holds behind its last digit. For
a word it follows from how the word has gone on so far, behind a quotation, an escape or a run.
-/

namespace QueryConsole.Command

variable {o : Options} {terminator : Option Char} {c d : Char} {front rest : Text} {what : Awaited}
  {inRun : Bool}

theorem isBlank_of_isWordChar (h : isWordChar terminator d = true) : Text.isBlank d = false := by
  simp only [isWordChar, Bool.and_eq_true, Bool.not_eq_true'] at h
  exact h.1.1

theorem not_awaits_of_isWordChar (h : isWordChar terminator d = true) :
    ¬Awaits o what (front ++ [d]) := by
  have hne (c : Char) (hc : isWordChar terminator c = false) : d ≠ c := by
    rintro rfl
    cases hc.symm.trans h
  apply Awaits.not_concat (isBlank_of_isWordChar h)
  · exact hne '>' (by simp [isWordChar])
  · exact hne '&' (by simp [isWordChar])

theorem IsBare.ne_quoted (h : IsBare o front) (q : Quote) : coverAfter o front ≠ .quoted q := by
  rcases h with h | h <;> simp [h]

theorem IsBare.ne_escaped (h : IsBare o front) : coverAfter o front ≠ .escaped := by
  rcases h with h | h <;> simp [h]

theorem isWordChar_of_isDigit (hd : d.isDigit = true) (hterminator : terminator ≠ some d) :
    isWordChar terminator d = true := by
  have hne (e : Char) (he : e.isDigit = false) : d ≠ e := ne_of_isDigit hd he
  simp [isWordChar, isBlank_of_isDigit hd, hterminator.symm, hne]

/-- Behind `front` nothing is awaited, and what begins `rest` is not overlooked. -/
structure Settled (o : Options) (front rest : Text) : Prop where
  not_awaits : ∀ what, ¬Awaits o what front
  not_overlooked : ∀ c ∈ rest.head?, ¬Overlooked o front c

theorem Settled.start (o : Options) (rest : Text) : Settled o [] rest :=
  ⟨fun _ h => h.ne_nil rfl, fun _ _ h => h.ne_nil rfl⟩

/-- Behind a blank nothing is overlooked if nothing is awaited. -/
theorem not_overlooked_of_isBlank (hbare : IsBare o front) (hd : Text.isBlank d = true)
    (h : ∀ what, ¬Awaits o what (front ++ [d])) : ¬Overlooked o (front ++ [d]) c := by
  have hdigit (hdigit : d.isDigit = true) : False := by
    cases (isBlank_of_isDigit hdigit).symm.trans hd
  intro hover
  obtain ⟨-, he, -⟩ | hawaits | ⟨-, hnumber⟩ | ⟨-, -, hword, -⟩ | ⟨-, hescaped⟩ :=
    hover.of_concat
  · exact hdigit he
  · exact h _ hawaits
  · obtain ⟨-, hawaits | ⟨rfl, -⟩ | ⟨he, -⟩⟩ := hnumber.of_concat
    · exact h _ hawaits
    · exact absurd hd (by decide)
    · exact hdigit he
  · cases (isBlank_of_isWordChar hword).symm.trans hd
  · exact hbare.ne_escaped hescaped

theorem Settled.append_blanks {bs : Text} (hbs : ∀ b ∈ bs, Text.isBlank b = true)
    (hbare : IsBare o front) (h : Settled o front (bs ++ rest)) : Settled o (front ++ bs) rest := by
  have hawaits (what : Awaited) : ¬Awaits o what (front ++ bs) := fun hw =>
    h.not_awaits what ((Awaits.append_blanks_iff hbs).1 hw)
  refine ⟨hawaits, fun c hc => ?_⟩
  obtain rfl | ⟨init, b, rfl⟩ := List.eq_nil_or_concat bs
  · rw [List.append_nil]
    exact h.not_overlooked c hc
  · rw [List.concat_eq_append] at hbs hawaits ⊢
    have hinit := hbare.append_blanks fun b hb => hbs b (List.mem_append_left _ hb)
    rw [← List.append_assoc] at hawaits ⊢
    exact not_overlooked_of_isBlank (by rwa [IsBare, hinit]) (hbs b (by simp)) hawaits

/-- A number has ended where no digit follows. -/
theorem InNumber.settled (h : InNumber o front) (hrest : ∀ c ∈ rest.head?, c.isDigit = false)
    (hawaits : ∀ what, ¬Awaits o what front) : Settled o front rest := by
  refine ⟨hawaits, fun c hc hover => ?_⟩
  obtain rfl | ⟨s, d, rfl⟩ := List.eq_nil_or_concat front
  · exact h.ne_nil rfl
  rw [List.concat_eq_append] at h hawaits hover
  obtain ⟨hbare, hbefore⟩ := h.of_concat
  obtain ⟨-, hd, hstart⟩ | htarget | ⟨hdigit, -⟩ | ⟨-, -, -, hnumber⟩ | ⟨-, hescaped⟩ :=
    hover.of_concat
  · obtain hdescriptor | ⟨rfl, -⟩ | ⟨-, hnumber⟩ := hbefore
    · exact hawaits _ hdescriptor
    · cases hd
    · exact hstart.not_inNumber hnumber
  · exact hawaits _ htarget
  · cases (hrest c hc).symm.trans hdigit
  · exact hnumber h
  · exact hbare.ne_escaped hescaped

theorem InNumber.settled_append_digits {ds : Text} (h : InNumber o front) (hne : ds ≠ [])
    (hds : Run.Maximal Char.isDigit ds rest) : Settled o (front ++ ds) rest := by
  refine (h.append_digits hds.1).settled hds.2 fun what => ?_
  obtain rfl | ⟨init, d, rfl⟩ := List.eq_nil_or_concat ds
  · exact absurd rfl hne
  · rw [List.concat_eq_append] at hds ⊢
    rw [← List.append_assoc]
    exact Awaits.not_concat_of_isDigit (hds.1 d (by simp))

/-! ### Words -/

/-- What begins `rest` is no part of a number, and not the descriptor of a redirection. -/
structure LeavesWord (o : Options) (front rest : Text) : Prop where
  not_inNumber : ∀ d ∈ rest.head?, isWordChar o.terminator d = true → ¬InNumber o (front ++ [d])
  not_descriptor : AtTokenStart o front → ∀ d t, rest = d :: t → d.isDigit = true →
    t.head? ≠ some '>'

/-- A token is left to a word if it does not begin with a descriptor. -/
theorem Settled.leavesWord {t : Text} (h : Settled o front (d :: t))
    (hd : d.isDigit = true → t.head? ≠ some '>') : LeavesWord o front (d :: t) := by
  constructor
  · intro e he hword hnumber
    obtain rfl := Option.some.inj he
    obtain ⟨-, hawaits | ⟨-, s, rfl, hbare⟩ | ⟨hdigit, hnumber⟩⟩ := hnumber.of_concat
    · exact not_awaits_of_isWordChar hword hawaits
    · exact h.not_awaits _ (.target hbare)
    · exact h.not_overlooked d rfl (.digit hnumber hdigit)
  · rintro - e u ⟨⟩
    exact hd

/-- A target is left to a word if it does not begin with the sign of a session. -/
theorem Awaits.leavesWord (h : Awaits o .target front)
    (hrest : ∀ s, front = s ++ ['>'] → rest.head? ≠ some '+') : LeavesWord o front rest := by
  constructor
  · intro d hd hword hnumber
    obtain ⟨-, hawaits | ⟨rfl, s, hfront, -⟩ | ⟨-, hnumber⟩⟩ := hnumber.of_concat
    · exact not_awaits_of_isWordChar hword hawaits
    · exact hrest s hfront hd
    · exact h.not_inNumber hnumber
  · intro hstart
    exact absurd h (hstart.not_awaits _)

/-- A word has gone on up to `front`. At its end a backslash is taken if a run of characters without
quotes goes on there, or if it is not the terminator; no other character is overlooked. -/
structure WithinWord (o : Options) (inRun : Bool) (front rest : Text) : Prop where
  not_awaits : ∀ what, ¬Awaits o what front
  not_inNumber : ¬InNumber o front
  not_atTokenStart : ¬AtTokenStart o front
  overlooked : inRun = true → Overlooked o front '\\'
  of_overlooked : ∀ c ∈ rest.head?, Overlooked o front c →
    c = '\\' ∧ (inRun = true ∨ o.terminator ≠ some '\\')

namespace WithinWord

/-- Behind a character that is hidden nothing of a redirection goes on. -/
theorem of_not_isBare (h : ¬IsBare o front) : (∀ what, ¬Awaits o what (front ++ [d])) ∧
    ¬InNumber o (front ++ [d]) ∧ ¬AtTokenStart o (front ++ [d]) :=
  ⟨fun _ hawaits => h hawaits.of_concat.1, fun hnumber => h hnumber.of_concat.1,
    fun hstart => h (hstart.behind_blank front d rfl).1⟩

/-- Behind a character of a word only an arrow or a backslash is overlooked. -/
theorem arrow_or_slash (hawaits : ∀ what, ¬Awaits o what (front ++ [d]))
    (hnumber : ¬InNumber o (front ++ [d])) (h : Overlooked o (front ++ [d]) c) :
    c = '>' ∧ d.isDigit = true ∧ AtTokenStart o front ∨
      c = '\\' ∧ ∀ q, coverAfter o front ≠ .quoted q := by
  obtain harrow | htarget | ⟨-, hn⟩ | ⟨hc, hbare, -⟩ | ⟨hc, hescaped⟩ := h.of_concat
  · exact .inl harrow
  · exact absurd htarget (hawaits _)
  · exact absurd hn hnumber
  · exact .inr ⟨hc, hbare.ne_quoted⟩
  · exact .inr ⟨hc, fun q => by simp [hescaped]⟩

/-- Behind a quotation. -/
theorem quoted {q : Quote} (h : coverAfter o front = .quoted q) :
    WithinWord o false (front ++ [q.mark]) rest := by
  obtain ⟨hawaits, hnumber, hstart⟩ := of_not_isBare fun hbare => hbare.ne_quoted q h
  refine ⟨hawaits, hnumber, hstart, nofun, fun c _ hover => ?_⟩
  obtain ⟨-, -, hstart⟩ | ⟨-, hquoted⟩ := arrow_or_slash hawaits hnumber hover
  · exact absurd h (hstart.isBare.ne_quoted q)
  · exact absurd h (hquoted q)

theorem quotation {q : Quote} {t : Text} (hopen : Opens o front (q.mark :: t))
    (ht : (Extent.toSingle q.mark t).closed = true) :
    WithinWord o false (front ++ q.mark :: (Extent.toSingle q.mark t).taken) rest := by
  obtain ⟨s, htaken, hs⟩ := exists_quoted_of_toSingle hopen.quotes ht
  have hword : WithinWord o false (front ++ [q.mark] ++ s ++ [q.mark]) rest := quoted hs
  rw [htaken]
  simpa using hword

/-- Behind an escaped character. -/
theorem escaped (h : coverAfter o front = .escaped) : WithinWord o true (front ++ [d]) rest := by
  obtain ⟨hawaits, hnumber, hstart⟩ := of_not_isBare fun hbare => hbare.ne_escaped h
  refine ⟨hawaits, hnumber, hstart, fun _ => .behindEscaped h, fun c _ hover => ?_⟩
  obtain ⟨-, -, hstart⟩ | ⟨hc, -⟩ := arrow_or_slash hawaits hnumber hover
  · exact absurd h hstart.isBare.ne_escaped
  · exact ⟨hc, .inl rfl⟩

theorem escape {t : Text} (hopen : Opens o front ('\\' :: t)) :
    WithinWord o true (front ++ ['\\', d]) rest := by
  have hword : WithinWord o true (front ++ ['\\'] ++ [d]) rest := escaped hopen.escapes
  rwa [List.append_assoc] at hword

/-- Behind a character without quotes. -/
theorem run (hbare : IsBare o front) (hword : isWordChar o.terminator d = true)
    (h : LeavesWord o front (d :: rest)) : WithinWord o true (front ++ [d]) rest := by
  have hawaits (what : Awaited) : ¬Awaits o what (front ++ [d]) := not_awaits_of_isWordChar hword
  have hnumber := h.not_inNumber d rfl hword
  refine ⟨hawaits, hnumber, fun hstart => ?_, fun _ => .inRun hbare hword hnumber,
    fun c hc hover => ?_⟩
  · cases (isBlank_of_isWordChar hword).symm.trans (hstart.behind_blank front d rfl).2
  · obtain ⟨rfl, hd, hstart⟩ | ⟨hc, -⟩ := arrow_or_slash hawaits hnumber hover
    · exact absurd hc (h.not_descriptor hstart d rest rfl hd)
    · exact ⟨hc, .inl rfl⟩

/-- Behind the backslash that the first token keeps. -/
theorem kept (h : o.terminator ≠ some '\\') : WithinWord o false (front ++ ['\\']) rest := by
  have hawaits (what : Awaited) : ¬Awaits o what (front ++ ['\\']) :=
    Awaits.not_concat (by decide) (by decide) (by decide)
  have hnumber : ¬InNumber o (front ++ ['\\']) := by
    intro hn
    obtain ⟨-, hdescriptor | ⟨hplus, -⟩ | ⟨hdigit, -⟩⟩ := hn.of_concat
    · exact hawaits _ hdescriptor
    · exact absurd hplus (by decide)
    · exact absurd hdigit (by decide)
  refine ⟨hawaits, hnumber, fun hstart => ?_, nofun, fun c _ hover => ?_⟩
  · exact absurd (hstart.behind_blank front '\\' rfl).2 (by decide)
  · obtain ⟨-, hdigit, -⟩ | ⟨hc, -⟩ := arrow_or_slash hawaits hnumber hover
    · exact absurd hdigit (by decide)
    · exact ⟨hc, .inr h⟩

theorem leavesWord (h : WithinWord o inRun front rest) : LeavesWord o front rest := by
  constructor
  · intro d _ hword hnumber
    obtain ⟨-, hawaits | ⟨-, s, rfl, hbare⟩ | ⟨-, hnumber⟩⟩ := hnumber.of_concat
    · exact not_awaits_of_isWordChar hword hawaits
    · exact h.not_awaits _ (.target hbare)
    · exact h.not_inNumber hnumber
  · intro hstart
    exact absurd hstart h.not_atTokenStart

theorem settled (h : WithinWord o inRun front rest)
    (hrest : rest.head? = some '\\' → ¬(inRun = true ∨ o.terminator ≠ some '\\')) :
    Settled o front rest := by
  refine ⟨h.not_awaits, fun c hc hover => ?_⟩
  obtain ⟨rfl, hslash⟩ := h.of_overlooked c hc hover
  exact hrest hc hslash

end WithinWord

end QueryConsole.Command
