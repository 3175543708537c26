import QueryConsole.Proofs.Command.OpenQuotes

/-!
# What hides a terminator

Quotation marks around a terminator, a backslash before it and a pipe to the left of it hide it. One
that nothing hides ends its line, save for what the readers of redirections take for their own and
for a backslash inside a run of characters. What hides a place, and what a redirection before it
still awaits there, is told from the line alone, without regard to tokens.
-/

namespace QueryConsole.Command

/-- What hides the characters at a place of a line. -/
inductive Cover where
  /-- Nothing, and no token has begun. -/
  | start
  /-- Nothing. -/
  | bare
  | quoted (q : Quote)
  | escaped
  | piped
deriving DecidableEq, Repr

namespace Cover

/-- The cover behind a character that nothing hides. -/
def opened (c : Char) : Cover :=
  match Quote.ofMark? c with
  | some q => quoted q
  | none => if c = '\\' then escaped else if c = '|' then piped else bare

def step (o : Options) : Cover → Char → Cover
  | start, c =>
    if Text.isBlank c then start
    -- an initial backslash that is kept escapes nothing
    else if c = '\\' ∧ o.keepInitialEscape = true then bare
    else opened c
  | bare, c => opened c
  -- the second of two marks begins a quotation again
  | quoted q, c => if c = q.mark then bare else quoted q
  | escaped, _ => bare
  | piped, _ => piped

/-- Whether a character is hidden. The marks of a quotation are part of it. -/
def hides : Cover → Char → Bool
  | start, c | bare, c => (Quote.ofMark? c).isSome
  | quoted _, _ | escaped, _ | piped, _ => true

end Cover

/-- The cover behind the front part of a line. -/
def coverAfter (o : Options) (front : Text) : Cover := front.foldl (Cover.step o) .start

/-- Nothing hides what stands behind `front`. -/
def IsBare (o : Options) (front : Text) : Prop :=
  coverAfter o front = .start ∨ coverAfter o front = .bare

/-- What can be missing of a redirection behind its signs. -/
inductive Awaited where
  | target
  | descriptor
deriving DecidableEq, Repr

/-- The redirection with which `front` ends is not complete: its target or its descriptor is still to
come. -/
inductive Awaits (o : Options) : Awaited → Text → Prop
  | target {front : Text} : IsBare o front → Awaits o .target (front ++ ['>'])
  | descriptor {front : Text} : IsBare o front → Awaits o .descriptor (front ++ ['>', '&'])
  | blank {what : Awaited} {front : Text} {b : Char} : Awaits o what front →
      Text.isBlank b = true → Awaits o what (front ++ [b])

/-- A digit behind `front` is part of a number in a redirection. -/
inductive InNumber (o : Options) : Text → Prop
  | descriptor {front : Text} : Awaits o .descriptor front → InNumber o front
  | session {front : Text} : IsBare o front → InNumber o (front ++ ['>', '+'])
  | digit {front : Text} {d : Char} : InNumber o front → d.isDigit = true →
      InNumber o (front ++ [d])

/-- A token that begins behind `front` is the first or stands behind a blank, and no redirection
goes on with it. -/
structure AtTokenStart (o : Options) (front : Text) : Prop where
  behind_blank : ∀ s b, front = s ++ [b] → IsBare o s ∧ Text.isBlank b = true
  not_awaits : ∀ what, ¬Awaits o what front

/-- The places where a reader takes a character that nothing hides without asking whether it is the
terminator: such a character `c`, behind such a front part of a line. -/
inductive Overlooked (o : Options) : Text → Char → Prop
  /-- The arrow of a descriptor, and the second one. -/
  | arrow {front arrows : Text} {d : Char} : AtTokenStart o front → d.isDigit = true →
      arrows = [] ∨ arrows = ['>'] → Overlooked o (front ++ d :: arrows) '>'
  /-- The sign behind an arrow. -/
  | sign {front : Text} {c : Char} : IsBare o front → c = '&' ∨ c = '+' →
      Overlooked o (front ++ ['>']) c
  /-- A digit of a descriptor to follow, or of a session. -/
  | digit {front : Text} {c : Char} : InNumber o front → c.isDigit = true → Overlooked o front c
  /-- A backslash directly behind a character of a word without quotes. -/
  | inRun {front : Text} {d : Char} : IsBare o front → isWordChar o.terminator d = true →
      ¬InNumber o (front ++ [d]) → Overlooked o (front ++ [d]) '\\'
  /-- A backslash directly behind an escaped character. -/
  | behindEscaped {front : Text} {d : Char} : coverAfter o front = .escaped →
      Overlooked o (front ++ [d]) '\\'

/-- Behind `front`, the character `c` is hidden or overlooked wherever it stands in `u`. -/
def Spared (o : Options) (c : Char) (front u : Text) : Prop :=
  ∀ before after, u = before ++ c :: after →
    (coverAfter o (front ++ before)).hides c = true ∨ Overlooked o (front ++ before) c

section Texts

variable {o : Options} {c d : Char} {front u v : Text}

theorem coverAfter_append (o : Options) (s t : Text) :
    coverAfter o (s ++ t) = t.foldl (Cover.step o) (coverAfter o s) := by
  simp [coverAfter]

theorem coverAfter_concat (o : Options) (s : Text) (c : Char) :
    coverAfter o (s ++ [c]) = (coverAfter o s).step o c := coverAfter_append o s [c]

theorem Spared.of_notMem (h : c ∉ u) : Spared o c front u := by
  rintro before after rfl
  simp at h

/-- A character of two texts behind each other stands in the one or in the other. -/
theorem append_eq_append_cons {s t before after : Text} (h : s ++ t = before ++ c :: after) :
    (∃ w, s = before ++ c :: w) ∨ ∃ w, before = s ++ w ∧ t = w ++ c :: after := by
  obtain ⟨w, rfl, hw⟩ | ⟨w, rfl, hw⟩ := List.append_eq_append_iff.1 h
  · exact .inr ⟨w, rfl, hw⟩
  · cases w with
    | nil => exact .inr ⟨[], by simp, by simpa using hw.symm⟩
    | cons b w =>
      obtain ⟨rfl, -⟩ := List.cons.inj hw
      exact .inl ⟨w, rfl⟩

theorem Spared.append (hu : Spared o c front u) (hv : Spared o c (front ++ u) v) :
    Spared o c front (u ++ v) := by
  intro before after h
  obtain ⟨w, hw⟩ | ⟨w, rfl, hw⟩ := append_eq_append_cons h
  · exact hu before w hw
  · rw [← List.append_assoc]
    exact hv w after hw

theorem Spared.single (h : d = c → (coverAfter o front).hides c = true ∨ Overlooked o front c) :
    Spared o c front [d] := by
  intro before after hd
  cases before with
  | nil =>
    rw [List.append_nil]
    exact h (List.cons.inj hd).1
  | cons b before => simp at hd

theorem Spared.cons (hd : d = c → (coverAfter o front).hides c = true ∨ Overlooked o front c)
    (hu : Spared o c (front ++ [d]) u) : Spared o c front (d :: u) := (Spared.single hd).append hu

/-- Before its first token and between any two, a line has nothing open. -/
theorem IsBare.of_eq {first : Bool} (h : coverAfter o front = if first then .start else .bare) :
    IsBare o front := by
  cases first with
  | true => exact .inl h
  | false => exact .inr h

theorem Quote.ofMark?_mark (q : Quote) : ofMark? q.mark = some q := ofMark?_eq_some_iff.2 rfl

theorem IsBare.hides_mark (h : IsBare o front) (q : Quote) :
    (coverAfter o front).hides q.mark = true := by
  rcases h with h | h <;> simp [h, Cover.hides, Quote.ofMark?_mark]

theorem Cover.opened_eq_bare (hquote : Quote.ofMark? c = none) (hslash : c ≠ '\\')
    (hpipe : c ≠ '|') : opened c = bare := by
  simp [opened, hquote, hslash, hpipe]

theorem IsBare.concat_of_isBlank (h : IsBare o front) (hc : Text.isBlank c = true) :
    coverAfter o (front ++ [c]) = coverAfter o front := by
  have hne (d : Char) (hd : Text.isBlank d = false) : c ≠ d := by
    rintro rfl
    rw [hc] at hd
    cases hd
  rw [coverAfter_concat]
  rcases h with h | h
  · simp [h, Cover.step, hc]
  · rw [h, Cover.step]
    exact Cover.opened_eq_bare (Quote.ofMark?_of_isBlank hc) (hne _ (by decide)) (hne _ (by decide))

theorem IsBare.concat_of_opened (h : IsBare o front) (hblank : Text.isBlank c = false)
    (hslash : c ≠ '\\') (hopened : Cover.opened c = .bare) :
    coverAfter o (front ++ [c]) = .bare := by
  rw [coverAfter_concat]
  rcases h with h | h
  · simp [h, Cover.step, hblank, hslash, hopened]
  · rw [h, Cover.step, hopened]

theorem IsBare.concat_of_isDigit (h : IsBare o front) (hc : c.isDigit = true) :
    coverAfter o (front ++ [c]) = .bare := by
  have hslash : c ≠ '\\' := ne_of_isDigit hc (by decide)
  have hbar : c ≠ '|' := ne_of_isDigit hc (by decide)
  apply h.concat_of_opened (isBlank_of_isDigit hc) hslash
  exact Cover.opened_eq_bare (Quote.ofMark?_of_isDigit hc) hslash hbar

theorem IsBare.append_blanks (h : IsBare o front) {bs : Text}
    (hbs : ∀ b ∈ bs, Text.isBlank b = true) : coverAfter o (front ++ bs) = coverAfter o front := by
  induction bs generalizing front with
  | nil => rw [List.append_nil]
  | cons b bs ih =>
    have hb : coverAfter o (front ++ [b]) = coverAfter o front :=
      h.concat_of_isBlank (hbs b (by simp))
    have hbare : IsBare o (front ++ [b]) := by rwa [IsBare, hb]
    rw [← hb, ← ih hbare fun d hd => hbs d (List.mem_cons_of_mem b hd), List.append_assoc]
    rfl

/-! ### Redirections -/

/-- The cover behind a sign of a redirection. -/
theorem IsBare.concat_of_sign (h : IsBare o front) (hd : d ∈ ['>', '&', '+']) :
    coverAfter o (front ++ [d]) = .bare := by
  simp only [List.mem_cons, List.not_mem_nil, or_false] at hd
  rcases hd with rfl | rfl | rfl
  · exact h.concat_of_opened (by decide) (by decide) (by decide)
  · exact h.concat_of_opened (by decide) (by decide) (by decide)
  · exact h.concat_of_opened (by decide) (by decide) (by decide)

theorem IsBare.append_arrow (h : IsBare o front) (hd : d ∈ ['>', '&', '+']) :
    coverAfter o (front ++ ['>', d]) = .bare := by
  have hsign : coverAfter o (front ++ ['>'] ++ [d]) = .bare :=
    IsBare.concat_of_sign (.inr (h.concat_of_sign (by simp))) hd
  rwa [List.append_assoc] at hsign

namespace Awaits

variable {what what' : Awaited}

theorem cover_eq (h : Awaits o what front) : coverAfter o front = .bare := by
  induction h with
  | target hbare => exact hbare.concat_of_sign (by simp)
  | descriptor hbare => exact hbare.append_arrow (by simp)
  | blank _ hb ih => exact (IsBare.concat_of_isBlank (.inr ih) hb).trans ih

theorem ne_nil (h : Awaits o what front) : front ≠ [] := by
  cases h <;> simp

/-- What stands last before what is awaited. -/
theorem of_concat (h : Awaits o what (front ++ [d])) :
    IsBare o front ∧ (what = .target ∧ d = '>' ∨ what = .descriptor ∧ d = '&' ∨
      Text.isBlank d = true ∧ Awaits o what front) := by
  generalize hu : front ++ [d] = u at h
  cases h with
  | target hbare =>
    obtain ⟨rfl, rfl⟩ := List.append_singleton_inj.1 hu
    exact ⟨hbare, .inl ⟨rfl, rfl⟩⟩
  | @descriptor s hbare =>
    have hsigns : front ++ [d] = s ++ ['>'] ++ ['&'] := by simp [hu]
    obtain ⟨rfl, rfl⟩ := List.append_singleton_inj.1 hsigns
    exact ⟨.inr (hbare.concat_of_sign (by simp)), .inr (.inl ⟨rfl, rfl⟩)⟩
  | blank h hb =>
    obtain ⟨rfl, rfl⟩ := List.append_singleton_inj.1 hu
    exact ⟨.inr h.cover_eq, .inr (.inr ⟨hb, h⟩)⟩

/-- Nothing is awaited behind a character that is neither a sign nor blank. -/
theorem not_concat (hblank : Text.isBlank d = false) (harrow : d ≠ '>') (hand : d ≠ '&') :
    ¬Awaits o what (front ++ [d]) := by
  intro h
  obtain ⟨-, ⟨-, hd⟩ | ⟨-, hd⟩ | ⟨hd, -⟩⟩ := h.of_concat
  · exact harrow hd
  · exact hand hd
  · rw [hblank] at hd
    cases hd

theorem not_concat_of_isDigit (hd : d.isDigit = true) : ¬Awaits o what (front ++ [d]) :=
  not_concat (isBlank_of_isDigit hd) (ne_of_isDigit hd (by decide)) (ne_of_isDigit hd (by decide))

theorem unique (h : Awaits o what front) (h' : Awaits o what' front) : what = what' := by
  have hblank : Text.isBlank '>' = false ∧ Text.isBlank '&' = false := by decide
  induction h with
  | target _ =>
    obtain ⟨-, ⟨rfl, -⟩ | ⟨-, hand⟩ | ⟨hb, -⟩⟩ := h'.of_concat
    · rfl
    · cases hand
    · cases hblank.1.symm.trans hb
  | @descriptor s _ =>
    have hsigns : s ++ ['>', '&'] = s ++ ['>'] ++ ['&'] := by simp
    rw [hsigns] at h'
    obtain ⟨-, ⟨-, harrow⟩ | ⟨rfl, -⟩ | ⟨hb, -⟩⟩ := h'.of_concat
    · cases harrow
    · rfl
    · cases hblank.2.symm.trans hb
  | blank _ hb ih =>
    obtain ⟨-, ⟨-, rfl⟩ | ⟨-, rfl⟩ | ⟨-, h'⟩⟩ := h'.of_concat
    · cases hblank.1.symm.trans hb
    · cases hblank.2.symm.trans hb
    · exact ih h'

/-- Blanks change nothing about what is awaited. -/
theorem append_blanks_iff {bs : Text} (hbs : ∀ b ∈ bs, Text.isBlank b = true) :
    Awaits o what (front ++ bs) ↔ Awaits o what front := by
  induction bs generalizing front with
  | nil => rw [List.append_nil]
  | cons b bs ih =>
    have hb : Text.isBlank b = true := hbs b (by simp)
    have hone : Awaits o what (front ++ [b]) ↔ Awaits o what front := by
      refine ⟨fun h => ?_, fun h => h.blank hb⟩
      obtain ⟨-, ⟨-, rfl⟩ | ⟨-, rfl⟩ | ⟨-, h⟩⟩ := h.of_concat
      · exact absurd hb (by decide)
      · exact absurd hb (by decide)
      · exact h
    rw [List.append_cons, ih fun d hd => hbs d (List.mem_cons_of_mem b hd)]
    exact hone

end Awaits

namespace InNumber

theorem cover_eq (h : InNumber o front) : coverAfter o front = .bare := by
  induction h with
  | descriptor h => exact h.cover_eq
  | session hbare => exact hbare.append_arrow (by simp)
  | digit _ hd ih => exact IsBare.concat_of_isDigit (.inr ih) hd

theorem ne_nil (h : InNumber o front) : front ≠ [] := by
  cases h with
  | descriptor h => exact h.ne_nil
  | session => simp
  | digit => simp

/-- What stands last before a digit of a number. -/
theorem of_concat (h : InNumber o (front ++ [d])) :
    IsBare o front ∧ (Awaits o .descriptor (front ++ [d]) ∨
      d = '+' ∧ (∃ s, front = s ++ ['>'] ∧ IsBare o s) ∨ d.isDigit = true ∧ InNumber o front) := by
  generalize hu : front ++ [d] = u at h
  cases h with
  | descriptor h =>
    subst hu
    exact ⟨h.of_concat.1, .inl h⟩
  | @session s hbare =>
    have hsigns : front ++ [d] = s ++ ['>'] ++ ['+'] := by simp [hu]
    obtain ⟨rfl, rfl⟩ := List.append_singleton_inj.1 hsigns
    exact ⟨.inr (hbare.concat_of_sign (by simp)), .inr (.inl ⟨rfl, s, rfl, hbare⟩)⟩
  | digit h hd =>
    obtain ⟨rfl, rfl⟩ := List.append_singleton_inj.1 hu
    exact ⟨.inr h.cover_eq, .inr (.inr ⟨hd, h⟩)⟩

theorem append_digits (h : InNumber o front) {ds : Text} (hds : ∀ d ∈ ds, d.isDigit = true) :
    InNumber o (front ++ ds) := by
  induction ds generalizing front with
  | nil => rwa [List.append_nil]
  | cons d ds ih =>
    have hrest := ih (h.digit (hds d (by simp))) fun e he => hds e (List.mem_cons_of_mem d he)
    rwa [List.append_assoc] at hrest

end InNumber

theorem Awaits.not_inNumber (h : Awaits o .target front) : ¬InNumber o front := by
  intro hnumber
  obtain rfl | ⟨s, d, rfl⟩ := List.eq_nil_or_concat front
  · exact h.ne_nil rfl
  rw [List.concat_eq_append] at h hnumber
  obtain ⟨-, hdescriptor | ⟨rfl, -⟩ | ⟨hd, -⟩⟩ := hnumber.of_concat
  · cases h.unique hdescriptor
  · exact not_concat (by decide) (by decide) (by decide) h
  · exact not_concat_of_isDigit hd h

namespace AtTokenStart

theorem isBare (h : AtTokenStart o front) : IsBare o front := by
  obtain rfl | ⟨s, b, rfl⟩ := List.eq_nil_or_concat front
  · exact .inl rfl
  · obtain ⟨hbare, hb⟩ := h.behind_blank s b List.concat_eq_append
    rw [List.concat_eq_append]
    rwa [IsBare, hbare.concat_of_isBlank hb]

theorem not_inNumber (h : AtTokenStart o front) : ¬InNumber o front := by
  intro hnumber
  obtain rfl | ⟨s, b, rfl⟩ := List.eq_nil_or_concat front
  · exact hnumber.ne_nil rfl
  obtain ⟨-, hb⟩ := h.behind_blank s b List.concat_eq_append
  rw [List.concat_eq_append] at h hnumber
  obtain ⟨-, hdescriptor | ⟨rfl, -⟩ | ⟨hd, -⟩⟩ := hnumber.of_concat
  · exact h.not_awaits _ hdescriptor
  · exact absurd hb (by decide)
  · cases (isBlank_of_isDigit hd).symm.trans hb

end AtTokenStart

/-- Why a character behind `front` and `d` is overlooked. -/
theorem Overlooked.of_concat (h : Overlooked o (front ++ [d]) c) :
    c = '>' ∧ d.isDigit = true ∧ AtTokenStart o front ∨
      Awaits o .target (front ++ [d]) ∨
      c.isDigit = true ∧ InNumber o (front ++ [d]) ∨
      c = '\\' ∧ IsBare o front ∧ isWordChar o.terminator d = true ∧ ¬InNumber o (front ++ [d]) ∨
      c = '\\' ∧ coverAfter o front = .escaped := by
  generalize hu : front ++ [d] = u at h
  cases h with
  | @arrow s arrows e hstart he harrows =>
    rcases harrows with rfl | rfl
    · obtain ⟨rfl, rfl⟩ := List.append_singleton_inj.1 hu
      exact .inl ⟨rfl, he, hstart⟩
    · have hsign : front ++ [d] = s ++ [e] ++ ['>'] := by simp [hu]
      have hbare := hstart.isBare.concat_of_isDigit he
      rw [← hu, hsign]
      exact .inr (.inl (.target (.inr hbare)))
  | sign hbare => exact .inr (.inl (.target hbare))
  | digit hnumber hc => exact .inr (.inr (.inl ⟨hc, hnumber⟩))
  | inRun hbare hword hnumber =>
    obtain ⟨rfl, rfl⟩ := List.append_singleton_inj.1 hu
    exact .inr (.inr (.inr (.inl ⟨rfl, hbare, hword, hnumber⟩)))
  | behindEscaped hescaped =>
    obtain ⟨rfl, rfl⟩ := List.append_singleton_inj.1 hu
    exact .inr (.inr (.inr (.inr ⟨rfl, hescaped⟩)))

theorem Overlooked.ne_nil (h : Overlooked o front c) : front ≠ [] := by
  cases h with
  | digit hnumber => exact hnumber.ne_nil
  | _ => simp

/-! ### What is taken -/

/-- Nothing hides what stands behind `front`, and if a backslash begins `rest` it escapes. -/
def Opens (o : Options) (front rest : Text) : Prop :=
  IsBare o front ∧
    ∀ d ∈ rest.head?, Text.isBlank d = false → (coverAfter o front).step o d = .opened d

theorem Opens.of_bare (h : coverAfter o front = .bare) (rest : Text) : Opens o front rest :=
  ⟨.inr h, fun d _ _ => by rw [h, Cover.step]⟩

theorem Opens.of_isBare {rest : Text} (h : IsBare o front)
    (hrest : o.keepInitialEscape = true → rest.head? ≠ some '\\') : Opens o front rest := by
  refine ⟨h, fun d hd hblank => ?_⟩
  rcases h with h | h
  · have hkept : ¬(d = '\\' ∧ o.keepInitialEscape = true) := by
      rintro ⟨rfl, hkeep⟩
      exact hrest hkeep hd
    simp [h, Cover.step, hblank, hkept]
  · rw [h, Cover.step]

/-- A run of characters without quotes goes on with `d`. -/
theorem Opens.step_of_isWordChar {t : Text} (h : Opens o front (d :: t))
    (hd : isWordChar o.terminator d = true) (hquote : Quote.ofMark? d = none) (hslash : d ≠ '\\') :
    coverAfter o (front ++ [d]) = .bare := by
  have hblank : Text.isBlank d = false := by
    simp only [isWordChar, Bool.and_eq_true, Bool.not_eq_true'] at hd
    exact hd.1.1
  have hpipe : d ≠ '|' := by
    rintro rfl
    simp [isWordChar] at hd
  rw [coverAfter_concat, h.2 d rfl hblank, Cover.opened_eq_bare hquote hslash hpipe]

/-- What is taken behind `front` spares `c` and leaves nothing open. -/
structure Sweeps (o : Options) (c : Char) (front u : Text) : Prop where
  spared : Spared o c front u
  bare : u ≠ [] → coverAfter o (front ++ u) = .bare

theorem Sweeps.nil (o : Options) (c : Char) (front : Text) : Sweeps o c front [] :=
  ⟨.of_notMem (by simp), fun h => absurd rfl h⟩

theorem Sweeps.append (hu : Sweeps o c front u) (hv : Sweeps o c (front ++ u) v) :
    Sweeps o c front (u ++ v) := by
  refine ⟨hu.spared.append hv.spared, fun hne => ?_⟩
  by_cases hnil : v = []
  · subst hnil
    rw [List.append_nil] at hne ⊢
    exact hu.bare hne
  · rw [← List.append_assoc]
    exact hv.bare hnil

theorem coverAfter_mark {q : Quote} (h : coverAfter o front = .quoted q) :
    coverAfter o (front ++ [q.mark]) = .bare := by
  rw [coverAfter_concat, h, Cover.step, if_pos rfl]

theorem coverAfter_of_ne {q : Quote} (h : coverAfter o front = .quoted q) (hd : d ≠ q.mark) :
    coverAfter o (front ++ [d]) = .quoted q := by
  rw [coverAfter_concat, h, Cover.step, if_neg hd]

/-- Between two marks a quotation is over, but the second mark is part of the next. -/
theorem coverAfter_marks {q : Quote} (h : coverAfter o front = .quoted q) :
    coverAfter o (front ++ [q.mark] ++ [q.mark]) = .quoted q := by
  rw [coverAfter_concat, coverAfter_mark h, Cover.step, Cover.opened, Quote.ofMark?_mark]

/-- The body of a quotation and its closing mark are hidden. -/
theorem spared_toSingle {q : Quote} {t : Text} (hfront : coverAfter o front = .quoted q) :
    Spared o c front (Extent.toSingle q.mark t).taken := by
  have hides (d : Char) : (coverAfter o front).hides d = true := by rw [hfront, Cover.hides]
  fun_induction Extent.toSingle q.mark t generalizing front with
  | case1 => exact .of_notMem (by simp)
  | case2 a => exact .single fun _ => .inl (hides c)
  | case3 l ih =>
    have hsecond : q.mark = c → (coverAfter o (front ++ [q.mark])).hides c = true := by
      rintro rfl
      exact IsBare.hides_mark (.inr (coverAfter_mark hfront)) q
    apply Spared.cons fun _ => .inl (hides c)
    apply Spared.cons fun hc => .inl (hsecond hc)
    have hquoted := coverAfter_marks hfront
    exact ih hquoted fun d => by rw [hquoted, Cover.hides]
  | case4 b l hb => exact .single fun _ => .inl (hides c)
  | case5 a b l ha ih =>
    apply Spared.cons fun _ => .inl (hides c)
    have hquoted := coverAfter_of_ne hfront ha
    exact ih hquoted fun d => by rw [hquoted, Cover.hides]

/-- A quotation that is closed ends with a mark of its own. -/
theorem exists_quoted_of_toSingle {q : Quote} {t : Text} (hfront : coverAfter o front = .quoted q)
    (ht : (Extent.toSingle q.mark t).closed = true) :
    ∃ s, (Extent.toSingle q.mark t).taken = s ++ [q.mark] ∧
      coverAfter o (front ++ s) = .quoted q := by
  fun_induction Extent.toSingle q.mark t generalizing front with
  | case1 => cases ht
  | case2 a =>
    obtain rfl := of_decide_eq_true ht
    exact ⟨[], rfl, by rwa [List.append_nil]⟩
  | case3 l ih =>
    obtain ⟨s, htaken, hquoted⟩ := ih (coverAfter_marks hfront) ht
    exact ⟨q.mark :: q.mark :: s, congrArg (q.mark :: q.mark :: ·) htaken, by simpa using hquoted⟩
  | case4 b l hb => exact ⟨[], rfl, by rwa [List.append_nil]⟩
  | case5 a b l ha ih =>
    obtain ⟨s, htaken, hquoted⟩ := ih (coverAfter_of_ne hfront ha) ht
    exact ⟨a :: s, congrArg (a :: ·) htaken, by simpa using hquoted⟩

theorem Opens.quotes {q : Quote} {t : Text} (h : Opens o front (q.mark :: t)) :
    coverAfter o (front ++ [q.mark]) = .quoted q := by
  have hblank : Text.isBlank q.mark = false := by cases q <;> decide
  rw [coverAfter_concat, h.2 q.mark rfl hblank, Cover.opened, Quote.ofMark?_mark]

/-- A quotation hides all of itself and is over behind it. -/
theorem sweeps_quotation {q : Quote} {t : Text} (hopen : Opens o front (q.mark :: t))
    (ht : (Extent.toSingle q.mark t).closed = true) :
    Sweeps o c front (q.mark :: (Extent.toSingle q.mark t).taken) := by
  have hquoted := hopen.quotes
  refine ⟨Spared.cons (fun hc => .inl ?_) (spared_toSingle hquoted), fun _ => ?_⟩
  · rw [← hc]
    exact hopen.1.hides_mark q
  · obtain ⟨s, htaken, hs⟩ := exists_quoted_of_toSingle hquoted ht
    simpa [htaken] using coverAfter_mark hs

theorem Opens.escapes {t : Text} (h : Opens o front ('\\' :: t)) :
    coverAfter o (front ++ ['\\']) = .escaped := by
  rw [coverAfter_concat, h.2 '\\' rfl (by decide)]
  decide

/-- A backslash hides the character behind it. -/
theorem sweeps_escape {t : Text} (hopen : Opens o front ('\\' :: t))
    (hslash : c = '\\' → Overlooked o front '\\') : Sweeps o c front ['\\', d] := by
  have hescaped := hopen.escapes
  refine ⟨Spared.cons (fun hc => .inr ?_) (.single fun _ => .inl ?_), fun _ => ?_⟩
  · rw [← hc]
    exact hslash hc.symm
  · rw [hescaped, Cover.hides]
  · have hbare := coverAfter_concat o (front ++ ['\\']) d
    rwa [hescaped, Cover.step, List.append_assoc] at hbare

/-- A character without quotes is taken if it is not the terminator. -/
theorem sweeps_wordChar {t : Text} (hopen : Opens o front (d :: t)) (hc : o.terminator = some c)
    (hd : isWordChar o.terminator d = true) (hquote : Quote.ofMark? d = none) (hslash : d ≠ '\\') :
    Sweeps o c front [d] := by
  refine ⟨.single ?_, fun _ => hopen.step_of_isWordChar hd hquote hslash⟩
  rintro rfl
  simp [isWordChar, hc] at hd

theorem sweeps_blanks (h : coverAfter o front = .bare) (hc : Text.isBlank c = false)
    (hu : ∀ b ∈ u, Text.isBlank b = true) : Sweeps o c front u := by
  refine ⟨.of_notMem fun hmem => ?_, fun _ => ?_⟩
  · rw [hu c hmem] at hc
    cases hc
  · rw [IsBare.append_blanks (.inr h) hu, h]

/-- A number is taken whether or not the terminator is one of its digits. -/
theorem sweeps_digits (h : InNumber o front) (hu : ∀ d ∈ u, d.isDigit = true) :
    Sweeps o c front u := by
  refine ⟨?_, fun _ => (h.append_digits hu).cover_eq⟩
  rintro before after rfl
  have hbefore := h.append_digits fun d hd => hu d (List.mem_append_left _ hd)
  exact .inr (.digit hbefore (hu c (by simp)))

theorem IsBare.concat_pipe (h : IsBare o front) : coverAfter o (front ++ ['|']) = .piped := by
  have hblank : Text.isBlank '|' = false := by decide
  have hopened : Cover.opened '|' = .piped := by decide
  rw [coverAfter_concat]
  rcases h with h | h
  · simp [h, Cover.step, hblank, hopened]
  · rw [h, Cover.step, hopened]

/-- Behind a pipe all is hidden. -/
theorem spared_of_piped (h : coverAfter o front = .piped) : Spared o c front u := by
  induction u generalizing front with
  | nil => exact .of_notMem (by simp)
  | cons d u ih =>
    apply Spared.cons fun _ => .inl (by rw [h, Cover.hides])
    exact ih (by rw [coverAfter_concat, h, Cover.step])

end Texts

end QueryConsole.Command
