import QueryConsole.Proofs.Sql.Locality
import QueryConsole.Proofs.Sql.Nesting
import QueryConsole.Proofs.Sql.Offsets

/-!
# Passing a place in a script

The search for the end of a script goes from state to state. Each place behind a terminator inside
the script is passed in one of its steps: in that of the terminator itself, or in one that skips
parentheses, declarations or a header. A `CASE` that is recorded may be inserted where it is passed
in the open, and in parentheses and declarations anything may be that does not end them.
-/

namespace QueryConsole.Sql

namespace Script

/-- In some number of steps the search comes from the state `s` before `ts` to `s'` before `ts'`. -/
inductive Runs : Script → List Token → Script → List Token → Prop
  | refl (s : Script) (ts : List Token) : Runs s ts s ts
  | next {s s' s'' : Script} {t : Token} {ts rest ts'' : List Token} :
      s.step t ts = .next s' rest → Runs s' rest s'' ts'' → Runs s (t :: ts) s'' ts''

/-- From `s₀` before the tokens `ts` the search passes the front of `place` in the step that it
makes from the state `s` at the token `t`. -/
def Passes (s₀ : Script) (ts place : List Token) (s : Script) (t : Token) : Prop :=
  ∃ us s' rest, Runs s₀ ts s (t :: us) ∧ s.step t us = .next s' rest ∧ rest <:+ place ∧ place <:+ us

theorem step_of_isTerminator (s : Script) {e : Token} (he : e.isTerminator = true)
    (ts : List Token) : s.step e ts = .next s ts :=
  s.step_of_isPlain (Token.isPlain_of_keyword? (Token.keyword?_of_isTerminator he)) ts

namespace Runs

variable {s s' : Script} {ts ts' us ds ds' : List Token} {e : Token}

theorem skip?_eq (h : Runs s ts s' ts') : s.skip? ts = s'.skip? ts' := by
  induction h with
  | refl => rfl
  | next hstep _ ih => rw [skip?_of_next hstep, ih]

theorem suffix (h : Runs s ts s' ts') : ts' <:+ ts := by
  induction h with
  | refl => exact List.suffix_refl _
  | next hstep _ ih => exact (ih.trans (suffix_of_step_next hstep)).trans (List.suffix_cons _ _)

theorem map {f : Token → Token} (hf : ∀ t, (f t).kind = t.kind) (h : Runs s ts s' ts') :
    Runs s (ts.map f) s' (ts'.map f) := by
  induction h with
  | refl => exact .refl _ _
  | @next s s' _ t ts rest _ hstep _ ih =>
    refine .next ?_ ih
    rw [step_map hf, hstep]
    rfl

/-- As long as a terminator is ahead, it does not matter what is behind it. -/
theorem agree (he : e.isTerminator = true) (h : Runs s ts s' ts') (hus : AgreeTo e ds ds' ts us)
    (hp : e :: ds <:+ ts') : ∃ us', Runs s us s' us' ∧ AgreeTo e ds ds' ts' us' := by
  induction h generalizing us with
  | refl => exact ⟨us, .refl _ _, hus⟩
  | @next s s' _ t ts rest _ hstep hrest ih =>
    have hahead := hp.trans hrest.suffix
    rcases agreeTo_cons_iff.1 hus with ⟨rfl, rfl, rfl⟩ | ⟨us, rfl, htail⟩
    · exact absurd hahead (not_pending (suffix_of_step_next hstep))
    · have hagree := htail.step he s t
      rw [hstep] at hagree
      obtain ⟨rest', hstep', hagree⟩ := hagree hahead
      obtain ⟨us', hruns, hus'⟩ := ih hagree hp
      exact ⟨us', .next hstep' hruns, hus'⟩

/-- A terminator to which the search comes is passed in a step of its own. -/
theorem passes (h : Runs s ts s' (e :: us)) (he : e.isTerminator = true) : Passes s ts us s' e :=
  ⟨us, s', us, h, step_of_isTerminator s' he us, List.suffix_refl _, List.suffix_refl _⟩

end Runs

/-- Over plain tokens the search keeps its state. -/
theorem runs_append (s : Script) {ts : List Token} (hts : ∀ t ∈ ts, t.IsPlain)
    (rest : List Token) : Runs s (ts ++ rest) s rest := by
  induction ts with
  | nil => exact .refl _ _
  | cons t ts ih =>
    exact .next (s.step_of_isPlain (hts t (by simp)) _) (ih fun u hu => hts u (by simp [hu]))

theorem Passes.map {s₀ s : Script} {ts place : List Token} {t : Token} {f : Token → Token}
    (hf : ∀ t, (f t).kind = t.kind) (h : Passes s₀ ts place s t) :
    Passes s₀ (ts.map f) (place.map f) s (f t) := by
  obtain ⟨us, s', rest, hruns, hstep, hrest, hplace⟩ := h
  refine ⟨us.map f, s', rest.map f, hruns.map hf, ?_, hrest.map f, hplace.map f⟩
  rw [step_map hf, hstep]
  rfl

end Script

/-! ### Places -/

section Place

variable {e k : Token} {vs place x r us : List Token}

theorem suffix_or_pending (h : x <:+ vs ++ e :: place) : x <:+ place ∨ e :: place <:+ x := by
  rcases List.suffix_or_suffix_of_suffix h (List.suffix_append vs (e :: place)) with h | h
  · rcases List.suffix_cons_iff.1 h with rfl | h
    · exact .inr (List.suffix_refl _)
    · exact .inl h
  · exact .inr h

theorem pending_of_cons (he : e.isTerminator = true) (hk : k.keyword? ≠ none)
    (h : e :: place <:+ k :: r) : e :: place <:+ r := by
  rcases List.suffix_cons_iff.1 h with h | h
  · rw [(List.cons.inj h).1] at he
    exact absurd (Token.keyword?_of_isTerminator he) hk
  · exact h

theorem eq_or_cons_of_close? {b : Block} (h : b.close? us = some r) :
    us = r ∨ ∃ k, k.keyword? ≠ none ∧ us = k :: r := by
  have hdrop {l : Keyword} (h : dropKeyword? l us = some r) :
      ∃ k, k.keyword? ≠ none ∧ us = k :: r := by
    obtain ⟨k, hk, hus⟩ := exists_cons_of_dropKeyword? h
    exact ⟨k, by simp [hk], hus⟩
  cases b with
  | case =>
    cases hcase : dropKeyword? .case us with
    | none => exact .inl (by simpa [Block.close?, dropKeyword, hcase] using h)
    | some r' =>
      obtain rfl : r' = r := by simpa [Block.close?, dropKeyword, hcase] using h
      exact .inr (hdrop hcase)
  | «do» => rcases Option.or_eq_some_iff.1 h with h | ⟨_, h⟩ <;> exact .inr (hdrop h)
  | begin =>
    simp only [Block.close?] at h
    split at h
    · cases h
    · exact .inl (Option.some.inj h)
  | _ => exact .inr (hdrop h)

/-- The closing words of a block reach over no terminator. -/
theorem pending_of_close? {b : Block} (he : e.isTerminator = true)
    (h : b.close? us = some r) (hp : e :: place <:+ us) : e :: place <:+ r := by
  rcases eq_or_cons_of_close? h with rfl | ⟨k, hk, rfl⟩
  · exact hp
  · exact pending_of_cons he hk hp

end Place

/-- Each place behind a terminator inside a script is passed. -/
theorem Script.exists_passes {s₀ : Script} {as place rest : List Token} {e : Token}
    (he : e.isTerminator = true) (h : s₀.skip? (as ++ e :: place) = some rest)
    (hrest : rest <:+ place) :
    ∃ s t, Passes s₀ (as ++ e :: place) place s t := by
  generalize hts : as ++ e :: place = ts at h
  fun_induction skip? s₀ ts generalizing as with
  | case1 => cases h
  | case2 s t us s' after hstep ih =>
    have hpending : e :: place <:+ t :: us := hts ▸ List.suffix_append as _
    have hafter := suffix_of_step_next hstep
    rcases List.suffix_cons_iff.1 hpending with heq | hpending
    · obtain ⟨rfl, rfl⟩ := List.cons.inj heq
      exact ⟨s, e, place, s', after, .refl _ _, hstep, hafter, List.suffix_refl _⟩
    · obtain ⟨vs, rfl⟩ := hpending
      rcases suffix_or_pending hafter with hbehind | ⟨ws, rfl⟩
      · have hplace : place <:+ vs ++ e :: place :=
          (List.suffix_cons e place).trans (List.suffix_append vs _)
        exact ⟨s, t, _, s', after, .refl _ _, hstep, hbehind, hplace⟩
      · obtain ⟨s'', t', us, s₃, rest', hruns, hpass⟩ := ih rfl h
        exact ⟨s'', t', us, s₃, rest', .next hstep hruns, hpass⟩
  | case3 s t us after hstep =>
    obtain rfl := Option.some.inj h
    have hpending : e :: place <:+ t :: us := hts ▸ List.suffix_append as _
    obtain ⟨hend, b, hclose⟩ := close?_of_step_done hstep
    have hahead := pending_of_cons he (by simp [hend]) hpending
    exact absurd (pending_of_close? he hclose hahead) (not_pending hrest)
  | case4 => cases h

/-! ### Insertions -/

/-- In the tokens parentheses balance, and none is closed that was not opened in them. -/
def IsLevel (ts : List Token) : Prop :=
  ts.countP (·.isPunct '(') = ts.countP (·.isPunct ')') ∧
  ∀ us, us <+: ts → us.countP (·.isPunct ')') ≤ us.countP (·.isPunct '(')

section Level

variable {ts us : List Token}

theorem isLevel_of_notMem (h : ∀ t ∈ ts, t.isPunct '(' = false ∧ t.isPunct ')' = false) :
    IsLevel ts := by
  have hzero (c : Char) (hc : ∀ t ∈ ts, t.isPunct c = false) (us : List Token) (hus : us <+: ts) :
      us.countP (·.isPunct c) = 0 := by
    rw [List.countP_eq_zero]
    intro t ht
    simp [hc t (hus.subset ht)]
  have hopen := hzero '(' fun t ht => (h t ht).1
  have hclose := hzero ')' fun t ht => (h t ht).2
  refine ⟨?_, fun us hus => ?_⟩
  · rw [hopen ts (List.prefix_refl _), hclose ts (List.prefix_refl _)]
  · exact Nat.le_of_eq ((hclose us hus).trans (hopen us hus).symm)

theorem IsParens.isLevel (h : IsParens ts) : IsLevel ts := by
  obtain ⟨-, heq, hlt⟩ := h
  refine ⟨heq, fun us hus => ?_⟩
  by_cases hnil : us = []
  · simp [hnil]
  · by_cases hall : us = ts
    · exact hall ▸ Nat.le_of_eq heq.symm
    · exact Nat.le_of_lt (hlt us hus hnil hall)

theorem IsLevel.append (h : IsLevel ts) (h' : IsLevel us) : IsLevel (ts ++ us) := by
  refine ⟨by rw [List.countP_append, List.countP_append, h.1, h'.1], fun vs hvs => ?_⟩
  obtain ⟨ws, hws⟩ := hvs
  rcases List.append_eq_append_iff.1 hws with ⟨xs, rfl, -⟩ | ⟨xs, rfl, hxs⟩
  · exact h.2 vs (List.prefix_append vs xs)
  · have hle := h'.2 xs ⟨ws, hxs.symm⟩
    rw [List.countP_append, List.countP_append, h.1]
    omega

section CloseParens

variable {depth : Nat} {t : Token} (rest : List Token)

theorem closeParens_open (h : t.isPunct '(' = true) :
    closeParens depth (t :: rest) = closeParens (depth + 1) rest := by
  rw [closeParens.eq_def]
  exact if_pos h

theorem closeParens_close (h : t.isPunct ')' = true) :
    closeParens (depth + 1) (t :: rest) = closeParens depth rest := by
  have hopen : ¬t.isPunct '(' = true := fun ho => by simp [isPunct_close_of_open ho] at h
  rw [closeParens, if_neg hopen, if_pos h]

theorem closeParens_other (hopen : ¬t.isPunct '(' = true) (hclose : ¬t.isPunct ')' = true) :
    closeParens depth (t :: rest) = closeParens depth rest := by
  rw [closeParens.eq_def]
  exact (if_neg hopen).trans (if_neg hclose)

end CloseParens

theorem closeParens_append {depth : Nat} (rest : List Token)
    (h : ∀ us, us <+: ts → us.countP (·.isPunct ')') ≤ depth + us.countP (·.isPunct '(')) :
    closeParens depth (ts ++ rest) =
      closeParens (depth + ts.countP (·.isPunct '(') - ts.countP (·.isPunct ')')) rest := by
  induction ts generalizing depth with
  | nil => rfl
  | cons t ts ih =>
    have htail : ∀ us, us <+: ts →
        (t :: us).countP (·.isPunct ')') ≤ depth + (t :: us).countP (·.isPunct '(') :=
      fun us hus => h (t :: us) ((List.prefix_cons_inj t).2 hus)
    simp only [List.countP_cons] at htail ⊢
    rw [List.cons_append]
    by_cases hopen : t.isPunct '(' = true
    · simp only [hopen, isPunct_close_of_open hopen, Bool.false_eq_true, ↓reduceIte,
        Nat.add_zero] at htail ⊢
      rw [closeParens_open _ hopen, ih fun us hus => by have := htail us hus; omega]
      congr 1
      omega
    · by_cases hclose : t.isPunct ')' = true
      · simp only [hopen, hclose, Bool.false_eq_true, ↓reduceIte, Nat.add_zero] at htail ⊢
        cases depth with
        | zero => exact absurd (htail [] List.nil_prefix) (by simp)
        | succ depth =>
          rw [closeParens_close _ hclose, ih fun us hus => by have := htail us hus; omega]
          congr 1
          omega
      · simp only [hopen, hclose, Bool.false_eq_true, ↓reduceIte, Nat.add_zero] at htail ⊢
        rw [closeParens_other _ hopen hclose]
        exact ih htail

/-- A scan for a closing parenthesis passes over level tokens. -/
theorem IsLevel.closeParens_append (h : IsLevel ts) (depth : Nat) (rest : List Token) :
    closeParens depth (ts ++ rest) = closeParens depth rest := by
  rw [Sql.closeParens_append rest fun us hus => Nat.le_add_left_of_le (h.2 us hus), h.1,
    Nat.add_sub_cancel]

end Level

section Insert

variable {e t : Token} {vs ws place rest : List Token}

theorem not_suffix_of_append (vs : List Token) : ¬vs ++ e :: place <:+ place := by
  intro h
  have := h.length_le
  simp only [List.length_append, List.length_cons] at this
  omega

/-- A scan for a closing parenthesis that finds it behind the place passes over what is inserted. -/
theorem closeParens_insert (he : e.isTerminator = true) (hlevel : IsLevel ws) {depth : Nat}
    (h : (closeParens depth (vs ++ e :: place)).2 <:+ place) :
    closeParens depth (vs ++ e :: (ws ++ place)) = closeParens depth (vs ++ e :: place) := by
  induction vs generalizing depth with
  | nil =>
    have hread (rest : List Token) : closeParens depth (e :: rest) = closeParens depth rest :=
      closeParens_other rest (by simp [Token.isPunct_of_isTerminator he])
        (by simp [Token.isPunct_of_isTerminator he])
    rw [List.nil_append, List.nil_append, hread, hread, hlevel.closeParens_append]
  | cons v vs ih =>
    rw [List.cons_append] at h ⊢
    rw [List.cons_append]
    by_cases hopen : v.isPunct '(' = true
    · rw [closeParens_open _ hopen] at h ⊢
      rw [closeParens_open _ hopen, ih h]
    · by_cases hclose : v.isPunct ')' = true
      · cases depth with
        | zero =>
          -- the scan would end before the place
          rw [closeParens, if_neg hopen, if_pos hclose] at h
          exact absurd h (not_suffix_of_append vs)
        | succ depth =>
          rw [closeParens_close _ hclose] at h ⊢
          rw [closeParens_close _ hclose, ih h]
      · rw [closeParens_other _ hopen hclose] at h ⊢
        rw [closeParens_other _ hopen hclose, ih h]

theorem skipParens_insert (he : e.isTerminator = true) (hlevel : IsLevel ws)
    (h : (skipParens (vs ++ e :: place)).2 <:+ place) :
    skipParens (vs ++ e :: (ws ++ place)) = skipParens (vs ++ e :: place) := by
  cases vs with
  | nil =>
    simp only [List.nil_append, skipParens, Token.isPunct_of_isTerminator he] at h
    exact absurd h (not_suffix_of_append [])
  | cons v vs =>
    rw [List.cons_append, skipParens] at h
    split at h
    · next hopen =>
      rw [List.cons_append, List.cons_append, skipParens, skipParens, if_pos hopen, if_pos hopen]
      exact closeParens_insert he hlevel h
    · exact absurd h (not_suffix_of_append (v :: vs))

theorem beginsBlock_insert (vs : List Token) :
    beginsBlock (vs ++ e :: (ws ++ place)) = beginsBlock (vs ++ e :: place) := by
  cases vs <;> rfl

/-- The search for a `BEGIN` behind the place passes over what is inserted. -/
theorem seekBegin?_insert (he : e.isTerminator = true) (hws : ∀ u ∈ ws, u.keyword? ≠ some .begin)
    (h : seekBegin? (vs ++ e :: place) = some rest) (hrest : rest <:+ place) :
    seekBegin? (vs ++ e :: (ws ++ place)) = some rest := by
  have hpass (us : List Token) : seekBegin? (ws ++ us) = seekBegin? us := by
    induction ws with
    | nil => rfl
    | cons w ws ih =>
      have hw : w.isKeyword .begin = false := by
        rw [Bool.eq_false_iff, Ne, Token.isKeyword_iff]
        exact hws w (by simp)
      rw [List.cons_append, seekBegin?, hw, Bool.false_and, if_neg Bool.false_ne_true]
      exact ih fun u hu => hws u (by simp [hu])
  induction vs with
  | nil =>
    rw [List.nil_append, seekBegin?, Token.isKeyword_of_isTerminator he, Bool.false_and,
      if_neg Bool.false_ne_true] at h ⊢
    rw [hpass, h]
  | cons v vs ih =>
    rw [List.cons_append, seekBegin?] at h ⊢
    rw [beginsBlock_insert]
    split at h
    · rw [← Option.some.inj h] at hrest
      exact absurd hrest (not_suffix_of_append (v :: vs))
    · next hbegin =>
      rw [if_neg hbegin]
      exact ih h

/-- A terminator that is passed in a step of its own is where the search comes to. -/
theorem Script.Passes.runs {s₀ s : Script} {ts : List Token} (he : e.isTerminator = true)
    (h : Passes s₀ ts place s e) : Runs s₀ ts s (e :: place) := by
  obtain ⟨us, s', rest, hruns, hstep, hrest, hplace⟩ := h
  rw [s.step_of_isTerminator he] at hstep
  obtain ⟨rfl, rfl⟩ := Step.next.inj hstep
  rwa [hplace.eq_of_length_le hrest.length_le]

/-- A step that passes the front of a place from before it takes no notice of an insertion. -/
theorem Script.step_insert {s s' : Script} (he : e.isTerminator = true) (hlevel : IsLevel ws)
    (hdeclare : t.keyword? = some .declare → ∀ u ∈ ws, u.keyword? ≠ some .begin)
    (hcreate : t.keyword? ≠ some .create) (hstep : s.step t (vs ++ e :: place) = .next s' rest)
    (hrest : rest <:+ place) : s.step t (vs ++ e :: (ws ++ place)) = .next s' rest := by
  -- most steps do not reach so far
  have hshort : rest ≠ vs ++ e :: place := by
    rintro rfl
    exact not_suffix_of_append vs hrest
  unfold step at hstep ⊢
  split at hstep
  · contradiction
  · -- CASE
    rcases suffix_or_pending (skipParens_suffix (vs ++ e :: place)) with h | hpending
    · rw [skipParens_insert he hlevel h]
      exact hstep
    · dsimp only at hstep
      split at hstep
      · next hwhen =>
        obtain ⟨k, hk, hcons⟩ := exists_cons_of_dropKeyword? hwhen
        rw [hcons] at hpending
        have hahead := pending_of_cons he (by simp [hk]) hpending
        exact absurd ((Step.next.inj hstep).2 ▸ hahead) (not_pending hrest)
      · exact absurd ((Step.next.inj hstep).2 ▸ hpending) (not_pending hrest)
  · exact absurd (Step.next.inj hstep).2.symm hshort
  · -- IF
    dsimp only at hstep ⊢
    rw [skipParens_insert he hlevel ((Step.next.inj hstep).2 ▸ hrest)]
    exact hstep
  · exact absurd (Step.next.inj hstep).2.symm hshort
  · exact absurd (Step.next.inj hstep).2.symm hshort
  · exact absurd (Step.next.inj hstep).2.symm hshort
  · -- END
    split at hstep
    · exact absurd (Step.next.inj hstep).2.symm hshort
    · next after hclose =>
      obtain ⟨b, -, hb⟩ := Option.bind_eq_some_iff.1 hclose
      have hahead := pending_of_close? he hb (List.suffix_append vs (e :: place))
      split at hstep
      · exact absurd ((Step.next.inj hstep).2 ▸ hahead) (not_pending hrest)
      · cases hstep
  · -- DECLARE
    next hdecl =>
    split at hstep
    · next after hseek =>
      obtain ⟨rfl, rfl⟩ := Step.next.inj hstep
      rw [seekBegin?_insert he (hdeclare hdecl) hseek hrest]
    · cases hstep
  · exact absurd (Step.next.inj hstep).2.symm hshort

/-- The end of a script is found behind an insertion as it is found without it, if the insertion is
passed over in the step that passes its place. -/
theorem Script.skip?_insert {s₀ s : Script} {as : List Token} (he : e.isTerminator = true)
    (hpasses : Passes s₀ (as ++ e :: place) place s t) (hlevel : IsLevel ws)
    (hdeclare : t.keyword? = some .declare → ∀ u ∈ ws, u.keyword? ≠ some .begin)
    (hcreate : t.keyword? ≠ some .create)
    (hopen : t.isTerminator = true → s.skip? (ws ++ place) = s.skip? place) :
    s₀.skip? (as ++ e :: (ws ++ place)) = s₀.skip? (as ++ e :: place) := by
  obtain ⟨us, s', rest, hruns, hstep, hrest, hplace⟩ := hpasses
  have hpending : e :: place <:+ t :: us :=
    (suffix_or_pending hruns.suffix).resolve_left (not_pending hplace)
  obtain ⟨us', hruns', hagree⟩ := hruns.agree he
    (⟨as, rfl, rfl⟩ : AgreeTo e place (ws ++ place) _ (as ++ e :: (ws ++ place))) hpending
  obtain ⟨vs, hvs⟩ := hpending
  rw [← hvs] at hagree
  rw [hruns.skip?_eq, hruns'.skip?_eq, hagree.eq_append, ← hvs]
  cases vs with
  | nil =>
    obtain ⟨rfl, rfl⟩ := List.cons.inj hvs
    rw [List.nil_append, List.nil_append, skip?_of_next (s.step_of_isTerminator he _),
      skip?_of_next (s.step_of_isTerminator he _), hopen he]
  | cons v vs =>
    obtain ⟨rfl, hus⟩ := List.cons.inj (show v :: (vs ++ e :: place) = t :: us from hvs)
    subst hus
    rw [List.cons_append, List.cons_append, skip?_of_next hstep,
      skip?_of_next (step_insert he hlevel hdeclare hcreate hstep hrest)]

end Insert

end QueryConsole.Sql
