import QueryConsole.Proofs.Sql.Locality
import QueryConsole.Proofs.Sql.Tiling
import QueryConsole.Proofs.Verdict

/-!
# What stands behind a terminator does not matter

Lexemes look one character ahead, and none looks behind a terminator. Since the search for the end
of a statement does not either, a buffer that has its terminator keeps it whatever is typed behind
it, and a verdict that names the terminator can only give way to one about an open construct.
-/

namespace QueryConsole

namespace Sql

theorem Lexeme.Valid.eq_of_terminator {o : Lexer.Options} {x : Lexeme} {rest : Text} {c : Char}
    (h : Valid o x rest) (hk : x.kind? = some (.terminator c)) :
    x = ⟨[o.terminator], some (.terminator o.terminator), none⟩ := by
  cases h with
  | terminator => rfl
  | @closed k => cases k <;> cases hk
  | @leftOpen k => cases k <;> cases hk
  | _ => cases hk

section Terminator

variable {o : Lexer.Options} {t back : Text} {xs : List Lexeme} {as bs : List Token} {e : Token}

theorem lexemes_terminator (o : Lexer.Options) (back : Text) : lexemes o (o.terminator :: back) =
    ⟨[o.terminator], some (.terminator o.terminator), none⟩ :: lexemes o back :=
  (Tiling.cons (.terminator back) (.nil back)).lexemes_eq

/-- The tokens of a text that is cut before a terminator. -/
theorem Tiling.tokens_terminator (h : Tiling o t xs (o.terminator :: back)) :
    tokens o t = Lexeme.tokens 0 xs ++ ⟨.terminator o.terminator, Text.size (Lexeme.cover xs),
      Text.size (Lexeme.cover xs ++ [o.terminator])⟩ ::
        Lexeme.tokens (Text.size (Lexeme.cover xs ++ [o.terminator])) (lexemes o back) := by
  rw [tokens_eq, h.lexemes_eq, lexemes_terminator, Lexeme.tokens_append]
  simp [Lexeme.tokens]

/-- A text is cut before each terminator among its tokens. -/
theorem exists_tiling_of_tokens (h : tokens o t = as ++ e :: bs) (he : e.isTerminator = true) :
    ∃ xs back, Tiling o t xs (o.terminator :: back) ∧ Lexeme.tokens 0 xs = as ∧
      e = ⟨.terminator o.terminator, Text.size (Lexeme.cover xs),
        Text.size (Lexeme.cover xs ++ [o.terminator])⟩ := by
  rw [tokens_eq] at h
  obtain ⟨xs, x, ys, hxs, has, hkind, hstart, hstop, -⟩ := Lexeme.tokens_eq_append_cons h
  have htiling := tiling_lexemes o t
  rw [hxs] at htiling
  obtain ⟨m, hfront, hm⟩ := htiling.split
  cases hm with
  | @cons _ back _ _ hvalid _ =>
    rcases e with ⟨c | c | c | c, start, stop⟩
    case terminator =>
      obtain rfl := hvalid.eq_of_terminator hkind
      obtain rfl := Token.Kind.terminator.inj (Option.some.inj hkind)
      dsimp only at hstart hstop
      rw [Nat.zero_add] at hstart
      exact ⟨xs, back, hfront, has, by rw [hstop, hstart, Text.size_append]⟩
    all_goals cases he

/-- The tokens up to a terminator are those of the text up to it, whatever text is behind. -/
theorem exists_text_of_tokens (h : tokens o t = as ++ e :: bs) (he : e.isTerminator = true) :
    ∃ front back, t = front ++ o.terminator :: back ∧ e.start = Text.size front ∧
      ∀ back', ∃ bs', tokens o (front ++ o.terminator :: back') = as ++ e :: bs' := by
  obtain ⟨xs, back, htiling, rfl, rfl⟩ := exists_tiling_of_tokens h he
  refine ⟨Lexeme.cover xs, back, htiling.eq_cover_append, rfl, fun back' => ?_⟩
  -- no lexeme before the terminator looks behind it
  exact ⟨_, (htiling.congr (show (o.terminator :: back').head? = _ from rfl)).tokens_terminator⟩

end Terminator

namespace Dialect

/-- The offset of a terminator that is found depends on the text up to it only. -/
theorem exists_front_of_terminator? {d : Dialect} {c : Char} {t : Text} {p : Nat}
    (h : (d.analyze c t).terminator? = some p) :
    ∃ front back, t = front ++ c :: back ∧ p = Text.size front ∧
      ∀ back', (d.analyze c (front ++ c :: back')).terminator? = some p := by
  rw [terminator?_analyze] at h
  obtain ⟨e, he, rfl⟩ := Option.map_eq_some_iff.1 h
  obtain ⟨as, bs, hts, hterm, hfind⟩ := findsLocally_terminator? he
  obtain ⟨front, back, rfl, hstart, hfront⟩ := exists_text_of_tokens hts hterm
  refine ⟨front, back, rfl, hstart, ?_⟩
  intro back'
  obtain ⟨bs', hts'⟩ := hfront back'
  change (d.analyze c (front ++ (d.options c).terminator :: back')).terminator? = _
  rw [terminator?_analyze, hts', hfind, Option.map_some]

theorem analyze_append_of_terminator? {d : Dialect} {c : Char} {s : Text} {p : Nat}
    (h : (d.analyze c s).terminator? = some p) (x : Text) :
    (d.analyze c (s ++ x)).terminator? = some p := by
  obtain ⟨front, back, rfl, -, hfront⟩ := exists_front_of_terminator? h
  rw [List.append_assoc, List.cons_append]
  exact hfront (back ++ x)

theorem lt_size_of_terminator? {d : Dialect} {c : Char} {s : Text} {p : Nat}
    (h : (d.analyze c s).terminator? = some p) : p < Text.size s := by
  obtain ⟨front, back, rfl, rfl, -⟩ := exists_front_of_terminator? h
  have hpos := c.utf8Size_pos
  rw [Text.size_append, Text.size_cons]
  omega

/-- A terminator that is found only when more text follows lies in that text. -/
theorem exists_of_terminator?_append {d : Dialect} {c : Char} {s x : Text} {p : Nat}
    (hs : (d.analyze c s).terminator? = none) (h : (d.analyze c (s ++ x)).terminator? = some p) :
    ∃ front back, x = front ++ c :: back ∧ p = Text.size s + Text.size front := by
  obtain ⟨front, back, htext, rfl, hfront⟩ := exists_front_of_terminator? h
  rcases List.append_eq_append_iff.1 htext with ⟨w, rfl, hx⟩ | ⟨w, rfl, hx⟩
  · exact ⟨w, back, hx, Text.size_append s w⟩
  · cases w with
    | nil => exact ⟨[], back, hx.symm, by simp⟩
    | cons a w =>
      -- the terminator would be found without the text behind it
      obtain ⟨rfl, -⟩ := List.cons.inj hx
      rw [hfront w] at hs
      cases hs

/-- A terminator that lies in the front part of a text is found in it alone. -/
theorem analyze_of_append_terminator? {d : Dialect} {c : Char} {s x : Text} {p : Nat}
    (h : (d.analyze c (s ++ x)).terminator? = some p) (hp : p + c.utf8Size ≤ Text.size s) :
    (d.analyze c s).terminator? = some p := by
  obtain ⟨front, back, htext, rfl, hfront⟩ := exists_front_of_terminator? h
  have hsplit : s ++ x = front ++ [c] ++ back := by simp [htext]
  rcases List.append_eq_append_iff.1 hsplit with ⟨w, hw, -⟩ | ⟨w, rfl, -⟩
  · -- a front part that ends before the terminator is too short for it
    have hsize := congrArg Text.size hw
    simp only [Text.size_append, Text.size_cons, Text.size_nil] at hsize
    obtain rfl : w = [] := Text.size_eq_zero_iff.1 (by omega)
    rw [List.append_nil] at hw
    exact hw ▸ hfront []
  · rw [List.append_assoc]
    exact hfront w

end Dialect

end Sql

namespace Detector

/-- The offset of a terminator is not changed by text behind it. Once a statement is found to be
complete, more text can only leave a construct open. -/
theorem terminator_append (d : Detector) (s x : Text) (p : Nat) :
    (p + d.terminator.utf8Size ≤ Text.size s →
      ((d.dialect.analyze d.terminator s).terminator? = some p ↔
        (d.dialect.analyze d.terminator (s ++ x)).terminator? = some p)) ∧
    (d.detectAtEnd s = .terminated p →
      d.detectAtEnd (s ++ x) = .terminated p ∨ ∃ k, d.detectAtEnd (s ++ x) = .unclosed k) := by
  constructor
  · intro hp
    constructor
    · intro h
      exact Sql.Dialect.analyze_append_of_terminator? h x
    · intro h
      exact Sql.Dialect.analyze_of_append_terminator? h hp
  · intro h
    obtain ⟨hmulti, hblank, -, hfound, hp⟩ := detectAtEnd_eq_terminated_iff.1 h
    have hfound' := Sql.Dialect.analyze_append_of_terminator? hfound x
    have hblank' : (s ++ x).all Text.isBlank = false := by simp [List.all_append, hblank]
    cases hopen : (d.dialect.analyze d.terminator (s ++ x)).unclosed with
    | none =>
      have hp' : p ≤ Text.size (s ++ x) := by
        rw [Text.size_append]
        omega
      exact .inl (detectAtEnd_eq_terminated_iff.2 ⟨hmulti, hblank', hopen, hfound', hp'⟩)
    | some k =>
      refine .inr ⟨k, ?_⟩
      simp only [detectAtEnd, detect, hmulti, hblank', hopen, Bool.not_true]
      rfl

theorem terminator_append_after_block :
    (12 + ';'.utf8Size ≤ Text.size "BEGIN x; END; y".toList ∧
      ((Sql.Dialect.snowflake.analyze ';' "BEGIN x; END; y".toList).terminator? = some 12 ↔
        (Sql.Dialect.snowflake.analyze ';'
          ("BEGIN x; END; y".toList ++ " 'z;".toList)).terminator? = some 12)) ∧
    (detectAtEnd ⟨';', true, .snowflake⟩ "BEGIN x; END; y".toList = .terminated 12 ∧
      (detectAtEnd ⟨';', true, .snowflake⟩ ("BEGIN x; END; y".toList ++ " 'z;".toList) =
          .terminated 12 ∨
        ∃ k, detectAtEnd ⟨';', true, .snowflake⟩ ("BEGIN x; END; y".toList ++ " 'z;".toList) =
          .unclosed k)) := by
  have hp : 12 + ';'.utf8Size ≤ Text.size "BEGIN x; END; y".toList := by decide +kernel
  have hverdict :
      detectAtEnd ⟨';', true, .snowflake⟩ "BEGIN x; END; y".toList = .terminated 12 := by
    decide +kernel
  obtain ⟨hfound, hcomplete⟩ := terminator_append ⟨';', true, .snowflake⟩ "BEGIN x; END; y".toList
    " 'z;".toList 12
  exact ⟨⟨hp, hfound hp⟩, hverdict, hcomplete hverdict⟩

end Detector

end QueryConsole
