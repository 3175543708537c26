import QueryConsole.Proofs.Sql.Tiling

/-!
# Where tokens stand

The tokens of a text have non-empty spans, each behind the one before it, and each span is one
whole lexeme of its kind. What lies before the first token, between two tokens and behind the last
one are blanks and comments. A construct is reported as open if and only if the last lexeme of the
text is one that is not closed.
-/

namespace QueryConsole.Sql

/-- The text `gap`, with `rest` behind it, consists of blanks and comments. -/
def IsGap (o : Lexer.Options) (gap rest : Text) : Prop :=
  ∃ xs, Tiling o (gap ++ rest) xs rest ∧ ∀ x ∈ xs, x.kind? = none

/-- A token stands in a text if it has the kind and the span of a lexeme there. -/
def Token.StandsIn (o : Lexer.Options) (t : Text) (a : Token) : Prop :=
  ∃ before x after, t = before ++ x.text ++ after ∧ Lexeme.Valid o x after ∧
    x.kind? = some a.kind ∧ a.start = Text.size before ∧ a.stop = a.start + Text.size x.text

namespace Lexeme

variable {o : Lexer.Options} {t rest : Text} {x : Lexeme} {xs : List Lexeme}

theorem Valid.size_pos (h : Valid o x rest) : 0 < Text.size x.text := by
  obtain ⟨c, u, hu, hread⟩ := read_of_valid h
  have hlt := length_rest_lt o c u
  rw [hread, ← hu, List.length_append] at hlt
  apply Nat.pos_of_ne_zero
  rw [Ne, Text.size_eq_zero_iff]
  intro htext
  simp [htext] at hlt

/-- A lexeme that leaves a construct open is the opening delimiter with a body that does not close
it. -/
theorem Valid.eq_of_openIn {k : Construct} (h : Valid o x rest) (hk : x.openIn = some k) :
    ∃ body, k.StaysOpen body ∧ x = ⟨k.opening ++ body, k.kind?, some k⟩ := by
  cases h with
  | @leftOpen l body _ hbody =>
    obtain rfl : l = k := Option.some.inj hk
    exact ⟨body, hbody, rfl⟩
  | _ => cases hk

theorem leftOpen?_eq_some_iff {k : Construct} : leftOpen? (lexemes o t) = some k ↔
    ∃ xs body, k.StaysOpen body ∧ Tiling o t (xs ++ [⟨k.opening ++ body, k.kind?, some k⟩]) [] := by
  constructor
  · intro h
    obtain ⟨x, hlast, hk⟩ := Option.bind_eq_some_iff.1 h
    obtain ⟨xs, hxs⟩ := List.getLast?_eq_some_iff.1 hlast
    have htiling := tiling_lexemes o t
    rw [hxs] at htiling
    obtain ⟨m, -, hm⟩ := htiling.split
    cases hm with
    | cons hvalid _ =>
      obtain ⟨body, hbody, rfl⟩ := hvalid.eq_of_openIn hk
      exact ⟨xs, body, hbody, hxs ▸ tiling_lexemes o t⟩
  · rintro ⟨xs, body, -, h⟩
    simp [leftOpen?, ← h.eq_lexemes]

theorem le_start_of_mem_tokens {n : Nat} {a : Token} (h : a ∈ tokens n xs) : n ≤ a.start := by
  obtain ⟨as, bs, hsplit⟩ := List.append_of_mem h
  obtain ⟨ys, y, zs, -, -, -, hstart, -, -⟩ := tokens_eq_append_cons hsplit
  omega

theorem pairwise_tokens (n : Nat) (xs : List Lexeme) :
    (tokens n xs).Pairwise fun a b => a.stop ≤ b.start := by
  induction xs generalizing n with
  | nil => exact .nil
  | cons x xs ih =>
    cases hk : x.kind? with
    | none => simpa [tokens, hk] using ih (n + Text.size x.text)
    | some k =>
      simp only [tokens, hk, List.pairwise_cons]
      exact ⟨fun b hb => le_start_of_mem_tokens hb, ih _⟩

theorem standsIn_of_mem_tokens {a : Token} (h : Tiling o t xs []) (ha : a ∈ tokens 0 xs) :
    a.start < a.stop ∧ a.StandsIn o t := by
  obtain ⟨as, bs, hsplit⟩ := List.append_of_mem ha
  obtain ⟨ys, y, zs, rfl, -, hy, hstart, hstop, -⟩ := tokens_eq_append_cons hsplit
  obtain ⟨m, hys, hm⟩ := h.split
  cases hm with
  | @cons _ after _ _ hvalid _ =>
    have hpos := hvalid.size_pos
    rw [Nat.zero_add] at hstart
    refine ⟨by omega, cover ys, y, after, ?_, hvalid, hy, hstart, hstop⟩
    rw [hys.eq_cover_append, List.append_assoc]

/-- Before the first token there are only lexemes that yield none. -/
theorem exists_gap_front (n : Nat) (xs : List Lexeme) :
    ∃ ys zs, xs = ys ++ zs ∧ (∀ y ∈ ys, y.kind? = none) ∧
      n + Text.size (cover ys) =
        ((tokens n xs).head?.map Token.start).getD (n + Text.size (cover xs)) := by
  induction xs generalizing n with
  | nil => exact ⟨[], [], rfl, by simp, by simp [tokens]⟩
  | cons x xs ih =>
    cases hk : x.kind? with
    | none =>
      obtain ⟨ys, zs, rfl, hys, hsize⟩ := ih (n + Text.size x.text)
      refine ⟨x :: ys, zs, rfl, ?_, ?_⟩
      · simpa [hk] using hys
      · simpa [tokens, hk, Nat.add_assoc] using hsize
    | some k => exact ⟨[], x :: xs, rfl, by simp, by simp [tokens, hk]⟩

/-- Between two neighbouring tokens there are only lexemes that yield none. -/
theorem exists_gap {n : Nat} {as bs : List Token} (h : tokens n xs = as ++ bs) :
    ∃ ws ys zs, xs = ws ++ (ys ++ zs) ∧ (∀ y ∈ ys, y.kind? = none) ∧
      n + Text.size (cover ws) = (as.getLast?.map Token.stop).getD n ∧
      n + Text.size (cover ws) + Text.size (cover ys) =
        (bs.head?.map Token.start).getD (n + Text.size (cover xs)) := by
  rcases List.eq_nil_or_concat as with rfl | ⟨as, a, rfl⟩
  · obtain ⟨ys, zs, hxs, hys, hsize⟩ := exists_gap_front n xs
    rw [h] at hsize
    exact ⟨[], ys, zs, hxs, hys, by simp, by simpa using hsize⟩
  · rw [List.concat_eq_append] at h ⊢
    rw [List.append_assoc, List.singleton_append] at h
    obtain ⟨us, u, vs, rfl, -, -, hstart, hstop, hbs⟩ := tokens_eq_append_cons h
    obtain ⟨ys, zs, rfl, hys, hsize⟩ := exists_gap_front a.stop vs
    rw [hbs] at hsize
    refine ⟨us ++ [u], ys, zs, by simp, hys, ?_, ?_⟩
    · simp
      omega
    · have hws : n + Text.size (cover (us ++ [u])) = a.stop := by
        simp
        omega
      have hall : a.stop + Text.size (cover (ys ++ zs)) =
          n + Text.size (cover (us ++ u :: (ys ++ zs))) := by
        simp
        omega
      rw [hws, hsize, hall]

end Lexeme

/-- The tokens that a lexer reads from a text, and its state at the end. -/
theorem tokens_decompose (o : Lexer.Options) (t : Text) :
    (Lexer.ofText o t).drain.cursor = ⟨Text.size t, []⟩ ∧
    (∀ a ∈ tokens o t, a.start < a.stop ∧ a.StandsIn o t) ∧
    (tokens o t).Pairwise (fun a b => a.stop ≤ b.start) ∧
    (∀ as bs, tokens o t = as ++ bs → ∃ before gap after, t = before ++ gap ++ after ∧
      IsGap o gap after ∧ Text.size before = (as.getLast?.map Token.stop).getD 0 ∧
      Text.size before + Text.size gap = (bs.head?.map Token.start).getD (Text.size t)) ∧
    ∀ k, (Lexer.ofText o t).drain.unclosed = some k ↔ ∃ xs body, k.StaysOpen body ∧
      Tiling o t (xs ++ [⟨k.opening ++ body, k.kind?, some k⟩]) [] := by
  have htiling := tiling_lexemes o t
  rw [Lexer.drain_ofText, tokens_eq]
  refine ⟨rfl, ?_, ?_, ?_, ?_⟩
  · intro a ha
    exact Lexeme.standsIn_of_mem_tokens htiling ha
  · exact Lexeme.pairwise_tokens 0 _
  · intro as bs h
    obtain ⟨ws, ys, zs, hxs, hys, hbefore, hgap⟩ := Lexeme.exists_gap h
    rw [hxs] at htiling
    obtain ⟨m, hws, hm⟩ := htiling.split
    obtain ⟨after, hym, hz⟩ := hm.split
    have hcover : Lexeme.cover (lexemes o t) = t := by
      simpa using (tiling_lexemes o t).eq_cover_append.symm
    refine ⟨Lexeme.cover ws, Lexeme.cover ys, after, ?_, ⟨ys, ?_, hys⟩, ?_, ?_⟩
    · rw [hws.eq_cover_append, hym.eq_cover_append, List.append_assoc]
    · rwa [← hym.eq_cover_append]
    · simpa using hbefore
    · simpa [hcover] using hgap
  · exact fun k => Lexeme.leftOpen?_eq_some_iff

end QueryConsole.Sql
