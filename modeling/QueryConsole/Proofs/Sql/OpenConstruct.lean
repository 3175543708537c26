import QueryConsole.Proofs.Sql.Decomposition
import QueryConsole.Proofs.Sql.Offsets

/-!
# Text behind an open construct

A construct that is open at the end of a text takes in whatever is appended, up to its closing
delimiter. Text without the characters of that delimiter leaves the analysis as it was, and the
delimiter itself closes the construct. A here document may end in a dollar sign, so that the first
two of three dollar signs close it; what is left over then is too short to open anything.
-/

namespace QueryConsole.Sql

namespace Construct

variable {k : Construct} {body w : Text}

theorem StaysOpen.append (h : k.StaysOpen body) (hw : ∀ a ∈ k.closing, a ∉ w) :
    k.StaysOpen (body ++ w) := by
  cases h with
  | @doubled q b hk =>
    have hq : q ∉ w := hw q (by simp [hk])
    rw [← Extent.double_of_notMem hq, ← Extent.double_append]
    exact .doubled hk
  | @paired p q _ hk hb =>
    have hq : q ∉ w := hw q (by simp [hk])
    exact .paired hk (Extent.not_pair_infix_append hb hq)

/-- The closing delimiter closes an open construct, with at most a dollar sign to spare. -/
theorem StaysOpen.exists_closes (h : k.StaysOpen body) :
    ∃ b rest, body ++ k.closing = b ++ rest ∧ k.Closes b rest ∧ (rest = [] ∨ rest = ['$']) := by
  cases h with
  | @doubled q b hk =>
    refine ⟨Extent.double q b ++ [q], [], by simp [hk], .doubled hk (by simp), .inl rfl⟩
  | @paired p q _ hk hb =>
    rcases Extent.not_pair_infix_concat hb with hb' | ⟨s, rfl, rfl⟩
    · exact ⟨body ++ [p, q], [], by simp [hk], .paired hk hb', .inl rfl⟩
    · have hdollar : p = '$' := by
        cases k with
        | hereDocument => exact (List.cons.inj hk).1.symm
        | blockComment =>
          obtain ⟨hstar, hslash⟩ : '*' = p ∧ '/' = p := by simpa [closing] using hk
          exact absurd (hstar.trans hslash.symm) (by decide)
        | _ => simp [closing] at hk
      exact ⟨s ++ [p, p], [p], by simp [hk], .paired hk hb, .inr (by rw [hdollar])⟩

theorem head?_opening_append (k : Construct) (t u : Text) :
    (k.opening ++ t).head? = (k.opening ++ u).head? := by
  cases k <;> rfl

end Construct

namespace Lexeme

variable {o : Lexer.Options} {t rest : Text} {x : Lexeme} {xs : List Lexeme} {k : Construct}

theorem Valid.opens_of_openIn (h : Valid o x rest) (hk : x.openIn = some k) : o.Opens k := by
  cases h with
  | leftOpen ho _ =>
    cases hk
    exact ho
  | _ => cases hk

/-- A text that leaves a construct open is cut before the opening delimiter of that construct. -/
theorem exists_tiling_of_leftOpen? (h : leftOpen? (lexemes o t) = some k) :
    ∃ xs body, Tiling o t xs (k.opening ++ body) ∧ o.Opens k ∧ k.StaysOpen body := by
  obtain ⟨xs, body, hbody, htiling⟩ := leftOpen?_eq_some_iff.1 h
  obtain ⟨m, hxs, hm⟩ := htiling.split
  have hm' : m = k.opening ++ body := by simpa using hm.eq_cover_append
  refine ⟨xs, body, hm' ▸ hxs, ?_, hbody⟩
  cases hm with
  | cons hvalid _ => exact hvalid.opens_of_openIn rfl

/-- A dollar sign that ends a text opens nothing. -/
theorem leftOpen?_lexemes_dollar (o : Lexer.Options) : leftOpen? (lexemes o ['$']) = none := by
  rw [Option.eq_none_iff_forall_ne_some]
  intro k hk
  obtain ⟨xs, body, htiling, -, -⟩ := exists_tiling_of_leftOpen? hk
  have hcover := htiling.eq_cover_append
  cases k
  all_goals simp [Construct.opening, List.cons_eq_append_iff] at hcover

end Lexeme

namespace Tiling

variable {o : Lexer.Options} {t body b rest : Text} {xs : List Lexeme} {k : Construct}

theorem lexemes_of_staysOpen (h : Tiling o t xs (k.opening ++ b)) (ho : o.Opens k)
    (hbody : k.StaysOpen body) : lexemes o (Lexeme.cover xs ++ (k.opening ++ body)) =
      xs ++ [⟨k.opening ++ body, k.kind?, some k⟩] := by
  have hfront := h.congr (k.head?_opening_append body b)
  have hlast := Tiling.cons (.leftOpen ho hbody) (.nil [])
  rw [List.append_nil] at hlast
  exact (hfront.append hlast).eq_lexemes.symm

theorem lexemes_of_closes (h : Tiling o t xs (k.opening ++ b)) (ho : o.Opens k)
    (hbody : k.Closes body rest) : lexemes o (Lexeme.cover xs ++ (k.opening ++ body ++ rest)) =
      xs ++ ⟨k.opening ++ body, k.kind?, none⟩ :: lexemes o rest := by
  have hhead := k.head?_opening_append (body ++ rest) b
  rw [← List.append_assoc] at hhead
  have hfront := h.congr hhead
  have hnext := Tiling.cons (.closed ho hbody) (.nil rest)
  rw [(hfront.append hnext).lexemes_eq, List.append_assoc, List.singleton_append]

end Tiling

namespace Dialect

theorem unclosed_analyze (d : Dialect) (c : Char) (t : Text) :
    (d.analyze c t).unclosed = Lexeme.leftOpen? (lexemes (d.options c) t) :=
  congrArg Lexer.unclosed (Lexer.drain_ofText (d.options c) t)

/-- Where the terminator is found does not depend on the text of the last lexeme. -/
theorem terminator?_analyze_congr (d : Dialect) (c : Char) {t u : Text} {xs : List Lexeme}
    {x y : Lexeme} (ht : lexemes (d.options c) t = xs ++ [x])
    (hu : lexemes (d.options c) u = xs ++ [y]) (hkind : x.kind? = y.kind?) :
    (d.analyze c t).terminator? = (d.analyze c u).terminator? := by
  rw [terminator?_analyze, terminator?_analyze]
  apply d.start_terminator?_congr
  rw [tokens_eq, tokens_eq, ht, hu, Lexeme.tokens_append, Lexeme.tokens_append, List.map_append,
    List.map_append]
  simp only [Lexeme.tokens, hkind]
  cases y.kind? with
  | none => rfl
  | some _ => rfl

section OpenEnd

variable {d : Dialect} {c : Char} {t b body : Text} {xs : List Lexeme} {k : Construct}

/-- What stands in a construct that stays open has no influence on the analysis. -/
theorem analyze_of_staysOpen (h : Tiling (d.options c) t xs (k.opening ++ b))
    (ho : (d.options c).Opens k) (hb : k.StaysOpen b) (hbody : k.StaysOpen body) :
    d.analyze c (Lexeme.cover xs ++ (k.opening ++ body)) =
      d.analyze c (Lexeme.cover xs ++ (k.opening ++ b)) := by
  have hlexemes := h.lexemes_of_staysOpen ho hb
  have hlexemes' := h.lexemes_of_staysOpen ho hbody
  have hterminator := d.terminator?_analyze_congr c hlexemes' hlexemes rfl
  have hunclosed : (d.analyze c (Lexeme.cover xs ++ (k.opening ++ body))).unclosed =
      (d.analyze c (Lexeme.cover xs ++ (k.opening ++ b))).unclosed := by
    rw [unclosed_analyze, unclosed_analyze, hlexemes, hlexemes']
    simp [Lexeme.leftOpen?]
  exact congrArg₂ Analysis.mk hterminator hunclosed

theorem unclosed_of_closing (h : Tiling (d.options c) t xs (k.opening ++ b))
    (ho : (d.options c).Opens k) (hbody : k.StaysOpen body) :
    (d.analyze c (Lexeme.cover xs ++ (k.opening ++ (body ++ k.closing)))).unclosed = none := by
  obtain ⟨b', rest, hb', hcloses, hrest⟩ := hbody.exists_closes
  rw [hb', ← List.append_assoc k.opening, unclosed_analyze, h.lexemes_of_closes ho hcloses,
    Lexeme.leftOpen?_append_cons_of_closed rfl]
  rcases hrest with rfl | rfl
  · rw [lexemes]
    rfl
  · exact Lexeme.leftOpen?_lexemes_dollar (d.options c)

end OpenEnd

/-- Text without the characters of its closing delimiter leaves an open construct open, and with it
the whole analysis. The delimiter closes it. -/
theorem unclosed_append (d : Dialect) (c : Char) {s w : Text} {k : Construct}
    (h : (d.analyze c s).unclosed = some k) (hw : ∀ a ∈ k.closing, a ∉ w) :
    d.analyze c (s ++ w) = d.analyze c s ∧
      (d.analyze c (s ++ w ++ k.closing)).unclosed = none := by
  rw [unclosed_analyze] at h
  obtain ⟨xs, body, htiling, ho, hbody⟩ := Lexeme.exists_tiling_of_leftOpen? h
  have hbody' := hbody.append hw
  have htext : s ++ w = Lexeme.cover xs ++ (k.opening ++ (body ++ w)) := by
    simp [htiling.eq_cover_append]
  constructor
  · rw [htext, htiling.eq_cover_append]
    exact analyze_of_staysOpen htiling ho hbody hbody'
  · have hclosed := unclosed_of_closing htiling ho hbody'
    rwa [htext, List.append_assoc, List.append_assoc]

theorem unclosed_append_in_block :
    (snowflake.analyze ';' "BEGIN x; $$ a$".toList).unclosed = some .hereDocument ∧
    (∀ a ∈ Construct.hereDocument.closing, a ∉ "; END; /* 'b".toList) ∧
    snowflake.analyze ';' ("BEGIN x; $$ a$".toList ++ "; END; /* 'b".toList) =
      snowflake.analyze ';' "BEGIN x; $$ a$".toList ∧
    (snowflake.analyze ';' ("BEGIN x; $$ a$".toList ++ "; END; /* 'b".toList ++
      Construct.hereDocument.closing)).unclosed = none := by
  have hopen : (snowflake.analyze ';' "BEGIN x; $$ a$".toList).unclosed = some .hereDocument := by
    decide +kernel
  have hw : ∀ a ∈ Construct.hereDocument.closing, a ∉ "; END; /* 'b".toList := by
    simp [Construct.closing]
  exact ⟨hopen, hw, unclosed_append snowflake ';' hopen hw⟩

end Dialect

end QueryConsole.Sql
