import QueryConsole.Proofs.Sql.Hiding
import QueryConsole.Proofs.Sql.Locality
import QueryConsole.Proofs.Sql.OpenConstruct

/-!
# The dialects compared

A text without dollar signs has the same tokens in both dialects. The scripting dialect then reports
a terminator of plain SQL or none, and never one before the first. It reports the first itself if
the batch begins with no block and creates nothing. As an analysis reads all of the text, wherever
its search stops, both find the same construct open.
-/

namespace QueryConsole.Sql

/-! ### Texts without dollar signs -/

section Dollar

variable (o : Lexer.Options) (b : Bool) {c : Char} {t : Text}

theorem Opening.at_dollarQuoting (hc : c ≠ '$') (next : Option Char) :
    Opening.at { o with dollarQuoting := b } c next = Opening.at o c next := by
  simp [Opening.at, hc]

theorem Lexeme.read_dollarQuoting (hc : c ≠ '$') (t : Text) :
    read { o with dollarQuoting := b } c t = read o c t := by
  simp only [read, Opening.at_dollarQuoting o b hc]

/-- Whether a dollar sign begins something makes no difference where there is none. -/
theorem lexemes_dollarQuoting (ht : '$' ∉ t) :
    lexemes { o with dollarQuoting := b } t = lexemes o t := by
  fun_induction lexemes o t with
  | case1 => rw [lexemes]
  | case2 c t ih =>
    obtain ⟨hc, -⟩ := not_or.1 (mt List.mem_cons.2 ht)
    have hrest : '$' ∉ (Lexeme.read o c t).2 := by
      intro hmem
      rw [← Lexeme.text_append_rest o c t] at ht
      exact ht (List.mem_append_right _ hmem)
    rw [lexemes, Lexeme.read_dollarQuoting o b (Ne.symm hc), ih hrest]

end Dollar

/-! ### The first terminator -/

theorem statementEnd?_of_not_create {ts : List Token} (h : ∀ t ∈ ts, t.keyword? ≠ some .create) :
    statementEnd? ts = ts.find? Token.isTerminator := by
  fun_induction statementEnd? ts with
  | case1 => rfl
  | case2 t ts ht => rw [List.find?_cons_of_pos ht]
  | case3 t ts _ hcreate _ => exact absurd (Token.isKeyword_iff.1 hcreate) (h t List.mem_cons_self)
  | case4 t ts ht _ ih =>
    rw [List.find?_cons_of_neg ht, ih fun u hu => h u (List.mem_cons_of_mem t hu)]

/-- No terminator of a text stands before the first. -/
theorem exists_first_terminator {o : Lexer.Options} {t : Text} {e : Token} (he : e ∈ tokens o t)
    (hterminator : e.isTerminator = true) :
    ∃ f, (tokens o t).find? Token.isTerminator = some f ∧ f.start ≤ e.start := by
  obtain ⟨f, hf⟩ := Option.isSome_iff_exists.1 (List.find?_isSome.2 ⟨e, he, hterminator⟩)
  refine ⟨f, hf, ?_⟩
  obtain ⟨-, as, bs, hts, has⟩ := List.find?_eq_some_iff_append.1 hf
  have hpairwise := Lexeme.pairwise_tokens 0 (lexemes o t)
  rw [← tokens_eq, hts] at hpairwise
  obtain ⟨-, htail, -⟩ := List.pairwise_append.1 hpairwise
  rw [hts] at he
  rcases List.mem_append.1 he with he | he
  · exact absurd hterminator (by simpa using has e he)
  · rcases List.mem_cons.1 he with rfl | he
    · exact Nat.le_refl _
    · have hmem : f ∈ Lexeme.tokens 0 (lexemes o t) := by
        rw [← tokens_eq, hts]
        simp
      have hspan := (Lexeme.standsIn_of_mem_tokens (tiling_lexemes o t) hmem).1
      have hbehind := (List.pairwise_cons.1 htail).1 e he
      omega

namespace Dialect

/-- What ends a statement in either dialect is a terminator of the text. -/
theorem mem_of_terminator? {d : Dialect} {ts : List Token} {e : Token}
    (h : d.terminator? ts = some e) : e ∈ ts ∧ e.isTerminator = true := by
  obtain ⟨as, bs, rfl, he, -⟩ := findsLocally_terminator? h
  exact ⟨by simp, he⟩

theorem terminator?_eq_find? {ts : List Token} (hcreate : ∀ t ∈ ts, t.keyword? ≠ some .create)
    (hscript : ¬BeginsScript ts) : snowflake.terminator? ts = ansi.terminator? ts := by
  have hopens : ¬opensBlock ts = true := mt opensBlock_iff.1 hscript
  rw [terminator?, terminator?, if_neg hopens, statementEnd?_of_not_create hcreate]

section Restriction

variable {c : Char} {buffer : Text} (hdollar : '$' ∉ buffer)

include hdollar

theorem lexemes_options (d d' : Dialect) :
    lexemes (d.options c) buffer = lexemes (d'.options c) buffer :=
  lexemes_dollarQuoting (d'.options c) (d == snowflake) hdollar

theorem tokens_options (d d' : Dialect) :
    tokens (d.options c) buffer = tokens (d'.options c) buffer := by
  rw [tokens_eq, tokens_eq, lexemes_options hdollar d d']

theorem unclosed_eq (d d' : Dialect) :
    (d.analyze c buffer).unclosed = (d'.analyze c buffer).unclosed := by
  rw [unclosed_analyze, unclosed_analyze, lexemes_options hdollar d d']

/-- What the scripting dialect reports is a terminator of plain SQL, at or behind the first. -/
theorem exists_of_terminator?_analyze {p : Nat}
    (h : (snowflake.analyze c buffer).terminator? = some p) :
    (∃ e ∈ tokens (ansi.options c) buffer, e.isTerminator = true ∧ e.start = p) ∧
      ∃ q, (ansi.analyze c buffer).terminator? = some q ∧ q ≤ p := by
  rw [terminator?_analyze, tokens_options hdollar snowflake ansi] at h
  obtain ⟨e, he, rfl⟩ := Option.map_eq_some_iff.1 h
  obtain ⟨hmem, hterminator⟩ := mem_of_terminator? he
  obtain ⟨f, hf, hle⟩ := exists_first_terminator hmem hterminator
  refine ⟨⟨e, hmem, hterminator, rfl⟩, f.start, ?_, hle⟩
  rw [terminator?_analyze, terminator?, hf, Option.map_some]

/-- On a text without dollar signs the scripting dialect is a restriction of plain SQL: it leaves
the same construct open and reports only terminators of plain SQL, none before the first. Without a
script and without a `CREATE` the analyses are equal. -/
theorem snowflake_restricts_ansi :
    (snowflake.analyze c buffer).unclosed = (ansi.analyze c buffer).unclosed ∧
    (∀ p, (snowflake.analyze c buffer).terminator? = some p →
      (∃ e ∈ tokens (ansi.options c) buffer, e.isTerminator = true ∧ e.start = p) ∧
      ∃ q, (ansi.analyze c buffer).terminator? = some q ∧ q ≤ p) ∧
    ((ansi.analyze c buffer).terminator? = none →
      (snowflake.analyze c buffer).terminator? = none) ∧
    ((∀ t ∈ tokens (ansi.options c) buffer, t.keyword? ≠ some .create) →
      ¬BeginsScript (tokens (ansi.options c) buffer) →
      snowflake.analyze c buffer = ansi.analyze c buffer) := by
  refine ⟨unclosed_eq hdollar _ _, fun p => exists_of_terminator?_analyze hdollar, ?_, ?_⟩
  · intro hnone
    rw [Option.eq_none_iff_forall_ne_some]
    intro p hp
    obtain ⟨-, q, hq, -⟩ := exists_of_terminator?_analyze hdollar hp
    rw [hnone] at hq
    cases hq
  · intro hcreate hscript
    have hterminator : (snowflake.analyze c buffer).terminator? =
        (ansi.analyze c buffer).terminator? := by
      rw [terminator?_analyze, terminator?_analyze, tokens_options hdollar snowflake ansi,
        terminator?_eq_find? hcreate hscript]
    exact congrArg₂ Analysis.mk hterminator (unclosed_eq hdollar _ _)

end Restriction

/-- The terminator inside a block is passed by, and a transaction is no block. -/
theorem snowflake_restricts_ansi_block :
    ('$' ∉ "BEGIN x; END; 'y".toList ∧
      (snowflake.analyze ';' "BEGIN x; END; 'y".toList).terminator? = some 12 ∧
      (snowflake.analyze ';' "BEGIN x; END; 'y".toList).unclosed =
        (ansi.analyze ';' "BEGIN x; END; 'y".toList).unclosed ∧
      (∃ e ∈ tokens (ansi.options ';') "BEGIN x; END; 'y".toList,
        e.isTerminator = true ∧ e.start = 12) ∧
      ∃ q, (ansi.analyze ';' "BEGIN x; END; 'y".toList).terminator? = some q ∧ q ≤ 12) ∧
    '$' ∉ "BEGIN WORK".toList ∧
      (ansi.analyze ';' "BEGIN WORK".toList).terminator? = none ∧
      (∀ t ∈ tokens (ansi.options ';') "BEGIN WORK".toList, t.keyword? ≠ some .create) ∧
      ¬BeginsScript (tokens (ansi.options ';') "BEGIN WORK".toList) ∧
      (snowflake.analyze ';' "BEGIN WORK".toList).terminator? = none ∧
      snowflake.analyze ';' "BEGIN WORK".toList = ansi.analyze ';' "BEGIN WORK".toList := by
  have hblock : '$' ∉ "BEGIN x; END; 'y".toList := by simp
  have hfound : (snowflake.analyze ';' "BEGIN x; END; 'y".toList).terminator? = some 12 := by
    decide +kernel
  have hwork : '$' ∉ "BEGIN WORK".toList := by simp
  have hnone : (ansi.analyze ';' "BEGIN WORK".toList).terminator? = none := by decide +kernel
  have hcreate : ∀ t ∈ tokens (ansi.options ';') "BEGIN WORK".toList,
      t.keyword? ≠ some .create := by
    decide +kernel
  have hscript : ¬BeginsScript (tokens (ansi.options ';') "BEGIN WORK".toList) := by decide +kernel
  obtain ⟨hunclosed, hrestricts, -, -⟩ := snowflake_restricts_ansi (c := ';') hblock
  obtain ⟨-, -, hless, hequal⟩ := snowflake_restricts_ansi (c := ';') hwork
  exact ⟨⟨hblock, hfound, hunclosed, hrestricts 12 hfound⟩, hwork, hnone, hcreate, hscript,
    hless hnone, hequal hcreate hscript⟩

end Dialect

end QueryConsole.Sql
