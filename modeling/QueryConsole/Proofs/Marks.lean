import QueryConsole.Proofs.Command.OpenQuotes
import QueryConsole.Proofs.CommandLine
import QueryConsole.Proofs.Settings
import QueryConsole.Proofs.Stability

/-!
# Quotation marks behind a terminator

What stands behind the terminator of a complete input is read a second time, as the arguments of
the statement. Command lines have the same quotations as SQL text, but they have no comments, no
bracketed identifiers and no here documents, and a backslash escapes in them. They find a quotation
open only where one of the marks before is not the same to both.
-/

namespace QueryConsole

open Command (Quote PairsUp)

namespace Sql

/-- A quotation mark stands at the offset `n` of a text. -/
def MarkAt (t : Text) (n : Nat) : Prop :=
  ∃ (before after : Text) (q : Quote), t = before ++ q.mark :: after ∧ Text.size before = n

/-- From the offset `i` to the offset `j` of a text reaches a line comment, or a construct that
command lines do not have. -/
def CoveredFrom (o : Lexer.Options) (t : Text) (i j : Nat) : Prop :=
  (∃ xs body rest, Tiling o t xs ('-' :: '-' :: body ++ rest) ∧
    Lexeme.Valid o ⟨'-' :: '-' :: body, none, none⟩ rest ∧ i = Text.size (Lexeme.cover xs) ∧
    j = i + Text.size ('-' :: '-' :: body)) ∨
  ∃ k ∈ [Construct.bracketedIdentifier, .blockComment, .hereDocument], k.StandsIn o t i j

/-- The quotation mark at an offset is not the same to a command line and in SQL. -/
inductive Misread (o : Lexer.Options) (t : Text) : Nat → Prop
  /-- It is the terminator. -/
  | terminator {n : Nat} : MarkAt t n →
      ⟨.terminator o.terminator, n, n + o.terminator.utf8Size⟩ ∈ tokens o t → Misread o t n
  /-- It is part of a comment, a bracketed identifier or a here document. -/
  | covered {n i j : Nat} : MarkAt t n → CoveredFrom o t i j → i < n → n < j → Misread o t n
  /-- It begins a literal or a quoted identifier behind a backslash. -/
  | escaped {before after : Text} {q : Quote} {k : Construct} {j : Nat} :
      t = before ++ '\\' :: q.mark :: after → k.opening = [q.mark] →
      k.StandsIn o t (Text.size (before ++ ['\\'])) j → Misread o t (Text.size (before ++ ['\\']))

/-- The first `n` bytes of `t` are as a command line needs them, behind the text `front`. -/
structure Readable (front : Text) (n : Nat) (t : Text) : Prop where
  pairsUp : PairsUp n t
  not_escaped : front.getLast? = some '\\' → n ≠ 0 → ∀ c ∈ t.head?, Quote.ofMark? c = none

namespace Readable

variable {front t w : Text} {n : Nat} {c : Char}

theorem zero (front t : Text) : Readable front 0 t := ⟨.zero t, fun _ h => absurd rfl h⟩

theorem other (hc : Quote.ofMark? c = none) (h : Readable (front ++ [c]) n t) :
    Readable front (c.utf8Size + n) (c :: t) := by
  refine ⟨.other hc ?_ h.pairsUp, ?_⟩
  · rintro rfl
    exact h.not_escaped (by simp)
  · rintro - - d ⟨⟩
    exact hc

theorem append (hw : ∀ c ∈ w, Quote.ofMark? c = none) (h : Readable (front ++ w) n t) :
    Readable front (Text.size w + n) (w ++ t) := by
  induction w generalizing front with
  | nil => simpa using h
  | cons c w ih =>
    rw [Text.size_cons, Nat.add_assoc]
    refine other (hw c (by simp)) (ih (fun d hd => hw d (by simp [hd])) ?_)
    rwa [List.append_assoc, List.singleton_append]

end Readable

theorem exists_first_mark (w : Text) : (∀ c ∈ w, Quote.ofMark? c = none) ∨
    ∃ (u v : Text) (q : Quote), w = u ++ q.mark :: v ∧ ∀ c ∈ u, Quote.ofMark? c = none := by
  induction w with
  | nil => exact .inl (by simp)
  | cons c w ih =>
    cases hc : Quote.ofMark? c with
    | some q => exact .inr ⟨[], w, q, by simp [Quote.ofMark?_eq_some_iff.1 hc], by simp⟩
    | none =>
      rcases ih with hw | ⟨u, v, q, rfl, hu⟩
      · exact .inl (List.forall_mem_cons.2 ⟨hc, hw⟩)
      · exact .inr ⟨c :: u, v, q, rfl, List.forall_mem_cons.2 ⟨hc, hu⟩⟩

theorem ofMark?_of_isIdentifierChar {c : Char} (hc : Text.isIdentifierChar c = true) :
    Quote.ofMark? c = none :=
  Quote.ofMark?_of_property Text.isIdentifierChar (fun q => by cases q <;> decide) hc

theorem ofMark?_of_not_isMark {o : Lexer.Options} {c : Char} {next : Option Char}
    (hc : ¬o.IsMark c next) : Quote.ofMark? c = none := by
  rw [Option.eq_none_iff_forall_ne_some]
  intro q hq
  obtain rfl := Quote.ofMark?_eq_some_iff.1 hq
  cases q <;> exact hc (by simp [Lexer.Options.IsMark, Quote.mark])

section Front

variable {o : Lexer.Options} {t rest : Text} {x : Lexeme} {ys : List Lexeme}

/-- A text with a covered piece is readable up to the first mark in it, which is misread, or over
the whole piece. -/
theorem misread_or_readable_covered {w : Text}
    (hcover : t = Lexeme.cover ys ++ (w ++ rest)) (hhead : ∀ c ∈ w.head?, Quote.ofMark? c = none)
    (h : CoveredFrom o t (Text.size (Lexeme.cover ys)) (Text.size (Lexeme.cover ys ++ w))) :
    (∃ n, Misread o t (Text.size (Lexeme.cover ys) + n) ∧
      Readable (Lexeme.cover ys) n (w ++ rest)) ∨
    ∀ n, Readable (Lexeme.cover ys ++ w) n rest →
      Readable (Lexeme.cover ys) (Text.size w + n) (w ++ rest) := by
  rcases exists_first_mark w with hw | ⟨u, v, q, rfl, hu⟩
  · exact .inr fun n hn => hn.append hw
  · left
    have hu0 : u ≠ [] := by
      rintro rfl
      simpa [Quote.ofMark?_eq_some_iff.2 rfl] using hhead q.mark rfl
    have hsize : 0 < Text.size u := Nat.pos_of_ne_zero (mt Text.size_eq_zero_iff.1 hu0)
    have hmark : MarkAt t (Text.size (Lexeme.cover ys) + Text.size u) :=
      ⟨Lexeme.cover ys ++ u, v ++ rest, q, by simp [hcover], by simp⟩
    refine ⟨Text.size u, .covered hmark h (by omega) ?_, ?_⟩
    · have hpos := q.mark.utf8Size_pos
      simp only [Text.size_append, Text.size_cons]
      omega
    · rw [List.append_assoc]
      simpa using (Readable.zero (Lexeme.cover ys ++ u) (q.mark :: v ++ rest)).append hu

/-- A literal or quoted identifier is a quotation of the command line, unless it is escaped. -/
theorem misread_or_readable_quotation {k : Construct} {q : Quote} {body : Text}
    (hys : Tiling o t ys (k.opening ++ body ++ rest)) (ho : o.Opens k) (hk : k.Closes body rest)
    (hopening : k.opening = [q.mark]) (hclosing : k.closing = [q.mark]) :
    (∃ n, Misread o t (Text.size (Lexeme.cover ys) + n) ∧
      Readable (Lexeme.cover ys) n (k.opening ++ body ++ rest)) ∨
    ∀ n, Readable (Lexeme.cover ys ++ (k.opening ++ body)) n rest →
      Readable (Lexeme.cover ys) (Text.size (k.opening ++ body) + n)
        (k.opening ++ body ++ rest) := by
  by_cases hescaped : (Lexeme.cover ys).getLast? = some '\\'
  · left
    obtain ⟨before, hbefore⟩ := List.getLast?_eq_some_iff.1 hescaped
    refine ⟨0, ?_, .zero _ _⟩
    have hcover : t = before ++ '\\' :: q.mark :: (body ++ rest) := by
      simpa [hbefore, hopening] using hys.eq_cover_append
    rw [Nat.add_zero, hbefore]
    exact .escaped hcover hopening ⟨ys, body, rest, hys, ho, hk, by rw [hbefore], rfl⟩
  · right
    intro n hn
    refine ⟨?_, fun h => absurd h hescaped⟩
    rw [hopening]
    cases hk with
    | @doubled c b _ hc hrest =>
      obtain rfl : q.mark = c := by simpa [hclosing] using hc
      simpa using PairsUp.quotation q b hrest hn.pairsUp
    | paired hc _ => simp [hclosing] at hc

/-- Over one lexeme a text stays readable, or there is a mark in the lexeme that is misread. -/
theorem misread_or_readable_lexeme (hys : Tiling o t ys (x.text ++ rest))
    (hx : Lexeme.Valid o x rest) (hclosed : x.openIn = none) :
    (∃ n, Misread o t (Text.size (Lexeme.cover ys) + n) ∧
      Readable (Lexeme.cover ys) n (x.text ++ rest)) ∨
    ∀ n, Readable (Lexeme.cover ys ++ x.text) n rest →
      Readable (Lexeme.cover ys) (Text.size x.text + n) (x.text ++ rest) := by
  have hcover := hys.eq_cover_append
  cases hx with
  | terminator =>
    rcases exists_first_mark [o.terminator] with hw | ⟨u, v, q, hw, -⟩
    · exact .inr fun n hn => hn.append hw
    · left
      obtain ⟨rfl, hq⟩ : u = [] ∧ o.terminator = q.mark := by
        cases u with
        | nil => exact ⟨rfl, (List.cons.inj hw).1⟩
        | cons c u => simp at hw
      refine ⟨0, .terminator ⟨Lexeme.cover ys, rest, q, ?_, rfl⟩ ?_, .zero _ _⟩
      · simpa [hq] using hcover
      · rw [hys.tokens_terminator]
        simp
  | blank _ _ hblank =>
    exact .inr fun n hn =>
      hn.append (List.forall_mem_singleton.2 (Quote.ofMark?_of_isBlank hblank))
  | @lineComment body _ hc hbody hrest =>
    exact misread_or_readable_covered hcover (by rintro c ⟨⟩; decide)
      (.inl ⟨ys, body, rest, hys, .lineComment hc hbody hrest, rfl, Text.size_append _ _⟩)
  | @closed k body _ ho hk =>
    have hcovered (hmem : k ∈ [.bracketedIdentifier, .blockComment, .hereDocument]) :
        CoveredFrom o t (Text.size (Lexeme.cover ys))
          (Text.size (Lexeme.cover ys ++ (k.opening ++ body))) :=
      .inr ⟨k, hmem, ys, body, rest, hys, ho, hk, rfl, Text.size_append _ _⟩
    cases k with
    | stringLiteral => exact misread_or_readable_quotation (q := .single) hys ho hk rfl rfl
    | quotedIdentifier => exact misread_or_readable_quotation (q := .double) hys ho hk rfl rfl
    | _ =>
      exact misread_or_readable_covered hcover (by rintro c ⟨⟩; decide) (hcovered (by decide))
  | leftOpen => cases hclosed
  | @«variable» c name _ _ hsigil hname _ =>
    refine .inr fun n hn => hn.append (List.forall_mem_cons.2 ⟨?_, fun d hd => ?_⟩)
    · rcases hsigil with rfl | ⟨rfl, -⟩ <;> decide
    · exact ofMark?_of_isIdentifierChar (hname d hd)
  | word _ hw _ =>
    exact .inr fun n hn => hn.append fun d hd => ofMark?_of_isIdentifierChar (hw d hd).1
  | punct _ _ _ hmark =>
    exact .inr fun n hn =>
      hn.append (List.forall_mem_singleton.2 (ofMark?_of_not_isMark hmark))

/-- A text that leaves nothing open is readable up to a mark that is misread, or all of it is. -/
theorem misread_or_readable {xs : List Lexeme} (hys : Tiling o t ys rest)
    (hxs : Tiling o rest xs []) (hclosed : ∀ x ∈ xs, x.openIn = none) :
    (∃ n, Misread o t (Text.size (Lexeme.cover ys) + n) ∧ Readable (Lexeme.cover ys) n rest) ∨
      ∀ n, Readable (Lexeme.cover ys) (Text.size rest + n) rest := by
  generalize hend : ([] : Text) = u at hxs
  induction hxs generalizing ys with
  | nil =>
    subst hend
    exact .inr fun n => ⟨.nil _, fun _ _ => nofun⟩
  | @cons x rest u xs hx hxs ih =>
    have hbehind := hys.append (.cons hx (.nil rest))
    have hcover : Lexeme.cover (ys ++ [x]) = Lexeme.cover ys ++ x.text := by simp
    rcases misread_or_readable_lexeme hys hx (hclosed x (by simp)) with h | hstep
    · exact .inl h
    · rcases ih hbehind (fun y hy => hclosed y (by simp [hy])) hend with ⟨n, hmis, hn⟩ | hn
      · left
        rw [hcover] at hmis hn
        refine ⟨Text.size x.text + n, ?_, hstep n hn⟩
        rwa [← Nat.add_assoc, ← Text.size_append]
      · right
        intro n
        rw [Text.size_append, Nat.add_assoc]
        exact hstep _ (hcover ▸ hn n)

end Front

/-- A command line is found to have an open quotation only behind a mark that is misread, if it has
no open construct. -/
theorem misread_of_tokenize {o : Lexer.Options} {t : Text} {lo : Command.Options}
    {d : Command.Diagnostic} (hclosed : Lexeme.leftOpen? (lexemes o t) = none)
    (h : Command.tokenize lo t = .error d) (hd : d.kind = .unterminatedLiteral) :
    ∃ n, Misread o t n ∧ n ≤ d.position := by
  have htiling := tiling_lexemes o t
  have hnone := htiling.openIn_eq_none hclosed
  rcases misread_or_readable (.nil t) htiling hnone with ⟨n, hmis, hn⟩ | hn
  · rw [Lexeme.cover_nil, Text.size_nil, Nat.zero_add] at hmis
    exact ⟨n, hmis, Command.le_position_of_tokenize hn.pairsUp h hd⟩
  · have hle := Command.le_position_of_tokenize (hn (d.position + 1)).pairsUp h hd
    omega

end Sql

/-- If a buffer is complete because of a terminator, the text behind that is found to have an open
quotation only behind a quotation mark that is misread. -/
theorem Settings.misread_of_detect {s : Settings} {d : Detector} {buffer : Text} {caret p : Nat}
    (hd : s.detector = .ok d) (h : d.detect buffer caret = .terminated p) :
    ∃ before behind o, buffer = before ++ d.terminator :: behind ∧ Text.size before = p ∧
      s.lineOptions = .ok o ∧ ∀ lookup diagnostic,
        Command.tokenize { o with lookup } behind = .error diagnostic →
        diagnostic.kind = .unterminatedLiteral →
        ∃ n, Sql.Misread (d.dialect.options d.terminator) behind n ∧ n ≤ diagnostic.position := by
  obtain ⟨hopen, hfound⟩ := Detector.of_detect_eq_terminated h
  rw [Sql.Dialect.terminator?_analyze] at hfound
  obtain ⟨e, he, rfl⟩ := Option.map_eq_some_iff.1 hfound
  obtain ⟨as, bs, htokens, hterminator, -⟩ := Sql.Dialect.findsLocally_terminator? he
  obtain ⟨xs, behind, htiling, -, rfl⟩ := Sql.exists_tiling_of_tokens htokens hterminator
  -- the construct that is open at the end would be open behind the terminator
  have hclosed : Sql.Lexeme.leftOpen? (Sql.lexemes (d.dialect.options d.terminator) behind) =
      none := by
    rwa [Sql.Dialect.unclosed_analyze, htiling.lexemes_eq, Sql.lexemes_terminator,
      Sql.Lexeme.leftOpen?_append_cons_of_closed rfl] at hopen
  exact ⟨_, behind, _, htiling.eq_cover_append, rfl, lineOptions_of_detector hd,
    fun lookup diagnostic => Sql.misread_of_tokenize hclosed⟩

theorem Settings.misread_of_detect_comment :
    ({} : Settings).detector = .ok ⟨';', true, .ansi⟩ ∧
    (⟨';', true, .ansi⟩ : Detector).detect "a; -- it's".toList 10 = .terminated 1 ∧
    ∃ n, Sql.Misread (Sql.Dialect.ansi.options ';') " -- it's".toList n ∧ n ≤ 6 := by
  have hd : ({} : Settings).detector = .ok ⟨';', true, .ansi⟩ := by decide +kernel
  have h : (⟨';', true, .ansi⟩ : Detector).detect "a; -- it's".toList 10 = .terminated 1 := by
    decide +kernel
  obtain ⟨before, behind, o, hbuffer, hsize, ho, hmisread⟩ := misread_of_detect hd h
  obtain ⟨rfl, rfl⟩ : before = ['a'] ∧ behind = " -- it's".toList := by
    cases before with
    | nil => cases hsize
    | cons c t =>
      obtain ⟨hc, ht⟩ := List.cons.inj (show 'a' :: "; -- it's".toList = _ from hbuffer)
      subst hc
      have hone : 'a'.utf8Size = 1 := rfl
      obtain rfl : t = [] := by
        rw [← Text.size_eq_zero_iff]
        rw [Text.size_cons, hone] at hsize
        omega
      exact ⟨rfl, (List.cons.inj ht).2.symm⟩
  have hfault : Command.tokenize { o with lookup := none } " -- it's".toList =
      .error ⟨.unterminatedLiteral, "Closing single quote not found".toList, 6,
        " -- it's".toList⟩ := by
    obtain rfl := Except.ok.inj ho
    decide +kernel
  exact ⟨hd, h, hmisread none _ hfault rfl⟩

/-- Behind a terminator a quotation mark can stand in a comment, which is none for a command
line. -/
theorem Settings.not_forall_tokenize :
    ¬ ∀ (s : Settings) (d : Detector) (buffer : Text) (caret p : Nat), s.multiLine = true →
      s.detector = .ok d → d.detect buffer caret = .terminated p →
      ∀ before behind o lookup diagnostic, buffer = before ++ d.terminator :: behind →
        Text.size before = p → s.lineOptions = .ok o →
        Command.tokenize { o with lookup } behind = .error diagnostic →
        diagnostic.kind ≠ .unterminatedLiteral := by
  intro h
  exact h {} ⟨';', true, .ansi⟩ "a; -- it's".toList 10 1 rfl (by decide +kernel) (by decide +kernel)
    ['a'] " -- it's".toList { terminator := some ';' } none
    ⟨.unterminatedLiteral, "Closing single quote not found".toList, 6, " -- it's".toList⟩
    rfl rfl rfl (by decide +kernel) rfl

end QueryConsole
