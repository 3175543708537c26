import QueryConsole.Proofs.Text.Extent
import QueryConsole.Proofs.Text.Identifier
import QueryConsole.Proofs.Text.Run
import QueryConsole.Sql.Lexeme

/-!
# The grammar of lexemes

What each kind of lexeme looks like, said without reading one: the characters it covers, and what
the character behind it must not be for the lexeme to be as long as it can. Reading a lexeme from
the front of a text gives the only one of this grammar that stands there. Of the text behind a
lexeme the grammar looks at one character.
-/

namespace QueryConsole.Sql

namespace Construct

/-- The construct `k`, opened before `body`, is closed by the end of `body` if `rest` follows. -/
inductive Closes (k : Construct) : Text → Text → Prop
  | doubled {q : Char} {b rest : Text} : k.closing = [q] → rest.head? ≠ some q →
      Closes k (Extent.double q b ++ [q]) rest
  | paired {p q : Char} {b rest : Text} : k.closing = [p, q] → ¬[p, q] <:+: b ++ [p] →
      Closes k (b ++ [p, q]) rest

/-- The construct `k`, opened before `body`, is not closed in `body`. -/
inductive StaysOpen (k : Construct) : Text → Prop
  | doubled {q : Char} {b : Text} : k.closing = [q] → StaysOpen k (Extent.double q b)
  | paired {p q : Char} {b : Text} : k.closing = [p, q] → ¬[p, q] <:+: b → StaysOpen k b

theorem extent_of_closing_single {k : Construct} {q : Char} (h : k.closing = [q]) :
    k.extent = Extent.toSingle q := by
  cases k <;> simp [closing] at h <;> subst h <;> rfl

theorem extent_of_closing_pair {k : Construct} {p q : Char} (h : k.closing = [p, q]) :
    k.extent = Extent.toPair p q := by
  cases k <;> simp [closing] at h <;> obtain ⟨rfl, rfl⟩ := h <;> rfl

theorem closing_single_or_pair (k : Construct) :
    (∃ q, k.closing = [q]) ∨ ∃ p q, k.closing = [p, q] := by
  cases k <;> simp [closing]

theorem extent_of_closes {k : Construct} {body rest : Text} (h : k.Closes body rest) :
    k.extent (body ++ rest) = ⟨body, rest, true⟩ := by
  cases h with
  | doubled hk hrest =>
    rw [extent_of_closing_single hk, List.append_assoc]
    exact Extent.toSingle_double_append _ hrest
  | paired hk hb =>
    rw [extent_of_closing_pair hk, List.append_assoc]
    exact Extent.toPair_append hb rest

theorem extent_of_staysOpen {k : Construct} {body : Text} (h : k.StaysOpen body) :
    k.extent body = ⟨body, [], false⟩ := by
  cases h with
  | doubled hk =>
    rw [extent_of_closing_single hk]
    exact Extent.toSingle_double _ _
  | paired hk hb =>
    rw [extent_of_closing_pair hk]
    exact Extent.toPair_of_not_infix hb

/-- Behind its opening delimiter a construct is either closed somewhere or left open. -/
theorem staysOpen_or_closes (k : Construct) (t : Text) :
    k.StaysOpen t ∨ ∃ body rest, t = body ++ rest ∧ k.Closes body rest := by
  rcases k.closing_single_or_pair with ⟨q, hk⟩ | ⟨p, q, hk⟩
  · rcases Extent.eq_double_or_append q t with ⟨b, rfl⟩ | ⟨b, rest, rfl, hrest⟩
    · exact .inl (.doubled hk)
    · exact .inr ⟨Extent.double q b ++ [q], rest, by simp, .doubled hk hrest⟩
  · rcases Extent.not_infix_or_append p q t with hb | ⟨b, rest, rfl, hb⟩
    · exact .inl (.paired hk hb)
    · exact .inr ⟨b ++ [p, q], rest, by simp, .paired hk hb⟩

theorem Closes.congr {k : Construct} {body rest rest' : Text} (h : k.Closes body rest)
    (hhead : rest'.head? = rest.head?) : k.Closes body rest' := by
  cases h with
  | doubled hk hrest => exact .doubled hk (hhead ▸ hrest)
  | paired hk hb => exact .paired hk hb

end Construct

namespace Lexer.Options

/-- A construct begins with its opening delimiter, unless that begins with the terminator. Here
documents have to be asked for. -/
def Opens (o : Options) (k : Construct) : Prop :=
  k.opening.head? ≠ some o.terminator ∧ (k = .hereDocument → o.dollarQuoting = true)

/-- The character `c` before `next` is the sigil of a variable. -/
def IsSigil (o : Options) (c : Char) (next : Option Char) : Prop :=
  c = '@' ∨ (c = '$' ∧ o.dollarQuoting = true ∧ next ≠ some '$')

/-- The character `c` before `next` begins a comment, a literal, a quoted identifier or a
variable. -/
def IsMark (o : Options) (c : Char) (next : Option Char) : Prop :=
  c = '\'' ∨ c = '"' ∨ c = '[' ∨ c = '@' ∨ (c = '$' ∧ o.dollarQuoting = true) ∨
    (c = '-' ∧ next = some '-') ∨ (c = '/' ∧ next = some '*')

/-- A word goes on with the character `c`. -/
def Continues (o : Options) (c : Char) : Prop :=
  Text.isIdentifierChar c = true ∧ c ≠ o.terminator

section IsMark

variable {o : Options} {c : Char} {next : Option Char}

theorem isBlank_of_isMark (h : o.IsMark c next) : Text.isBlank c = false := by
  rcases h with rfl | rfl | rfl | rfl | ⟨rfl, -⟩ | ⟨rfl, -⟩ | ⟨rfl, -⟩
  all_goals decide

theorem isIdentifierChar_of_isMark (h : o.IsMark c next) : Text.isIdentifierChar c = false := by
  rcases h with rfl | rfl | rfl | rfl | ⟨rfl, -⟩ | ⟨rfl, -⟩ | ⟨rfl, -⟩
  all_goals decide

theorem not_isMark_of_isBlank (h : Text.isBlank c = true) : ¬o.IsMark c next := fun hmark =>
  absurd h (Bool.eq_false_iff.1 (isBlank_of_isMark hmark))

theorem not_isMark_of_isIdentifierChar (h : Text.isIdentifierChar c = true) : ¬o.IsMark c next :=
  fun hmark => absurd h (Bool.eq_false_iff.1 (isIdentifierChar_of_isMark hmark))

end IsMark

end Lexer.Options

namespace Lexeme

/-- The lexeme `x` stands before the text `rest`, under the given options. -/
inductive Valid (o : Lexer.Options) : Lexeme → Text → Prop
  | terminator (rest : Text) : Valid o ⟨[o.terminator], some (.terminator o.terminator), none⟩ rest
  | blank {c : Char} (rest : Text) : c ≠ o.terminator → Text.isBlank c = true →
      Valid o ⟨[c], none, none⟩ rest
  | lineComment {body rest : Text} : '-' ≠ o.terminator → '\n' ∉ body →
      (∀ c ∈ rest.head?, c = '\n') → Valid o ⟨'-' :: '-' :: body, none, none⟩ rest
  | closed {k : Construct} {body rest : Text} : o.Opens k → k.Closes body rest →
      Valid o ⟨k.opening ++ body, k.kind?, none⟩ rest
  | leftOpen {k : Construct} {body : Text} : o.Opens k → k.StaysOpen body →
      Valid o ⟨k.opening ++ body, k.kind?, some k⟩ []
  | variable {c : Char} {name rest : Text} : c ≠ o.terminator →
      o.IsSigil c (name ++ rest).head? → (∀ d ∈ name, Text.isIdentifierChar d = true) →
      (∀ d ∈ rest.head?, Text.isIdentifierChar d = false) →
      Valid o ⟨c :: name, some (.placeholder .variable), none⟩ rest
  | word {w rest : Text} : w ≠ [] → (∀ d ∈ w, o.Continues d) → (∀ d ∈ rest.head?, ¬o.Continues d) →
      Valid o ⟨w, some (.word (o.letterCase.apply w)), none⟩ rest
  | punct {c : Char} {rest : Text} : c ≠ o.terminator → Text.isBlank c = false →
      Text.isIdentifierChar c = false → ¬o.IsMark c rest.head? →
      Valid o ⟨[c], some (.punct c), none⟩ rest

variable {o : Lexer.Options}

/-- What is read from the opening delimiter of a construct on is one. -/
theorem valid_construct {k : Construct} {c : Char} {t : Text} (ho : o.Opens k)
    (hopen : c :: t.take (k.opening.length - 1) = k.opening) :
    Valid o
      ⟨c :: t.take (k.opening.length - 1) ++ (k.extent (t.drop (k.opening.length - 1))).taken,
        k.kind?,
        if (k.extent (t.drop (k.opening.length - 1))).closed then none else some k⟩
      (k.extent (t.drop (k.opening.length - 1))).rest := by
  rw [hopen]
  rcases k.staysOpen_or_closes (t.drop (k.opening.length - 1)) with h | ⟨body, rest, ht, h⟩
  · rw [Construct.extent_of_staysOpen h]
    exact .leftOpen ho h
  · rw [ht, Construct.extent_of_closes h]
    exact .closed ho h

/-- What is read is a lexeme of the grammar. -/
theorem valid_read (o : Lexer.Options) (c : Char) (t : Text) :
    Valid o (read o c t).1 (read o c t).2 := by
  unfold read
  fun_cases Opening.at o c t.head? with
  | case1 h =>
    subst h
    exact .terminator t
  | case2 hc hblank => exact .blank t hc hblank
  | case3 hc _ h =>
    obtain ⟨rfl, hnext⟩ := h
    obtain ⟨t, rfl⟩ := List.head?_eq_some_iff.1 hnext
    refine .lineComment hc ?_ ?_
    · intro hmem
      simpa using List.mem_takeWhile_imp hmem
    · intro d hd
      simpa using Run.head?_dropWhile _ _ d hd
  | case4 hc _ _ h =>
    obtain ⟨rfl, hnext⟩ := h
    obtain ⟨t, rfl⟩ := List.head?_eq_some_iff.1 hnext
    exact valid_construct ⟨by simpa [Construct.opening] using hc, by simp⟩ rfl
  | case5 hc _ _ _ h =>
    subst h
    exact valid_construct ⟨by simpa [Construct.opening] using hc, by simp⟩ rfl
  | case6 hc _ _ _ _ h =>
    subst h
    exact valid_construct ⟨by simpa [Construct.opening] using hc, by simp⟩ rfl
  | case7 hc _ _ _ _ _ h =>
    subst h
    exact valid_construct ⟨by simpa [Construct.opening] using hc, by simp⟩ rfl
  | case8 hc _ _ _ _ _ _ h =>
    subst h
    refine .variable hc (.inl rfl) ?_ ?_
    · exact fun d hd => List.mem_takeWhile_imp hd
    · exact Run.head?_dropWhile _ _
  -- a dollar sign quotes text if another one follows, and begins a name if none does
  | case9 hc _ _ _ _ _ _ _ h hnext =>
    obtain ⟨rfl, hdollar⟩ := h
    obtain ⟨t, rfl⟩ := List.head?_eq_some_iff.1 hnext
    exact valid_construct ⟨by simpa [Construct.opening] using hc, fun _ => hdollar⟩ rfl
  | case10 hc _ _ _ _ _ _ _ h hnext =>
    obtain ⟨rfl, hdollar⟩ := h
    refine .variable hc (.inr ⟨rfl, hdollar, ?_⟩) ?_ ?_
    · rwa [List.takeWhile_append_dropWhile]
    · exact fun d hd => List.mem_takeWhile_imp hd
    · exact Run.head?_dropWhile _ _
  | case11 hc _ _ _ _ _ _ _ _ h =>
    refine .word (by simp) ?_ ?_
    · intro d hd
      rcases List.mem_cons.1 hd with rfl | hd
      · exact ⟨h, hc⟩
      · simpa [Lexer.Options.Continues] using List.mem_takeWhile_imp hd
    · intro d hd
      simpa [Lexer.Options.Continues] using Run.head?_dropWhile _ _ d hd
  | case12 hc hblank hline hblock hsingle hdouble hbracket hat hdollar hident =>
    refine .punct hc (by simpa using hblank) (by simpa using hident) ?_
    rintro (h | h | h | h | h | h | h)
    · exact hsingle h
    · exact hdouble h
    · exact hbracket h
    · exact hat h
    · exact hdollar h
    · exact hline h
    · exact hblock h

/-- Of the text behind a lexeme only the first character matters. -/
theorem Valid.congr {x : Lexeme} {rest rest' : Text} (h : Valid o x rest)
    (hhead : rest'.head? = rest.head?) : Valid o x rest' := by
  cases h with
  | terminator => exact .terminator rest'
  | blank _ hc hblank => exact .blank rest' hc hblank
  | lineComment hc hbody hrest => exact .lineComment hc hbody (hhead ▸ hrest)
  | closed ho hk => exact .closed ho (hk.congr hhead)
  | leftOpen ho hk =>
    obtain rfl : rest' = [] := List.head?_eq_none_iff.1 hhead
    exact .leftOpen ho hk
  | @«variable» c name _ hc hsigil hname hrest =>
    refine .variable hc ?_ hname (hhead ▸ hrest)
    rwa [List.head?_append, hhead, ← List.head?_append]
  | word hw hall hrest => exact .word hw hall (hhead ▸ hrest)
  | punct hc hblank hident hmark => exact .punct hc hblank hident (hhead ▸ hmark)

theorem Valid.rest_of_openIn {x : Lexeme} {rest : Text} (h : Valid o x rest)
    (hx : x.openIn ≠ none) : rest = [] := by
  cases h with
  | leftOpen => rfl
  | _ => exact absurd rfl hx

theorem at_of_not_isMark {c : Char} {next : Option Char} (hc : c ≠ o.terminator)
    (hblank : Text.isBlank c = false) (hmark : ¬o.IsMark c next) :
    Opening.at o c next = if Text.isIdentifierChar c then .word else .punct := by
  simp only [Lexer.Options.IsMark, not_or] at hmark
  obtain ⟨h1, h2, h3, h4, h5, h6, h7⟩ := hmark
  simp [Opening.at, hc, hblank, h1, h2, h3, h4, h5, h6, h7]

theorem opening_append {k : Construct} (ho : o.Opens k) (t : Text) :
    ∃ c u, k.opening ++ t = c :: u ∧ Opening.at o c u.head? = .construct k ∧
      c :: u.take (k.opening.length - 1) = k.opening ∧ u.drop (k.opening.length - 1) = t := by
  have hblank : ∀ c ∈ ['\'', '"', '[', '/', '$'], (!Text.isBlank c) = true :=
    List.all_eq_true.1 (by decide)
  obtain ⟨hc, hdollar⟩ := ho
  cases k with
  | stringLiteral =>
    refine ⟨'\'', t, rfl, ?_, rfl, rfl⟩
    simp_all [Opening.at, Construct.opening]
  | quotedIdentifier =>
    refine ⟨'"', t, rfl, ?_, rfl, rfl⟩
    simp_all [Opening.at, Construct.opening]
  | bracketedIdentifier =>
    refine ⟨'[', t, rfl, ?_, rfl, rfl⟩
    simp_all [Opening.at, Construct.opening]
  | blockComment =>
    refine ⟨'/', '*' :: t, rfl, ?_, rfl, rfl⟩
    simp_all [Opening.at, Construct.opening]
  | hereDocument =>
    refine ⟨'$', '$' :: t, rfl, ?_, rfl, rfl⟩
    simp_all [Opening.at, Construct.opening]

/-- A lexeme of the grammar is what is read where it stands. -/
theorem read_of_valid {x : Lexeme} {rest : Text} (h : Valid o x rest) :
    ∃ c t, x.text ++ rest = c :: t ∧ read o c t = (x, rest) := by
  cases h with
  | terminator => exact ⟨o.terminator, rest, rfl, by simp [read, Opening.at]⟩
  | @blank c _ hc hblank => exact ⟨c, rest, rfl, by simp [read, Opening.at, hc, hblank]⟩
  | @lineComment body _ hc hbody hrest =>
    refine ⟨'-', '-' :: body ++ rest, rfl, ?_⟩
    have hblank : Text.isBlank '-' = false := by decide
    have hat : Opening.at o '-' ('-' :: body ++ rest).head? = .lineComment := by
      simp [Opening.at, hc, hblank]
    have hall : ∀ d ∈ '-' :: body, (d != '\n') = true := by
      intro d hd
      rcases List.mem_cons.1 hd with rfl | hd
      · decide
      · exact bne_iff_ne.2 fun h => hbody (h ▸ hd)
    have hstop : ∀ d ∈ rest.head?, (d != '\n') = false := by
      intro d hd
      simp [hrest d hd]
    simp only [read, hat, Run.takeWhile_append hall hstop, Run.dropWhile_append hall hstop]
  | @closed k body _ ho hk =>
    obtain ⟨c, u, hu, hat, htake, hdrop⟩ := opening_append ho (body ++ rest)
    refine ⟨c, u, by simpa using hu, ?_⟩
    simp [read, hat, htake, hdrop, Construct.extent_of_closes hk]
  | @leftOpen k body ho hk =>
    obtain ⟨c, u, hu, hat, htake, hdrop⟩ := opening_append ho body
    refine ⟨c, u, by simpa using hu, ?_⟩
    simp [read, hat, htake, hdrop, Construct.extent_of_staysOpen hk]
  | @«variable» c name _ hc hsigil hname hrest =>
    refine ⟨c, name ++ rest, rfl, ?_⟩
    have hat : Opening.at o c (name ++ rest).head? = .variable := by
      rcases hsigil with rfl | ⟨rfl, hdollar, hnext⟩
      · have hblank : Text.isBlank '@' = false := by decide
        simp [Opening.at, hc, hblank]
      · have hblank : Text.isBlank '$' = false := by decide
        simp only [Opening.at, hc, hblank, hdollar, hnext]
        simp
    simp only [read, hat, Run.takeWhile_append hname hrest, Run.dropWhile_append hname hrest]
  | @word w _ hw hall hrest =>
    obtain ⟨c, w, rfl⟩ := List.exists_cons_of_ne_nil hw
    obtain ⟨hident, hc⟩ := hall c (by simp)
    refine ⟨c, w ++ rest, rfl, ?_⟩
    have hat : Opening.at o c (w ++ rest).head? = .word := by
      rw [at_of_not_isMark hc (Text.isBlank_of_isIdentifierChar hident)
        (Lexer.Options.not_isMark_of_isIdentifierChar hident), if_pos hident]
    have hwall : ∀ d ∈ w, (Text.isIdentifierChar d && d != o.terminator) = true := by
      intro d hd
      simpa [Lexer.Options.Continues] using hall d (by simp [hd])
    have hstop : ∀ d ∈ rest.head?, (Text.isIdentifierChar d && d != o.terminator) = false := by
      intro d hd
      simpa [Lexer.Options.Continues] using hrest d hd
    simp only [read, hat, Run.takeWhile_append hwall hstop, Run.dropWhile_append hwall hstop]
  | @punct c _ hc hblank hident hmark =>
    refine ⟨c, rest, rfl, ?_⟩
    have hat : Opening.at o c rest.head? = .punct := by
      rw [at_of_not_isMark hc hblank hmark, hident]
      rfl
    simp only [read, hat]

theorem valid_iff {x : Lexeme} {rest : Text} :
    Valid o x rest ↔ ∃ c t, x.text ++ rest = c :: t ∧ read o c t = (x, rest) := by
  constructor
  · exact read_of_valid
  · rintro ⟨c, t, -, h⟩
    have hvalid := valid_read o c t
    rwa [h] at hvalid

end Lexeme

end QueryConsole.Sql
