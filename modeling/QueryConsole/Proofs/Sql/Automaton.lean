import QueryConsole.Proofs.Sql.Tiling
import QueryConsole.Sql.Dialect

/-!
# The lexer as an automaton

An automaton reads a SQL text once, character by character, and knows the character ahead. It is
in the normal mode, inside a construct, a line comment or a variable. It meets the terminator in
the same places as the lexer, and ends inside the construct that the lexer finds open.
-/

namespace QueryConsole.Sql

/-- What the automaton is inside of. -/
inductive Mode where
  | normal
  | within (k : Construct)
  | lineComment
  | variable
deriving DecidableEq, Repr

namespace Mode

def construct? : Mode → Option Construct
  | within k => some k
  | _ => none

/-- The mode in which the character `c` is read. Line comments and variables end before a character
that is none of theirs. -/
def resume : Mode → Char → Mode
  | lineComment, c => if c = '\n' then normal else lineComment
  | .variable, c => if Text.isIdentifierChar c then .variable else normal
  | m, _ => m

end Mode

/-- The automaton between two characters. -/
structure Automaton where
  mode : Mode := .normal
  /-- Whether the character ahead belongs to the one before it. -/
  paired : Bool := false
deriving DecidableEq, Repr

namespace Automaton

/-- Reads a character in the normal mode. -/
def stepNormal (o : Lexer.Options) (c : Char) (next : Option Char) : Automaton :=
  if c = o.terminator then {}
  else if c = '\'' then ⟨.within .stringLiteral, false⟩
  else if c = '"' then ⟨.within .quotedIdentifier, false⟩
  else if c = '[' then ⟨.within .bracketedIdentifier, false⟩
  else if c = '@' then ⟨.variable, false⟩
  else if c = '-' ∧ next = some '-' then ⟨.lineComment, true⟩
  else if c = '/' ∧ next = some '*' then ⟨.within .blockComment, true⟩
  else if c = '$' ∧ o.dollarQuoting then
    if next = some '$' then ⟨.within .hereDocument, true⟩ else ⟨.variable, false⟩
  else {}

/-- Reads a character inside of a construct. -/
def stepWithin (k : Construct) (c : Char) (next : Option Char) : Automaton :=
  match k with
  | .stringLiteral => if c = '\'' then {} else ⟨.within k, false⟩
  | .quotedIdentifier => if c = '"' then {} else ⟨.within k, false⟩
  | .bracketedIdentifier =>
    if c = ']' then if next = some ']' then ⟨.within k, true⟩ else {} else ⟨.within k, false⟩
  | .blockComment => if c = '*' ∧ next = some '/' then ⟨.normal, true⟩ else ⟨.within k, false⟩
  | .hereDocument => if c = '$' ∧ next = some '$' then ⟨.normal, true⟩ else ⟨.within k, false⟩

def step (o : Lexer.Options) (a : Automaton) (c : Char) (next : Option Char) : Automaton :=
  if a.paired then { a with paired := false }
  else
    match a.mode.resume c with
    | .normal => stepNormal o c next
    | .within k => stepWithin k c next
    | m => ⟨m, false⟩

/-- Whether the character `c` ends a statement. -/
def meets (o : Lexer.Options) (a : Automaton) (c : Char) : Bool :=
  !a.paired && a.mode.resume c == .normal && c == o.terminator

/-- Reads a text from the offset `n` on: where it meets the terminator, and the construct in which
it ends. -/
def run (o : Lexer.Options) (n : Nat) (a : Automaton) : Text → List Nat × Option Construct
  | [] => ([], a.mode.construct?)
  | c :: t =>
    let r := run o (n + c.utf8Size) (a.step o c t.head?) t
    if a.meets o c then (n :: r.1, r.2) else r

end Automaton

namespace Automaton

variable {o : Lexer.Options} {n : Nat} {a b : Automaton} {c d q : Char} {t rest : Text}
  {k : Construct} {m : Mode}

theorem run_cons (hmeets : a.meets o c = false) (hstep : a.step o c t.head? = b) :
    run o n a (c :: t) = run o (n + c.utf8Size) b t := by
  rw [run, hmeets, hstep]
  rfl

/-- Over characters that leave its state alone the automaton reads on. -/
theorem run_append (w : Text) (hmeets : ∀ c ∈ w, a.meets o c = false)
    (hstep : ∀ c ∈ w, ∀ next, a.step o c next = a) :
    run o n a (w ++ rest) = run o (n + Text.size w) a rest := by
  induction w generalizing n with
  | nil => rfl
  | cons c w ih =>
    rw [List.cons_append, run_cons (hmeets c (by simp)) (hstep c (by simp) _),
      ih (fun d hd => hmeets d (by simp [hd])) (fun d hd => hstep d (by simp [hd])),
      Text.size_cons, Nat.add_assoc]

/-- The second character of a delimiter changes nothing but the offset. -/
theorem run_paired : run o n ⟨m, true⟩ (c :: t) = run o (n + c.utf8Size) ⟨m, false⟩ t :=
  run_cons rfl rfl

/-- A text goes on in the normal mode where a line comment or a variable ends. -/
theorem run_resume (hm : m.construct? = none) (h : ∀ c ∈ rest.head?, m.resume c = .normal) :
    run o n ⟨m, false⟩ rest = run o n {} rest := by
  cases rest with
  | nil => exact congrArg (Prod.mk []) hm
  | cons c t =>
    have hnormal : Mode.normal.resume c = .normal := rfl
    simp only [run, meets, step, h c rfl, hnormal]
    rfl

/-! ### Inside a construct -/

theorem meets_within (k : Construct) (c : Char) : meets o ⟨.within k, false⟩ c = false := rfl

/-- A character that cannot begin the closing delimiter leaves the construct open. -/
theorem run_within_of_ne (hk : k.closing.head? = some q) (hc : c ≠ q) :
    run o n ⟨.within k, false⟩ (c :: t) = run o (n + c.utf8Size) ⟨.within k, false⟩ t := by
  apply run_cons (meets_within k c)
  cases k
  all_goals
    obtain rfl := Option.some.inj hk
    simp [step, Mode.resume, stepWithin, hc]

/-- A doubled delimiter is inside: a quote leaves the construct and enters it again. -/
theorem run_within_doubled (hk : k.closing = [q]) (ho : o.Opens k) :
    run o n ⟨.within k, false⟩ (q :: q :: t) =
      run o (n + (q.utf8Size + q.utf8Size)) ⟨.within k, false⟩ t := by
  rw [← Nat.add_assoc]
  cases k <;> simp only [Construct.closing, List.cons.injEq, and_true, reduceCtorEq,
    and_false] at hk <;> subst hk
  case bracketedIdentifier =>
    rw [run_cons (b := ⟨.within .bracketedIdentifier, true⟩) rfl rfl]
    exact run_paired
  all_goals
    have hne := ho.1
    simp only [Construct.opening, List.head?_cons, ne_eq, Option.some.injEq] at hne
    rw [run_cons (b := {}) rfl rfl]
    exact run_cons (by simp [meets, hne]) (by simp [step, Mode.resume, stepNormal, hne])

theorem run_within_double (hk : k.closing = [q]) (ho : o.Opens k) (body : Text) :
    run o n ⟨.within k, false⟩ (Extent.double q body ++ rest) =
      run o (n + Text.size (Extent.double q body)) ⟨.within k, false⟩ rest := by
  induction body generalizing n with
  | nil => rfl
  | cons c body ih =>
    by_cases hc : c = q
    · subst hc
      rw [Extent.double_cons_self, List.cons_append, List.cons_append, run_within_doubled hk ho, ih]
      simp [Nat.add_assoc]
    · rw [Extent.double_cons_of_ne hc, List.cons_append,
        run_within_of_ne (by rw [hk]; rfl) hc, ih, Text.size_cons, Nat.add_assoc]

theorem run_within_close (hk : k.closing = [q]) (hrest : rest.head? ≠ some q) :
    run o n ⟨.within k, false⟩ (q :: rest) = run o (n + q.utf8Size) {} rest := by
  apply run_cons (meets_within k q)
  cases k
  all_goals
    simp only [Construct.closing, List.cons.injEq, and_true, reduceCtorEq, and_false] at hk
  all_goals
    subst hk
    simp [step, Mode.resume, stepWithin, hrest]

/-- Where a construct with a closing pair of characters does not close, it goes on. -/
theorem run_within_of_not_pair {p q : Char} (hk : k.closing = [p, q])
    (hc : ¬(c = p ∧ t.head? = some q)) :
    run o n ⟨.within k, false⟩ (c :: t) = run o (n + c.utf8Size) ⟨.within k, false⟩ t := by
  apply run_cons (meets_within k c)
  cases k
  all_goals
    simp only [Construct.closing, List.cons.injEq, and_true, reduceCtorEq, and_false] at hk
  all_goals
    obtain ⟨rfl, rfl⟩ := hk
    simp [step, Mode.resume, stepWithin, hc]

theorem run_within_close_pair {p q : Char} (hk : k.closing = [p, q]) :
    run o n ⟨.within k, false⟩ (p :: q :: rest) =
      run o (n + (p.utf8Size + q.utf8Size)) {} rest := by
  rw [← Nat.add_assoc]
  have hstep : step o ⟨.within k, false⟩ p (q :: rest).head? = ⟨.normal, true⟩ := by
    cases k
    all_goals
      simp only [Construct.closing, List.cons.injEq, and_true, reduceCtorEq, and_false] at hk
    all_goals
      obtain ⟨rfl, rfl⟩ := hk
      rfl
  rw [run_cons (meets_within k p) hstep]
  exact run_paired

/-- A text without the closing pair, up to the first character of it, is inside. -/
theorem run_within_body {p q : Char} (hk : k.closing = [p, q]) (body : Text)
    (hbody : ¬[p, q] <:+: body ++ rest.head?.toList) :
    run o n ⟨.within k, false⟩ (body ++ rest) =
      run o (n + Text.size body) ⟨.within k, false⟩ rest := by
  induction body generalizing n with
  | nil => rfl
  | cons c body ih =>
    rw [List.cons_append, Extent.pair_infix_cons_iff, not_or] at hbody
    have hhead : ¬(c = p ∧ (body ++ rest).head? = some q) := by
      have hnext : (body ++ rest.head?.toList).head? = (body ++ rest).head? := by
        cases rest <;> simp
      exact hnext ▸ hbody.1
    rw [List.cons_append, run_within_of_not_pair hk hhead, ih hbody.2, Text.size_cons,
      Nat.add_assoc]

/-! ### Lexemes -/

theorem run_closes {body : Text} (ho : o.Opens k) (h : k.Closes body rest) :
    run o n ⟨.within k, false⟩ (body ++ rest) = run o (n + Text.size body) {} rest := by
  cases h with
  | doubled hk hrest =>
    rw [List.append_assoc, run_within_double hk ho]
    exact (run_within_close hk hrest).trans (by simp [Nat.add_assoc])
  | paired hk hb =>
    rw [List.append_assoc, run_within_body hk _ (by simpa using hb)]
    exact (run_within_close_pair hk).trans (by simp [Nat.add_assoc])

theorem run_staysOpen {body : Text} (ho : o.Opens k) (h : k.StaysOpen body) :
    run o n ⟨.within k, false⟩ body = ([], some k) := by
  rw [← List.append_nil body]
  cases h with
  | doubled hk =>
    rw [run_within_double hk ho]
    rfl
  | paired hk hb =>
    rw [run_within_body hk _ (by simp [hb])]
    rfl

theorem meets_normal (hc : c ≠ o.terminator) : meets o {} c = false := by
  simp [meets, hc]

/-- An opening delimiter leads into its construct. -/
theorem run_opening (ho : o.Opens k) (t : Text) :
    run o n {} (k.opening ++ t) = run o (n + Text.size k.opening) ⟨.within k, false⟩ t := by
  obtain ⟨hc, hdollar⟩ := ho
  cases k with
  | stringLiteral =>
    have hne : '\'' ≠ o.terminator := by simpa [Construct.opening] using hc
    exact run_cons (meets_normal hne) (by simp [step, Mode.resume, stepNormal, hne])
  | quotedIdentifier =>
    have hne : '"' ≠ o.terminator := by simpa [Construct.opening] using hc
    exact run_cons (meets_normal hne) (by simp [step, Mode.resume, stepNormal, hne])
  | bracketedIdentifier =>
    have hne : '[' ≠ o.terminator := by simpa [Construct.opening] using hc
    exact run_cons (meets_normal hne) (by simp [step, Mode.resume, stepNormal, hne])
  | blockComment =>
    have hne : '/' ≠ o.terminator := by simpa [Construct.opening] using hc
    exact (run_cons (meets_normal hne)
      (by simp [step, Mode.resume, stepNormal, hne])).trans run_paired
  | hereDocument =>
    have hne : '$' ≠ o.terminator := by simpa [Construct.opening] using hc
    exact (run_cons (meets_normal hne)
      (by simp [step, Mode.resume, stepNormal, hne, hdollar rfl])).trans run_paired

theorem step_normal (hc : c ≠ o.terminator) {next : Option Char} (hmark : ¬o.IsMark c next) :
    step o {} c next = {} := by
  simp only [Lexer.Options.IsMark, not_or] at hmark
  obtain ⟨h1, h2, h3, h4, h5, h6, h7⟩ := hmark
  simp [step, Mode.resume, stepNormal, hc, h1, h2, h3, h4, h5, h6, h7]

theorem run_lineComment {body : Text} (hc : '-' ≠ o.terminator) (hbody : '\n' ∉ body)
    (hrest : ∀ c ∈ rest.head?, c = '\n') :
    run o n {} ('-' :: '-' :: body ++ rest) =
      run o (n + Text.size ('-' :: '-' :: body)) {} rest := by
  have hin : ∀ d ∈ body, Mode.lineComment.resume d = .lineComment := by
    intro d hd
    exact if_neg fun h => hbody (by rwa [h] at hd)
  have hopen : step o {} '-' ('-' :: (body ++ rest)).head? = ⟨.lineComment, true⟩ := by
    simp [step, Mode.resume, stepNormal, hc]
  calc run o n {} ('-' :: '-' :: body ++ rest)
    _ = run o (n + '-'.utf8Size + '-'.utf8Size) ⟨.lineComment, false⟩ (body ++ rest) :=
      (run_cons (meets_normal hc) hopen).trans run_paired
    _ = run o (n + Text.size ('-' :: '-' :: body)) ⟨.lineComment, false⟩ rest := by
      rw [run_append body (fun c hc => by simp [meets, hin c hc])
        (fun c hc _ => by simp [step, hin c hc])]
      simp [Nat.add_assoc]
    _ = run o (n + Text.size ('-' :: '-' :: body)) {} rest :=
      run_resume rfl fun c hc => if_pos (hrest c hc)

theorem run_variable {name : Text} (hc : c ≠ o.terminator)
    (hsigil : o.IsSigil c (name ++ rest).head?) (hname : ∀ d ∈ name, Text.isIdentifierChar d = true)
    (hrest : ∀ d ∈ rest.head?, Text.isIdentifierChar d = false) :
    run o n {} (c :: name ++ rest) = run o (n + Text.size (c :: name)) {} rest := by
  have hin : ∀ d ∈ name, Mode.variable.resume d = .variable := fun d hd => if_pos (hname d hd)
  have hopen : step o {} c (name ++ rest).head? = ⟨.variable, false⟩ := by
    rcases hsigil with rfl | ⟨rfl, hdollar, hnext⟩
    · simp [step, Mode.resume, stepNormal, hc]
    · simp only [step, Mode.resume, stepNormal, hc, hdollar, hnext]
      simp
  calc run o n {} (c :: name ++ rest)
    _ = run o (n + c.utf8Size) ⟨.variable, false⟩ (name ++ rest) :=
      run_cons (meets_normal hc) hopen
    _ = run o (n + Text.size (c :: name)) ⟨.variable, false⟩ rest := by
      rw [run_append name (fun d hd => by simp [meets, hin d hd])
        (fun d hd _ => by simp [step, hin d hd])]
      simp [Nat.add_assoc]
    _ = run o (n + Text.size (c :: name)) {} rest :=
      run_resume rfl fun d hd => if_neg (by simp [hrest d hd])

end Automaton

/-- The places of the terminators among tokens. -/
def terminatorStarts (ts : List Token) : List Nat := (ts.filter Token.isTerminator).map Token.start

theorem terminatorStarts_append (as bs : List Token) :
    terminatorStarts (as ++ bs) = terminatorStarts as ++ terminatorStarts bs := by
  simp [terminatorStarts]

theorem head?_terminatorStarts (ts : List Token) :
    (terminatorStarts ts).head? = (ts.find? Token.isTerminator).map Token.start := by
  rw [terminatorStarts, List.head?_map, List.head?_filter]

namespace Automaton

variable {o : Lexer.Options} {n : Nat} {x : Lexeme} {t rest : Text}

/-- Over one lexeme the automaton meets the terminator if the lexeme is one. It is in the normal
mode behind it, or at the end of the text in the construct that the lexeme leaves open. -/
theorem run_lexeme (h : Lexeme.Valid o x rest) :
    run o n {} (x.text ++ rest) =
      let r := match x.openIn with
        | none => run o (n + Text.size x.text) {} rest
        | some k => ([], some k)
      (terminatorStarts (Lexeme.tokens n [x]) ++ r.1, r.2) := by
  cases h with
  | terminator =>
    have hmeets : meets o {} o.terminator = true := by simp [meets, Mode.resume]
    have hstep : step o {} o.terminator rest.head? = {} := by
      simp [step, Mode.resume, stepNormal]
    rw [List.singleton_append, run, hmeets, hstep]
    rfl
  | @blank c _ hc hblank =>
    exact run_cons (meets_normal hc) (step_normal hc (Lexer.Options.not_isMark_of_isBlank hblank))
  | lineComment hc hbody hrest => exact run_lineComment hc hbody hrest
  | @closed k body _ ho hk =>
    have hnone : terminatorStarts (Lexeme.tokens n [⟨k.opening ++ body, k.kind?, none⟩]) = [] := by
      cases k <;> rfl
    rw [hnone, List.append_assoc, run_opening ho, run_closes ho hk, Text.size_append,
      Nat.add_assoc]
    rfl
  | @leftOpen k body ho hk =>
    have hnone :
        terminatorStarts (Lexeme.tokens n [⟨k.opening ++ body, k.kind?, some k⟩]) = [] := by
      cases k <;> rfl
    rw [hnone, List.append_nil, run_opening ho, run_staysOpen ho hk]
    rfl
  | «variable» hc hsigil hname hrest => exact run_variable hc hsigil hname hrest
  | word _ hall _ =>
    refine run_append _ (fun c hc => meets_normal (hall c hc).2) fun c hc next => ?_
    exact step_normal (hall c hc).2 (Lexer.Options.not_isMark_of_isIdentifierChar (hall c hc).1)
  | punct hc _ _ hmark => exact run_cons (meets_normal hc) (step_normal hc hmark)

theorem run_tiling {xs : List Lexeme} (h : Tiling o t xs []) :
    run o n {} t = (terminatorStarts (Lexeme.tokens n xs), Lexeme.leftOpen? xs) := by
  generalize hend : ([] : Text) = rest at h
  induction h generalizing n with
  | nil t =>
    subst hend
    rfl
  | @cons x t rest xs hx hxs ih =>
    subst hend
    have htokens : Lexeme.tokens n (x :: xs) =
        Lexeme.tokens n [x] ++ Lexeme.tokens (n + Text.size x.text) xs := by
      simpa using Lexeme.tokens_append n [x] xs
    rw [run_lexeme hx, htokens, terminatorStarts_append]
    cases hopen : x.openIn with
    | none =>
      have hlast : Lexeme.leftOpen? (x :: xs) = Lexeme.leftOpen? xs := by
        have hcons : (Lexeme.leftOpen? (x :: xs)).or none = _ :=
          Lexeme.leftOpen?_cons (by simp [hopen])
        simpa [hopen] using hcons
      simp only [ih rfl, hlast]
    | some k =>
      -- nothing is behind a construct that is left open
      obtain rfl : t = [] := by cases hx <;> first | rfl | cases hopen
      obtain rfl : xs = [] := by simpa [lexemes] using hxs.eq_lexemes
      simp [Lexeme.leftOpen?, hopen, Lexeme.tokens, terminatorStarts]

/-- The automaton meets the terminators of the token stream, and ends where the lexer does. In plain
SQL the first of them ends the statement. -/
theorem run_eq_terminatorStarts (o : Lexer.Options) (t : Text) :
    run o 0 {} t = (terminatorStarts (tokens o t), (Lexer.ofText o t).drain.unclosed) ∧
      ∀ c, Dialect.ansi.analyze c t =
        ⟨(run (Dialect.ansi.options c) 0 {} t).1.head?, (run (Dialect.ansi.options c) 0 {} t).2⟩ := by
  have hrun (o : Lexer.Options) :
      run o 0 {} t = (terminatorStarts (tokens o t), (Lexer.ofText o t).drain.unclosed) := by
    rw [run_tiling (tiling_lexemes o t), tokens_eq, Lexer.drain_ofText]
  refine ⟨hrun o, fun c => ?_⟩
  rw [hrun, head?_terminatorStarts]
  rfl

/-- The slash of an opening delimiter does not close the comment. -/
example : run { terminator := ';' } 0 {} "a /*/; */; 'b".toList = ([9], some .stringLiteral) := by
  decide +kernel

end Automaton

end QueryConsole.Sql
