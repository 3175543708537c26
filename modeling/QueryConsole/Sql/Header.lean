import QueryConsole.Sql.Lookahead

/-!
# Headers of CREATE statements

A procedure may have a script for its body. Its header decides whether it does: the body follows
the word `AS`, and it is a script if the language of the procedure is SQL and a block begins there.
Everything else that can be created ends with its terminator like any other statement.
-/

namespace QueryConsole.Sql

/-- Where the header of a `CREATE` statement ends. -/
structure Header where
  /-- Whether a body in the scripting language follows. -/
  opensScript : Bool
  /-- The tokens behind the header. -/
  rest : List Token
deriving DecidableEq, Repr

namespace Header

/-- Skips the words that may stand between `CREATE` and the kind of object. -/
def skipModifiers (ts : List Token) : List Token :=
  let ts := ((dropKeyword? .or ts).bind (dropKeyword? .replace)).getD ts
  let ts := dropKeyword .secure ts
  (dropKeyword? .temp ts).getD (dropKeyword .temporary ts)

theorem skipModifiers_suffix (ts : List Token) : skipModifiers ts <:+ ts := by
  have hor : ((dropKeyword? .or ts).bind (dropKeyword? .replace)).getD ts <:+ ts := by
    cases h : dropKeyword? .or ts with
    | none => simp
    | some ts' =>
      cases h' : dropKeyword? .replace ts' with
      | none => simp [h']
      | some ts'' =>
        simpa [h'] using (suffix_of_dropKeyword? h').trans (suffix_of_dropKeyword? h)
  have htemp (us : List Token) : (dropKeyword? .temp us).getD (dropKeyword .temporary us) <:+ us := by
    cases h : dropKeyword? .temp us with
    | none => simpa using dropKeyword_suffix _ us
    | some us' => simpa using suffix_of_dropKeyword? h
  exact (htemp _).trans ((dropKeyword_suffix _ _).trans hor)

/-- Reads the header of a procedure behind the word `PROCEDURE`, up to the `AS` before its body.
The `AS` of `EXECUTE AS` is not that one, and a body in a language other than SQL holds no script.
A terminator ends the header and stays. -/
def ofProcedure (isSql : Bool) : List Token → Header
  | [] => ⟨false, []⟩
  | t :: ts =>
    if t.isTerminator then ⟨false, t :: ts⟩
    else match t.keyword? with
      | some .execute => ofProcedure isSql (dropKeyword .as ts)
      | some .language =>
        match ts with
        | [] => ⟨false, []⟩
        | u :: ts => ofProcedure (u.isKeyword .sql) ts
      | some .as =>
        ⟨isSql && (nextKeyword? ts).any fun k => k = .declare || k = .begin, ts⟩
      | _ => ofProcedure isSql ts
termination_by ts => ts.length
decreasing_by
  · exact Nat.lt_succ_of_le (dropKeyword_suffix _ _).length_le
  · simp only [List.length_cons]
    omega
  · exact Nat.lt_succ_self _

section OfProcedure

variable {isSql : Bool} {t u : Token} {ts : List Token}

theorem ofProcedure_of_isTerminator (h : t.isTerminator = true) :
    ofProcedure isSql (t :: ts) = ⟨false, t :: ts⟩ := by
  rw [ofProcedure.eq_def]
  simp [h]

theorem ofProcedure_of_execute (h : t.keyword? = some .execute) :
    ofProcedure isSql (t :: ts) = ofProcedure isSql (dropKeyword .as ts) := by
  rw [ofProcedure.eq_def]
  simp [Token.isTerminator_of_keyword? h, h]

theorem ofProcedure_of_language (h : t.keyword? = some .language) :
    ofProcedure isSql (t :: u :: ts) = ofProcedure (u.isKeyword .sql) ts := by
  rw [ofProcedure.eq_def]
  simp [Token.isTerminator_of_keyword? h, h]

theorem ofProcedure_of_as (h : t.keyword? = some .as) :
    ofProcedure isSql (t :: ts) =
      ⟨isSql && (nextKeyword? ts).any fun k => k = .declare || k = .begin, ts⟩ := by
  rw [ofProcedure.eq_def]
  simp [Token.isTerminator_of_keyword? h, h]

theorem ofProcedure_of_ne (ht : t.isTerminator = false) (hexecute : t.keyword? ≠ some .execute)
    (hlanguage : t.keyword? ≠ some .language) (has : t.keyword? ≠ some .as) :
    ofProcedure isSql (t :: ts) = ofProcedure isSql ts := by
  rw [ofProcedure.eq_def]
  simp only [ht]
  split
  · contradiction
  · rfl

end OfProcedure

/-- Reads the header of a `CREATE` statement behind the word `CREATE`. Only procedures are read to
the end of their header, since nothing else can have a script for its body. -/
def read (ts : List Token) : Header :=
  let ts := skipModifiers ts
  match dropKeyword? .function ts with
  | some rest => ⟨false, rest⟩
  | none =>
    match dropKeyword? .procedure ts with
    | some rest => ofProcedure true rest
    | none => ⟨false, ts⟩

theorem ofProcedure_suffix (isSql : Bool) (ts : List Token) : (ofProcedure isSql ts).rest <:+ ts := by
  fun_induction ofProcedure isSql ts with
  | case1 => simp
  | case2 => simp
  | case3 isSql t ts ht hk ih => exact ih.trans ((dropKeyword_suffix _ ts).trans (List.suffix_cons t ts))
  | case4 => simp
  | case5 isSql t ht hk u ts ih =>
    exact ih.trans ((List.suffix_cons u ts).trans (List.suffix_cons t (u :: ts)))
  | case6 isSql t ts => exact List.suffix_cons t ts
  | case7 isSql t ts ht _ _ _ ih => exact ih.trans (List.suffix_cons t ts)

theorem read_suffix (ts : List Token) : (read ts).rest <:+ ts := by
  have hm := skipModifiers_suffix ts
  unfold read
  cases hf : dropKeyword? .function (skipModifiers ts) with
  | some rest => simpa [hf] using (suffix_of_dropKeyword? hf).trans hm
  | none =>
    cases hp : dropKeyword? .procedure (skipModifiers ts) with
    | none => simpa [hf, hp] using hm
    | some rest =>
      simpa [hf, hp] using (ofProcedure_suffix true rest).trans ((suffix_of_dropKeyword? hp).trans hm)

end Header

end QueryConsole.Sql
