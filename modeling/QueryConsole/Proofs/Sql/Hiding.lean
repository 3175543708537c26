import QueryConsole.Proofs.Sql.Nesting

/-!
# What hides a terminator

Before its first terminator a batch in the scripting dialect must lead up to a script for the
search to pass that terminator by. Either the batch begins with a block, or it creates a procedure
whose body begins with the first word of a block. The name of a procedure's language is the one
other place where a terminator is read over: it is taken for the name if no name is given.
-/

namespace QueryConsole.Sql

/-- The tokens begin with a `DECLARE`, or with a `BEGIN` that does not begin a transaction. -/
def BeginsScript (ts : List Token) : Prop :=
  ∃ t rest, ts = t :: rest ∧ (t.keyword? = some .declare ∨
    t.keyword? = some .begin ∧ ∀ k ∈ nextKeyword? rest, k ∉ [.transaction, .work, .name])

/-- The keywords occur among the tokens in this order, with `rest` behind the last of them. -/
inductive Leads : List Keyword → List Token → List Token → Prop
  | nil (ts : List Token) : Leads [] ts ts
  | cons {k : Keyword} {ks : List Keyword} {t : Token} {us ts rest : List Token} :
      t.keyword? = some k → t :: us <:+ ts → Leads ks us rest → Leads (k :: ks) ts rest

/-- Behind the keywords `ks` the tokens lead up to a body that begins like a block, or end where the
name of a language is missing. -/
def Hides (ks : List Keyword) (ts : List Token) : Prop :=
  (∃ rest, Leads (ks ++ [.as]) ts rest ∧
    (nextKeyword? rest = some .declare ∨ nextKeyword? rest = some .begin)) ∨
  Leads (ks ++ [.language]) ts []

/-! ### Keywords in order -/

section Leads

variable {k : Keyword} {ks : List Keyword} {t : Token} {us ts rest : List Token}

theorem Leads.of_suffix (h : Leads (k :: ks) us rest) (hs : us <:+ ts) :
    Leads (k :: ks) ts rest := by
  cases h with
  | cons hk hus hrest => exact .cons hk (hus.trans hs) hrest

/-- What is behind the keywords has the last of them directly before it. -/
theorem Leads.exists_suffix (h : Leads (ks ++ [k]) ts rest) :
    ∃ t, t.keyword? = some k ∧ t :: rest <:+ ts := by
  induction ks generalizing ts with
  | nil =>
    cases h with
    | cons hk hus hrest =>
      cases hrest
      exact ⟨_, hk, hus⟩
  | cons l ks ih =>
    cases h with
    | cons _ hus hrest =>
      obtain ⟨u, hu, hsuffix⟩ := ih hrest
      exact ⟨u, hu, hsuffix.trans ((List.suffix_cons _ _).trans hus)⟩

theorem Hides.of_suffix (h : Hides ks us) (hs : us <:+ ts) : Hides ks ts := by
  cases ks with
  | nil =>
    rcases h with ⟨rest, h, hnext⟩ | h
    · exact .inl ⟨rest, h.of_suffix hs, hnext⟩
    · exact .inr (h.of_suffix hs)
  | cons k ks =>
    rcases h with ⟨rest, h, hnext⟩ | h
    · exact .inl ⟨rest, h.of_suffix hs, hnext⟩
    · exact .inr (h.of_suffix hs)

theorem Hides.cons (h : Hides ks us) (ht : t.keyword? = some k) (hs : t :: us <:+ ts) :
    Hides (k :: ks) ts := by
  rcases h with ⟨rest, h, hnext⟩ | h
  · exact .inl ⟨rest, .cons ht hs h, hnext⟩
  · exact .inr (.cons ht hs h)

end Leads

/-! ### Readers before a terminator -/

section Readers

variable {e : Token} {as bs : List Token} (he : e.isTerminator = true)

include he

theorem dropKeyword?_append (k : Keyword) (as bs : List Token) :
    dropKeyword? k (as ++ e :: bs) = (dropKeyword? k as).map (· ++ e :: bs) := by
  cases as with
  | nil => simp [dropKeyword?, Token.isKeyword_of_isTerminator he]
  | cons t ts =>
    simp only [List.cons_append, dropKeyword?]
    split
    · rfl
    · rfl

theorem dropKeyword_append (k : Keyword) (as bs : List Token) :
    dropKeyword k (as ++ e :: bs) = dropKeyword k as ++ e :: bs := by
  rw [dropKeyword, dropKeyword, dropKeyword?_append he]
  exact Option.getD_map (· ++ e :: bs) as (dropKeyword? k as)

theorem nextKeyword?_append (as bs : List Token) :
    nextKeyword? (as ++ e :: bs) = nextKeyword? as := by
  cases as with
  | nil => exact Token.keyword?_of_isTerminator he
  | cons t ts => rfl

namespace Header

theorem skipModifiers_append (as bs : List Token) :
    skipModifiers (as ++ e :: bs) = skipModifiers as ++ e :: bs := by
  have hor : ((dropKeyword? .or (as ++ e :: bs)).bind (dropKeyword? .replace)).getD
      (as ++ e :: bs) =
        ((dropKeyword? .or as).bind (dropKeyword? .replace)).getD as ++ e :: bs := by
    rw [dropKeyword?_append he]
    cases dropKeyword? .or as with
    | none => rfl
    | some us =>
      rw [Option.map_some, Option.bind_some, Option.bind_some, dropKeyword?_append he]
      exact Option.getD_map (· ++ e :: bs) as (dropKeyword? .replace us)
  simp only [skipModifiers]
  rw [hor, dropKeyword_append he, dropKeyword?_append he, dropKeyword_append he]
  exact Option.getD_map (· ++ e :: bs) _ _

/-- Unless its tokens hide it, the header of a procedure is read up to the next terminator at most,
and no script follows. -/
theorem ofProcedure_append (isSql : Bool) (has : ∀ a ∈ as, a.isTerminator = false) :
    Hides [] as ∨ (ofProcedure isSql as).opensScript = false ∧
      ofProcedure isSql (as ++ e :: bs) = ⟨false, (ofProcedure isSql as).rest ++ e :: bs⟩ := by
  fun_induction ofProcedure isSql as with
  | case1 => exact .inr ⟨rfl, ofProcedure_of_isTerminator he⟩
  | case2 isSql t ts ht => exact absurd (has t List.mem_cons_self) (by simp [ht])
  | case3 isSql t ts _ hk ih =>
    have hsuffix := (dropKeyword_suffix .as ts).trans (List.suffix_cons t ts)
    rw [List.cons_append, ofProcedure_of_execute hk, dropKeyword_append he]
    exact (ih fun a ha => has a (hsuffix.subset ha)).imp_left fun h => h.of_suffix hsuffix
  | case4 isSql t _ hk =>
    -- the name of the language is missing
    exact .inl (.inr (.cons hk (List.suffix_refl _) (.nil [])))
  | case5 isSql t _ hk u ts ih =>
    have hsuffix := (List.suffix_cons u ts).trans (List.suffix_cons t (u :: ts))
    rw [List.cons_append, List.cons_append, ofProcedure_of_language hk]
    exact (ih fun a ha => has a (hsuffix.subset ha)).imp_left fun h => h.of_suffix hsuffix
  | case6 isSql t ts _ hk =>
    rw [List.cons_append, ofProcedure_of_as hk, nextKeyword?_append he]
    by_cases hbody : nextKeyword? ts = some .declare ∨ nextKeyword? ts = some .begin
    · exact .inl (.inl ⟨ts, .cons hk (List.suffix_refl _) (.nil ts), hbody⟩)
    · have hany : ((nextKeyword? ts).any fun k => k = .declare || k = .begin) = false := by
        cases hnext : nextKeyword? ts with
        | none => rfl
        | some k => simpa [hnext] using hbody
      rw [hany, Bool.and_false]
      exact .inr ⟨rfl, rfl⟩
  | case7 isSql t ts ht hexecute hlanguage hno ih =>
    have hsuffix := List.suffix_cons t ts
    rw [List.cons_append, ofProcedure_of_ne (by simpa using ht) hexecute hlanguage hno]
    exact (ih fun a ha => has a (hsuffix.subset ha)).imp_left fun h => h.of_suffix hsuffix

theorem read_append (bs : List Token) (has : ∀ a ∈ as, a.isTerminator = false) :
    Hides [.procedure] as ∨ (read as).opensScript = false ∧
      read (as ++ e :: bs) = ⟨false, (read as).rest ++ e :: bs⟩ := by
  have hm := skipModifiers_suffix as
  simp only [read]
  rw [skipModifiers_append he, dropKeyword?_append he, dropKeyword?_append he]
  cases dropKeyword? .function (skipModifiers as) with
  | some rest => exact .inr ⟨rfl, rfl⟩
  | none =>
    cases hprocedure : dropKeyword? .procedure (skipModifiers as) with
    | none => exact .inr ⟨rfl, rfl⟩
    | some rest =>
      obtain ⟨p, hp, hcons⟩ := exists_cons_of_dropKeyword? hprocedure
      have hrest := (suffix_of_dropKeyword? hprocedure).trans hm
      exact (ofProcedure_append he true fun a ha => has a (hrest.subset ha)).imp_left
        fun h => h.cons hp (hcons ▸ hm)

end Header

theorem skipCreate_append (bs : List Token) (has : ∀ a ∈ as, a.isTerminator = false) :
    Hides [.procedure] as ∨ skipCreate (as ++ e :: bs) = skipCreate as ++ e :: bs := by
  rcases Header.read_append he bs has with h | ⟨hopens, hread⟩
  · exact .inl h
  · refine .inr ?_
    simp only [skipCreate, hread, hopens]
    rfl

/-- The first terminator ends the statement, unless the tokens before it hide it. -/
theorem statementEnd?_append (bs : List Token) (has : ∀ a ∈ as, a.isTerminator = false) :
    Hides [.create, .procedure] as ∨ statementEnd? (as ++ e :: bs) = some e := by
  fun_induction statementEnd? as with
  | case1 =>
    rw [List.nil_append, statementEnd?, if_pos he]
    exact .inr rfl
  | case2 t ts ht => exact absurd (has t List.mem_cons_self) (by simp [ht])
  | case3 t ts ht hcreate ih =>
    rw [List.cons_append, statementEnd?, if_neg ht, if_pos hcreate]
    rcases skipCreate_append he bs fun a ha => has a (List.mem_cons_of_mem t ha) with h | hskip
    · exact .inl (h.cons (Token.isKeyword_iff.1 hcreate) (List.suffix_refl _))
    · have hsuffix := (skipCreate_suffix ts).trans (List.suffix_cons t ts)
      rw [hskip]
      exact (ih fun a ha => has a (hsuffix.subset ha)).imp_left fun h => h.of_suffix hsuffix
  | case4 t ts ht hcreate ih =>
    rw [List.cons_append, statementEnd?, if_neg ht, if_neg hcreate]
    exact (ih fun a ha => has a (List.mem_cons_of_mem t ha)).imp_left
      fun h => h.of_suffix (List.suffix_cons t ts)

end Readers

theorem beginsBlock_iff {ts : List Token} :
    beginsBlock ts = true ↔ ∀ k ∈ nextKeyword? ts, k ∉ [.transaction, .work, .name] := by
  refine ⟨?_, beginsBlock_of_notMem⟩
  intro h k hnext
  rw [beginsBlock, Option.mem_def.1 hnext] at h
  simpa [Keyword.beginsTransaction] using h

theorem opensBlock_iff {ts : List Token} : opensBlock ts = true ↔ BeginsScript ts := by
  constructor
  · intro h
    cases ts with
    | nil => cases h
    | cons t ts =>
      refine ⟨t, ts, rfl, ?_⟩
      simp only [opensBlock] at h
      split at h
      · next hk => exact .inl hk
      · next hk => exact .inr ⟨hk, beginsBlock_iff.1 h⟩
      · cases h
  · rintro ⟨t, rest, rfl, hdeclare | ⟨hbegin, hnext⟩⟩
    · simp [opensBlock, hdeclare]
    · simp only [opensBlock, hbegin]
      exact beginsBlock_iff.2 hnext

instance : DecidablePred BeginsScript := fun _ => decidable_of_iff _ opensBlock_iff

/-- The tokens before the first terminator. -/
def beforeTerminator (ts : List Token) : List Token := ts.takeWhile (!·.isTerminator)

namespace Dialect

/-- The first terminator of a batch ends it, unless a script begins there or the tokens before the
terminator hide it. -/
theorem terminator?_append {e : Token} {as : List Token} (he : e.isTerminator = true)
    (bs : List Token) (has : ∀ a ∈ as, a.isTerminator = false) :
    BeginsScript (as ++ e :: bs) ∨ Hides [.create, .procedure] as ∨
      snowflake.terminator? (as ++ e :: bs) = some e := by
  by_cases hopens : opensBlock (as ++ e :: bs) = true
  · exact .inl (opensBlock_iff.1 hopens)
  · simp only [terminator?, if_neg hopens]
    exact .inr (statementEnd?_append he bs has)

section Hidden

variable {c : Char} {buffer : Text} {e : Token}

/-- The analysis of a batch passes by its first terminator only if a script begins there, or if
before the terminator the header of a procedure leads up to a script, or breaks off where the name
of the language is missing. -/
theorem hides_of_terminator?_ne
    (he : (tokens (snowflake.options c) buffer).find? Token.isTerminator = some e)
    (hne : (snowflake.analyze c buffer).terminator? ≠ some e.start) :
    BeginsScript (tokens (snowflake.options c) buffer) ∨
      Hides [.create, .procedure] (beforeTerminator (tokens (snowflake.options c) buffer)) := by
  obtain ⟨hterminator, as, bs, htokens, has⟩ := List.find?_eq_some_iff_append.1 he
  have hbefore : beforeTerminator (as ++ e :: bs) = as := by
    rw [beforeTerminator, List.takeWhile_append_of_pos has, List.takeWhile_cons_of_neg,
      List.append_nil]
    simpa using hterminator
  rw [htokens, hbefore]
  rcases terminator?_append hterminator bs (by simpa using has) with h | h | h
  · exact .inl h
  · exact .inr h
  · refine absurd ?_ hne
    rw [terminator?_analyze, htokens, h, Option.map_some]

/-- The name of the language is missing, and the terminator is taken for it. -/
theorem hides_of_terminator?_ne_language :
    (tokens (snowflake.options ';') "CREATE PROCEDURE p LANGUAGE; SELECT 1;".toList).find?
      Token.isTerminator = some ⟨.terminator ';', 27, 28⟩ ∧
    (snowflake.analyze ';' "CREATE PROCEDURE p LANGUAGE; SELECT 1;".toList).terminator? ≠
      some 27 ∧
    (BeginsScript (tokens (snowflake.options ';')
        "CREATE PROCEDURE p LANGUAGE; SELECT 1;".toList) ∨
      Hides [.create, .procedure] (beforeTerminator (tokens (snowflake.options ';')
        "CREATE PROCEDURE p LANGUAGE; SELECT 1;".toList))) := by
  have he : (tokens (snowflake.options ';')
      "CREATE PROCEDURE p LANGUAGE; SELECT 1;".toList).find? Token.isTerminator =
        some ⟨.terminator ';', 27, 28⟩ := by
    decide +kernel
  have hne : (snowflake.analyze ';'
      "CREATE PROCEDURE p LANGUAGE; SELECT 1;".toList).terminator? ≠ some 27 := by
    decide +kernel
  exact ⟨he, hne, hides_of_terminator?_ne he hne⟩

end Hidden

/-- Not only a script hides a terminator. -/
theorem not_only_script_hides :
    ¬ ∀ (c : Char) (buffer : Text) (e : Token),
      (tokens (snowflake.options c) buffer).find? Token.isTerminator = some e →
      (snowflake.analyze c buffer).terminator? ≠ some e.start →
      BeginsScript (tokens (snowflake.options c) buffer) ∨
        ∃ rest, Leads [.create, .procedure, .as]
          (beforeTerminator (tokens (snowflake.options c) buffer)) rest ∧ BeginsScript rest := by
  intro h
  rcases h ';' "CREATE PROCEDURE p LANGUAGE; SELECT 1;".toList ⟨.terminator ';', 27, 28⟩
    (by decide +kernel) (by decide +kernel) with hbegins | ⟨rest, hleads, -⟩
  · exact absurd hbegins (by decide +kernel)
  · change Leads ([.create, .procedure] ++ [.as]) _ rest at hleads
    obtain ⟨t, ht, hsuffix⟩ := hleads.exists_suffix
    have hno : ∀ t ∈ beforeTerminator (tokens (snowflake.options ';')
        "CREATE PROCEDURE p LANGUAGE; SELECT 1;".toList), t.keyword? ≠ some .as := by
      decide +kernel
    exact hno t (hsuffix.subset List.mem_cons_self) ht

/-- A transaction in place of the body of a procedure hides its terminator as well. -/
example : (snowflake.analyze ';'
    "CREATE PROCEDURE p AS BEGIN TRANSACTION; SELECT 1;".toList).terminator? = none := by
  decide +kernel

end Dialect

end QueryConsole.Sql
