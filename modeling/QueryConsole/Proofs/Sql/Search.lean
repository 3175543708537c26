import QueryConsole.Proofs.Sql.Rounds

/-!
# Searching through a lexer ends

The search for the end of a statement only ever reads on. Whatever state the lexer is in, what is
left is the end of the tokens that were to come, and nothing of it is lost, doubled or moved. The
creation of a procedure inside a script is read behind a token of the script, so the readings of
scripts and of creations that call each other come to an end, and they find what the search on the
list of tokens finds.
-/

namespace QueryConsole.Sql

/-! ### Scripts around a script -/

namespace Script

/-- The state of a search inside the scripts whose open blocks are given, innermost first. -/
def within (s : Script) (outer : List (List Block)) : Script := ⟨s.blocks, s.outer ++ outer⟩

/-- What a step becomes inside scripts: behind the end of the outermost block the script around it
goes on. -/
def Step.within (bs : List Block) (outer : List (List Block)) : Step → Step
  | .next s rest => .next (s.within (bs :: outer)) rest
  | .done rest => .next ⟨bs, outer⟩ rest
  | .fail => .fail

theorem pop?_within (s : Script) (bs : List Block) (outer : List (List Block)) :
    (s.within (bs :: outer)).pop? =
      some ((s.pop?.map (·.within (bs :: outer))).getD ⟨bs, outer⟩) := by
  obtain ⟨blocks, around⟩ := s
  rcases htail : blocks.tail with _ | ⟨b, rest⟩
  · cases around <;> simp [pop?, within, htail]
  · simp [pop?, within, htail]

theorem step_within (s : Script) (bs : List Block) (outer : List (List Block)) (t : Token)
    (ts : List Token) :
    (s.within (bs :: outer)).step t ts = (s.step t ts).within bs outer := by
  unfold step
  split
  · -- a procedure is entered inside one script more
    dsimp only
    split <;> rfl
  · dsimp only
    split <;> rfl
  · split <;> rfl
  · dsimp only
    split <;> rfl
  · rfl
  · rfl
  · rfl
  · -- inside scripts there is always a block left to go on with
    rw [pop?_within, show (s.within (bs :: outer)).blocks = s.blocks from rfl]
    cases s.blocks.head?.bind (·.close? ts) with
    | none => rfl
    | some rest => cases s.pop? <;> rfl
  · split <;> rfl
  · rfl

theorem skip?_within (s : Script) (bs : List Block) (outer : List (List Block)) (ts : List Token) :
    (s.within (bs :: outer)).skip? ts = (s.skip? ts).bind (skip? ⟨bs, outer⟩) := by
  fun_induction skip? s ts with
  | case1 s => rw [skip?]; rfl
  | case2 s t ts s' rest hs ih =>
    have hstep : (s.within (bs :: outer)).step t ts = .next (s'.within (bs :: outer)) rest := by
      rw [step_within, hs, Step.within]
    rw [skip?_of_next hstep, ih]
  | case3 s t ts rest hs =>
    have hstep : (s.within (bs :: outer)).step t ts = .next ⟨bs, outer⟩ rest := by
      rw [step_within, hs, Step.within]
    rw [skip?_of_next hstep, Option.bind_some]
  | case4 s t ts hs =>
    have hstep : (s.within (bs :: outer)).step t ts = .fail := by
      rw [step_within, hs, Step.within]
    rw [skip?_of_fail hstep, Option.bind_none]

theorem skip?_enter (s : Script) (ts : List Token) :
    s.enter.skip? ts = (skip? {} ts).bind s.skip? := by
  have hwithin : s.enter = within {} (s.blocks :: s.outer) := rfl
  rw [hwithin, skip?_within]

/-- The creation of a procedure inside a script is skipped like any other. -/
theorem skip?_create (s : Script) {t : Token} {ts : List Token} (h : t.keyword? = some .create) :
    s.skip? (t :: ts) = s.skip? (Sql.skipCreate ts) := by
  have hstep : s.step t ts =
      .next (if (Header.read ts).opensScript then s.enter else s) (Header.read ts).rest := by
    rw [step, h]
  rw [skip?_of_next hstep, Sql.skipCreate]
  cases (Header.read ts).opensScript with
  | false => rfl
  | true =>
    rw [if_pos rfl, if_pos rfl, skip?_enter]
    cases skip? {} (Header.read ts).rest with
    | none => rw [Option.bind_none, Option.getD_none, skip?]
    | some rest => rfl

end Script

namespace Lexer

variable {l l' l₁ e : Lexer} {ts : List Token} {t : Token} {blocks : List Block} {ended : Bool}
  {r : Round (List Block) Bool}

/-! ### Scripts -/

theorem skipsCreate_of_header (h : l.skipHeader = (false, l₁)) : SkipsCreate l l' ↔ l' = l₁ := by
  constructor
  · intro hskips
    cases hskips with
    | header h' =>
      rw [h] at h'
      cases h'
      rfl
    | script h' =>
      rw [h] at h'
      cases h'
  · rintro rfl
    exact .header h

theorem skipsCreate_of_script (h : l.skipHeader = (true, l₁)) :
    SkipsCreate l l' ↔ ∃ ended, SkipsScript [] l₁ ended l' := by
  constructor
  · intro hskips
    cases hskips with
    | header h' =>
      rw [h] at h'
      cases h'
    | script h' hscript =>
      rw [h] at h'
      cases h'
      exact ⟨_, hscript⟩
  · rintro ⟨ended, hscript⟩
    exact .script h hscript

theorem scriptRound_of_none (h : l.next = (none, l₁)) :
    ScriptRound blocks l r ↔ r = .done blocks.isEmpty l₁ := by
  constructor
  · intro hround
    cases hround <;> simp_all
  · rintro rfl
    exact .none h

theorem scriptRound_of_create (h : l.next = (some t, l₁)) (hcreate : t.keyword? = some .create) :
    ScriptRound blocks l r ↔ ∃ l', SkipsCreate l₁ l' ∧ r = .again blocks l' := by
  constructor
  · intro hround
    cases hround with
    | none h' =>
      rw [h] at h'
      cases h'
    | create h' _ hskips =>
      rw [h] at h'
      cases h'
      exact ⟨_, hskips, rfl⟩
    | block h' hne =>
      rw [h] at h'
      cases h'
      exact absurd hcreate hne
  · rintro ⟨l', hskips, rfl⟩
    exact .create h hcreate hskips

theorem scriptRound_of_ne (h : l.next = (some t, l₁)) (hcreate : t.keyword? ≠ some .create) :
    ScriptRound blocks l r ↔ r = l₁.blockRound blocks t := by
  constructor
  · intro hround
    cases hround <;> simp_all
  · rintro rfl
    exact .block h hcreate

theorem skipsScript_of_done {b : Bool} (h : ∀ r, ScriptRound blocks l r ↔ r = .done ended l₁) :
    SkipsScript blocks l b l' ↔ b = ended ∧ l' = l₁ := by
  constructor
  · intro hskips
    cases hskips with
    | done hround =>
      cases (h _).1 hround
      exact ⟨rfl, rfl⟩
    | again hround => cases (h _).1 hround
  · rintro ⟨rfl, rfl⟩
    exact .done ((h _).2 rfl)

theorem skipsScript_of_again {blocks' : List Block}
    (h : ∀ r, ScriptRound blocks l r ↔ r = .again blocks' l₁) :
    SkipsScript blocks l ended l' ↔ SkipsScript blocks' l₁ ended l' := by
  constructor
  · intro hskips
    cases hskips with
    | done hround => cases (h _).1 hround
    | again hround hskips =>
      cases (h _).1 hround
      exact hskips
  · exact .again ((h _).2 rfl)

/-- The search for the end of a script with the given blocks open, which is not inside another
script. Without an end everything is read. -/
def FindsScript (blocks : List Block) (ts : List Token) (ended : Bool) (rest : List Token) : Prop :=
  rest = (Script.skip? ⟨blocks, []⟩ ts).getD [] ∧
    ((Script.skip? ⟨blocks, []⟩ ts).isSome = true → ended = true)

/-- With the tokens `ts` to come every script is read to an end, and only in one way. -/
def EndsScript (ts : List Token) : Prop :=
  ∀ (blocks : List Block) (l e : Lexer), l.readAll = (ts, e) → ∃ ended l' rest,
    (∀ b l'', SkipsScript blocks l b l'' ↔ b = ended ∧ l'' = l') ∧ l'.readAll = (rest, e) ∧
      FindsScript blocks ts ended rest

theorem exists_skipsCreate_of_endsScript (h : l.readAll = (ts, e))
    (hscript : ∀ us, us.length ≤ ts.length → EndsScript us) :
    ∃ l', (∀ l'', SkipsCreate l l'' ↔ l'' = l') ∧ l'.readAll = (Sql.skipCreate ts, e) := by
  obtain ⟨l₁, hheader, hl₁⟩ := exists_skipHeader h
  rw [Sql.skipCreate]
  cases hopens : (Header.read ts).opensScript with
  | false =>
    rw [hopens] at hheader
    exact ⟨l₁, fun l'' => skipsCreate_of_header hheader, hl₁⟩
  | true =>
    rw [hopens] at hheader
    obtain ⟨ended, l₂, us, hiff, hl₂, rfl, -⟩ :=
      hscript _ (Header.read_suffix ts).length_le [] l₁ e hl₁
    refine ⟨l₂, fun l'' => ?_, hl₂⟩
    rw [skipsCreate_of_script hheader]
    simp only [hiff, exists_eq_left]

theorem finds_again {blocks' : List Block} {rest : List Token} (hl : l.readAll = (rest, e))
    (h : Script.step ⟨blocks, []⟩ t ts = .next ⟨blocks', []⟩ rest) :
    (Round.again blocks' l).Finds FindsScript blocks (t :: ts) e := by
  refine .again_of_suffix hl (Script.suffix_of_step_next h) fun ended us hus => ?_
  rwa [FindsScript, Script.skip?_of_next h]

theorem finds_endRound (hend : t.keyword? = some .end) (h : l.readAll = (ts, e)) :
    (l.endRound blocks).Finds FindsScript blocks (t :: ts) e := by
  have hsuffix : ts <:+ t :: ts := List.suffix_cons t ts
  cases blocks with
  | nil => exact finds_again h (by rw [Script.step, hend]; rfl)
  | cons b outer =>
    obtain ⟨l₁, hcloses, hl₁⟩ := exists_closes b h
    rw [endRound, hcloses]
    cases hclose : b.close? ts with
    | none =>
      rw [hclose] at hl₁
      refine finds_again hl₁ ?_
      rw [Script.step, hend, List.head?_cons, Option.bind_some, hclose]
      rfl
    | some rest =>
      rw [hclose] at hl₁
      cases outer with
      | nil =>
        have hdone : Script.step ⟨[b], []⟩ t ts = .done rest := by
          rw [Script.step, hend, List.head?_cons, Option.bind_some, hclose]
          rfl
        refine .done hl₁ ((Block.suffix_of_close? hclose).trans hsuffix) ?_
        rw [FindsScript, Script.skip?_of_done hdone]
        exact ⟨rfl, fun _ => rfl⟩
      | cons b' outer =>
        refine finds_again hl₁ ?_
        rw [Script.step, hend, List.head?_cons, Option.bind_some, hclose]
        rfl

theorem finds_blockRound (hcreate : t.keyword? ≠ some .create) (h : l.readAll = (ts, e)) :
    (l.blockRound blocks t).Finds FindsScript blocks (t :: ts) e := by
  unfold blockRound
  split
  · next hcase =>
    obtain ⟨l₂, hparens, hl₂⟩ := exists_skipParens h
    obtain ⟨l₃, hwhen, hl₃⟩ := exists_takeKeyword .when hl₂
    rw [hparens]
    dsimp only
    rw [hwhen]
    rw [dropKeyword] at hl₃
    refine finds_again hl₃ ?_
    rw [Script.step, hcase]
    dsimp only
    cases dropKeyword? .when (Sql.skipParens ts).2 <;> rfl
  · next hbegin =>
    obtain ⟨l₂, hbegins, hl₂⟩ := exists_beginsBlock h
    rw [hbegins]
    refine finds_again hl₂ ?_
    rw [Script.step, hbegin]
    cases Sql.beginsBlock ts <;> rfl
  · next hif =>
    obtain ⟨l₂, hparens, hl₂⟩ := exists_skipParens h
    rw [hparens]
    refine finds_again hl₂ ?_
    rw [Script.step, hif]
    dsimp only
    cases (Sql.skipParens ts).1 <;> rfl
  · next hdo => exact finds_again h (by rw [Script.step, hdo]; rfl)
  · next hloop => exact finds_again h (by rw [Script.step, hloop]; rfl)
  · next hrepeat => exact finds_again h (by rw [Script.step, hrepeat]; rfl)
  · next hend => exact finds_endRound hend h
  · next hdeclare =>
    obtain ⟨l₂, hseek, hl₂⟩ := exists_seekBegin h
    rw [hseek]
    cases hfound : seekBegin? ts with
    | some rest =>
      rw [hfound] at hl₂
      exact finds_again hl₂ (by rw [Script.step, hdeclare, hfound]; rfl)
    | none =>
      rw [hfound] at hl₂
      have hfail : Script.step ⟨blocks, []⟩ t ts = .fail := by
        rw [Script.step, hdeclare, hfound]
      refine .done hl₂ List.nil_suffix ?_
      rw [FindsScript, Script.skip?_of_fail hfail]
      exact ⟨rfl, fun h => by cases h⟩
  · exact finds_again h (by rw [Script.step]; split <;> trivial)

theorem exists_scriptRound_of_endsScript (blocks : List Block) (h : l.readAll = (ts, e))
    (hscript : ∀ us, us.length < ts.length → EndsScript us) :
    ∃ r, (∀ r', ScriptRound blocks l r' ↔ r' = r) ∧ r.Finds FindsScript blocks ts e := by
  obtain ⟨l₁, hnext, hl₁⟩ := exists_next h
  cases ts with
  | nil =>
    refine ⟨_, fun r' => scriptRound_of_none hnext, .done hl₁ (List.suffix_refl _) ?_⟩
    rw [FindsScript, Script.skip?]
    exact ⟨rfl, fun h => by cases h⟩
  | cons t ts =>
    by_cases hcreate : t.keyword? = some .create
    · obtain ⟨l₂, hskips, hl₂⟩ := exists_skipsCreate_of_endsScript hl₁
        fun us hus => hscript us (Nat.lt_succ_of_le hus)
      refine ⟨.again blocks l₂, fun r' => ?_,
        .again_of_suffix hl₂ (skipCreate_suffix ts) fun ended us hus => ?_⟩
      · rw [scriptRound_of_create hnext hcreate]
        simp only [hskips, exists_eq_left]
      · rwa [FindsScript, Script.skip?_create _ hcreate]
    · exact ⟨_, fun r' => scriptRound_of_ne hnext hcreate, finds_blockRound hcreate hl₁⟩

/-- A script is read to its end whatever is in it. Procedures created inside it are read behind a
token of it, so that there are fewer tokens to come. -/
theorem endsScript (ts : List Token) : EndsScript ts := by
  induction hn : ts.length using Nat.strong_induction_on generalizing ts with
  | _ n ih =>
    subst hn
    intro blocks l e h
    obtain ⟨r, hiff, hfinds⟩ :=
      exists_scriptRound_of_endsScript blocks h fun us hus => ih _ hus us rfl
    cases hfinds with
    | @done ended l' rest hl _ hends =>
      exact ⟨ended, l', rest, fun b l'' => skipsScript_of_done hiff, hl, hends⟩
    | @again blocks' l' rest hl _ hlt hgoes =>
      obtain ⟨ended, l₂, us, hskips, hl₂, hends⟩ := ih _ hlt rest rfl blocks' l' e hl
      refine ⟨ended, l₂, us, fun b l'' => ?_, hl₂, hgoes ended us hends⟩
      rw [skipsScript_of_again hiff, hskips]

theorem exists_scriptRound (blocks : List Block) (h : l.readAll = (ts, e)) :
    ∃ r, (∀ r', ScriptRound blocks l r' ↔ r' = r) ∧ r.Finds FindsScript blocks ts e :=
  exists_scriptRound_of_endsScript blocks h fun us _ => endsScript us

theorem exists_skipsCreate (h : l.readAll = (ts, e)) :
    ∃ l', (∀ l'', SkipsCreate l l'' ↔ l'' = l') ∧ l'.readAll = (Sql.skipCreate ts, e) :=
  exists_skipsCreate_of_endsScript h fun us _ => endsScript us

/-! ### The tokens to come -/

/-- What is left of the tokens to come: the lexer `l'` still has the last of them, and ends where the
lexer `l` ends. -/
structure Leaves (l l' : Lexer) (rest : List Token) : Prop where
  toList_eq : l'.toList = rest
  suffix : rest <:+ l.toList
  drain_eq : l'.drain = l.drain

/-- A round that goes on has read a token at least. -/
def Round.Reads {α β : Type} (l : Lexer) : Round α β → Prop
  | .again _ l' => Leaves l l' l'.toList ∧ l'.toList.length < l.toList.length
  | .done _ l' => Leaves l l' l'.toList

/-- What the parts of the search for the end of a statement do to a lexer, and what they find. -/
structure ReadsOn (l : Lexer) : Prop where
  toList_eq : l.toList =
    l.pushed ++ Lexeme.tokens l.cursor.offset (lexemes l.options l.cursor.rest)
  opensBlock : l.opensBlock.1 = Sql.opensBlock l.toList ∧ l.opensBlock.2.readAll = l.readAll
  beginsBlock : l.beginsBlock.1 = Sql.beginsBlock l.toList ∧ l.beginsBlock.2.readAll = l.readAll
  closes : ∀ b, (l.closes b).1 = (b.close? l.toList).isSome ∧
    Leaves l (l.closes b).2 ((b.close? l.toList).getD l.toList)
  skipParens : l.skipParens.1 = (Sql.skipParens l.toList).1 ∧
    Leaves l l.skipParens.2 (Sql.skipParens l.toList).2
  seekBegin : l.seekBegin.1 = (seekBegin? l.toList).isSome ∧
    Leaves l l.seekBegin.2 ((seekBegin? l.toList).getD [])
  /-- The `BEGIN` that is found is still to come. -/
  begin_found : l.seekBegin.1 = true ↔ ∃ t ts, l.seekBegin.2.toList = t :: ts ∧
    t.isKeyword .begin = true ∧ Sql.beginsBlock ts = true
  skipsCreate : ∃ l', (∀ l'', SkipsCreate l l'' ↔ l'' = l') ∧ Leaves l l' (Sql.skipCreate l.toList)
  skipsScript : ∀ blocks, ∃ ended l', (∀ b l'', SkipsScript blocks l b l'' ↔ b = ended ∧ l'' = l') ∧
    Leaves l l' ((Script.skip? ⟨blocks, []⟩ l.toList).getD [])
  beginRound : l.beginRound.Reads l
  headerRound : ∀ isSql, (l.headerRound isSql).Reads l
  scriptRound : ∀ blocks, ∃ r, (∀ r', ScriptRound blocks l r' ↔ r' = r) ∧ r.Reads l

theorem leaves_of_readAll {rest : List Token} (h : l'.readAll = (rest, l.drain))
    (hrest : rest <:+ l.toList) : Leaves l l' rest :=
  ⟨by rw [toList, h], hrest, by rw [drain, h]⟩

theorem Round.Finds.reads {α β : Type} {P : α → List Token → β → List Token → Prop} {a : α}
    {r : Round α β} (h : r.Finds P a l.toList l.drain) : r.Reads l := by
  cases h with
  | @again a' l' rest hl hsuffix hlt =>
    have htoList : l'.toList = rest := by rw [toList, hl]
    rw [Reads, htoList]
    exact ⟨leaves_of_readAll hl hsuffix, hlt⟩
  | @done b l' rest hl hsuffix =>
    have htoList : l'.toList = rest := by rw [toList, hl]
    rw [Reads, htoList]
    exact leaves_of_readAll hl hsuffix

theorem getD_suffix {x : Option (List Token)} {us : List Token} (hus : us <:+ ts)
    (h : ∀ rest, x = some rest → rest <:+ ts) : x.getD us <:+ ts := by
  cases x with
  | none => exact hus
  | some rest => exact h rest rfl

theorem begin_found_iff (l : Lexer) : l.seekBegin.1 = true ↔ ∃ t ts,
    l.seekBegin.2.toList = t :: ts ∧ t.isKeyword .begin = true ∧ Sql.beginsBlock ts = true := by
  obtain ⟨l', hseek, hl'⟩ := exists_seekBegin (l := l) rfl
  have htoList : l'.toList = (seekBegin? l.toList).getD [] := by rw [toList, hl', toList]
  rw [hseek]
  change (seekBegin? l.toList).isSome = true ↔ ∃ t ts, l'.toList = t :: ts ∧ _
  rw [htoList]
  cases hbegin : seekBegin? l.toList with
  | none => simp
  | some rest => simpa using exists_cons_of_seekBegin? hbegin

/-- In whatever state a lexer is, the search for the end of a statement reads on and ends, with what
the search on the list of tokens finds. -/
theorem readsOn (l : Lexer) : l.ReadsOn where
  toList_eq := by rw [toList, readAll_eq]
  opensBlock := by
    obtain ⟨l', hopens, hl'⟩ := exists_opensBlock (l := l) rfl
    rw [hopens]
    exact ⟨rfl, hl'⟩
  beginsBlock := by
    obtain ⟨l', hbegins, hl'⟩ := exists_beginsBlock (l := l) rfl
    rw [hbegins]
    exact ⟨rfl, hl'⟩
  closes b := by
    obtain ⟨l', hcloses, hl'⟩ := exists_closes (l := l) b rfl
    rw [hcloses]
    exact ⟨rfl, leaves_of_readAll hl'
      (getD_suffix (List.suffix_refl _) fun _ => Block.suffix_of_close?)⟩
  skipParens := by
    obtain ⟨l', hparens, hl'⟩ := exists_skipParens (l := l) rfl
    rw [hparens]
    exact ⟨rfl, leaves_of_readAll hl' (skipParens_suffix _)⟩
  seekBegin := by
    obtain ⟨l', hseek, hl'⟩ := exists_seekBegin (l := l) rfl
    rw [hseek]
    exact ⟨rfl, leaves_of_readAll hl' (getD_suffix List.nil_suffix fun _ => suffix_of_seekBegin?)⟩
  begin_found := begin_found_iff l
  skipsCreate := by
    obtain ⟨l', hiff, hl'⟩ := exists_skipsCreate (l := l) rfl
    exact ⟨l', hiff, leaves_of_readAll hl' (skipCreate_suffix _)⟩
  skipsScript blocks := by
    obtain ⟨ended, l', _, hiff, hl', rfl, -⟩ := endsScript _ blocks l _ rfl
    exact ⟨ended, l', hiff, leaves_of_readAll hl'
      (getD_suffix List.nil_suffix fun _ => Script.suffix_of_skip?)⟩
  beginRound := (finds_beginRound rfl).reads
  headerRound isSql := (finds_headerRound isSql rfl).reads
  scriptRound blocks := by
    obtain ⟨r, hiff, hfinds⟩ := exists_scriptRound (l := l) blocks rfl
    exact ⟨r, hiff, hfinds.reads⟩

end Lexer

end QueryConsole.Sql
