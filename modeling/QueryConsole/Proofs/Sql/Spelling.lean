import Mathlib.Data.List.Forall2
import Mathlib.Data.List.Infix
import QueryConsole.Proofs.Sql.Decomposition
import QueryConsole.Proofs.Text.Casing

/-!
# Which words are keywords

A word is compared with keywords after its case is normalised, by the full case mappings. These take
a few characters beyond ASCII to an ASCII letter, so that a word with one of them can become a
keyword. No other word does that is not a keyword as it stands in the text: a character that is
mapped to several is never mapped to a part of a keyword.
-/

namespace QueryConsole.Sql

theorem Keyword.mem_all (k : Keyword) : k ∈ all := by
  cases k <;> decide

theorem Keyword.isUpper_of_mem_spelling {k : Keyword} {c : Char} (hc : c ∈ k.spelling) :
    c.isUpper = true := by
  have hall : (all.all fun k => k.spelling.all Char.isUpper) = true := by decide +kernel
  exact List.all_eq_true.1 (List.all_eq_true.1 hall k k.mem_all) c hc

theorem Keyword.not_infix_of_isUpper {c : Char} {t : Text} (hc : c ∈ t) (hupper : c.isUpper = false)
    (k : Keyword) : ¬t <:+: k.spelling := by
  intro h
  rw [isUpper_of_mem_spelling (h.subset hc)] at hupper
  cases hupper

namespace LetterCase

/-- The characters beyond ASCII that become an ASCII letter, each with that letter. -/
def strays : LetterCase → List (Char × Char)
  | upper => [('ſ', 's'), ('ı', 'i')]
  | lower => [('\u212a', 'k')]
  | preserve => []

/-- The letter that a stray character becomes. Any other character stands for itself. -/
def fold (lc : LetterCase) (c : Char) : Char := (lc.strays.lookup c).getD c

theorem fold_cases (lc : LetterCase) (c : Char) :
    (c, lc.fold c) ∈ lc.strays ∨ lc.fold c = c ∧ ∀ p ∈ lc.strays, p.1 ≠ c := by
  unfold fold
  cases h : lc.strays.lookup c with
  | none =>
    refine .inr ⟨rfl, fun p hp heq => ?_⟩
    have hne := List.lookup_eq_none_iff.1 h p hp
    simp [heq] at hne
  | some d =>
    obtain ⟨before, after, hsplit, -⟩ := List.lookup_eq_some_iff.1 h
    exact .inl (by rw [hsplit]; simp)

theorem map_fold_of_notMem (lc : LetterCase) {w : Text} (h : ∀ p ∈ lc.strays, p.1 ∉ w) :
    w.map lc.fold = w := by
  have hsame : ∀ c ∈ w, lc.fold c = id c := by
    intro c hc
    obtain hstray | ⟨hfold, -⟩ := lc.fold_cases c
    · exact absurd hc (h _ hstray)
    · exact hfold
  rw [List.map_congr_left hsame, List.map_id]

/-- What a character of a word becomes: the letter that it is read as, up to ASCII case, or a text
that is no part of a keyword, as the character itself is none. -/
inductive IsImage (lc : LetterCase) (c : Char) (image : Text) : Prop
  | letter : Text.asciiUpper image = [(lc.fold c).toUpper] → IsImage lc c image
  | foreign : (lc.fold c).toUpper.isUpper = false →
      (∀ k : Keyword, ¬Text.asciiUpper image <:+: k.spelling) → IsImage lc c image

/-- What a case option has to do with its tables: each of its strays becomes a letter by one of the
runs that lead back to ASCII, and the expansions are no parts of keywords. -/
structure IsMapping (lc : LetterCase) (runs : List Text.CaseRun)
    (expansions : List (Nat × List Nat)) : Prop where
  ascii : ∀ n < 128, Text.asciiUpper (Text.mapCase runs expansions (Char.ofNat n)) =
    [(Char.ofNat n).toUpper]
  strays : ∀ p ∈ lc.strays, 128 ≤ p.1.toNat ∧
    Text.asciiUpper (Text.mapCase runs expansions p.1) = [p.2.toUpper]
  runs : (runs.all (Text.CaseRun.staysOut (lc.strays.map fun p => p.1.toNat))) = true
  expansions : (expansions.all fun p =>
    (Text.asciiUpper (p.2.map Char.ofNat)).any (fun d => !d.isUpper) ||
      Keyword.all.all fun k => !decide (Text.asciiUpper (p.2.map Char.ofNat) <:+: k.spelling)) = true

theorem isMapping_upper : upper.IsMapping Text.upperRuns Text.upperExpansions where
  ascii := by decide +kernel
  strays := by decide +kernel
  runs := by decide +kernel
  expansions := by decide +kernel

theorem isMapping_lower : lower.IsMapping Text.lowerRuns Text.lowerExpansions where
  ascii := by decide +kernel
  strays := by decide +kernel
  runs := by decide +kernel
  expansions := by decide +kernel

variable {lc : LetterCase} {runs : List Text.CaseRun} {expansions : List (Nat × List Nat)}

theorem IsMapping.isImage (h : lc.IsMapping runs expansions) (c : Char) :
    lc.IsImage c (Text.mapCase runs expansions c) := by
  obtain hstray | ⟨hfold, hne⟩ := lc.fold_cases c
  · exact .letter (h.strays _ hstray).2
  · by_cases hascii : c.toNat < 128
    · have hletter := h.ascii c.toNat hascii
      rw [Char.ofNat_toNat] at hletter
      exact .letter (by rw [hletter, hfold])
    · have hle : 128 ≤ c.toNat := Nat.le_of_not_lt hascii
      have hupper : (lc.fold c).toUpper.isUpper = false := by
        rw [hfold]
        exact Text.isUpper_toUpper_of_le hle
      have hcodes : c.toNat ∉ lc.strays.map fun p => p.1.toNat := by
        intro hmem
        obtain ⟨p, hp, hcode⟩ := List.mem_map.1 hmem
        exact hne p hp (Char.toNat_inj.1 hcode)
      obtain ⟨n, hn, himage⟩ | ⟨p, hp, himage⟩ | himage := Text.mapCase_cases runs expansions c
      · have hbeyond := Text.CaseRun.le_of_counterpart? h.runs hle hcodes hn
        refine .foreign hupper fun k => ?_
        rw [himage]
        exact Keyword.not_infix_of_isUpper List.mem_cons_self (Text.isUpper_toUpper_ofNat hbeyond) k
      · refine .foreign hupper fun k => ?_
        rw [himage]
        obtain hcased | hpart := Bool.or_eq_true_iff.1 (List.all_eq_true.1 h.expansions p hp)
        · obtain ⟨d, hd, hupper⟩ := List.any_eq_true.1 hcased
          exact Keyword.not_infix_of_isUpper hd (by simpa using hupper) k
        · simpa using List.all_eq_true.1 hpart k k.mem_all
      · exact .letter (by rw [himage, hfold]; rfl)

theorem isImage_sigma {d : Char} (hd : 128 ≤ d.toNat) : lower.IsImage 'Σ' [d] :=
  .foreign (by decide)
    (Keyword.not_infix_of_isUpper List.mem_cons_self (Text.isUpper_toUpper_of_le hd))

/-- A word in lower case is made of images of its characters, whatever stands before it. -/
theorem exists_images_toLowerAfter (before w : Text) : ∃ images,
    Text.toLowerAfter before w = images.flatten ∧ List.Forall₂ lower.IsImage w images := by
  fun_induction Text.toLowerAfter before w with
  | case1 => exact ⟨[], rfl, .nil⟩
  | case2 before w ih =>
    obtain ⟨images, himages, hall⟩ := ih
    refine ⟨_ :: images, congrArg (List.cons _) himages, .cons (isImage_sigma ?_) hall⟩
    split <;> decide
  | case3 before c w _ ih =>
    obtain ⟨images, himages, hall⟩ := ih
    exact ⟨_ :: images, congrArg _ himages, .cons (isMapping_lower.isImage c) hall⟩

theorem exists_images_apply (lc : LetterCase) (w : Text) : ∃ images,
    lc.apply w = images.flatten ∧ List.Forall₂ lc.IsImage w images := by
  cases lc with
  | upper =>
    refine ⟨w.map (Text.mapCase Text.upperRuns Text.upperExpansions), rfl, ?_⟩
    exact List.forall₂_map_right_iff.2 (List.forall₂_same.2 fun c _ => isMapping_upper.isImage c)
  | lower => exact exists_images_toLowerAfter [] w
  | preserve =>
    refine ⟨w.map fun c => [c], (List.flatMap_singleton' w).symm, ?_⟩
    exact List.forall₂_map_right_iff.2 (List.forall₂_same.2 fun c _ => .letter rfl)

theorem asciiUpper_flatten {w : Text} {images : List Text}
    (h : List.Forall₂ (fun c image => Text.asciiUpper image = [(lc.fold c).toUpper]) w images) :
    Text.asciiUpper images.flatten = Text.asciiUpper (w.map lc.fold) := by
  induction h with
  | nil => rfl
  | @cons c image w images himage _ ih =>
    simp only [Text.asciiUpper] at himage ih ⊢
    rw [List.flatten_cons, List.map_append, himage, ih]
    rfl

/-- Where the word or what it becomes is part of a keyword, each image is a letter. -/
theorem forall₂_letter {w : Text} {images : List Text} (h : List.Forall₂ lc.IsImage w images)
    (hpart : ∀ c ∈ w, ∀ image ∈ images, (lc.fold c).toUpper.isUpper = true ∨
      ∃ k : Keyword, Text.asciiUpper image <:+: k.spelling) :
    List.Forall₂ (fun c image => Text.asciiUpper image = [(lc.fold c).toUpper]) w images := by
  induction h with
  | nil => exact .nil
  | @cons c image w images himage _ ih =>
    refine .cons ?_ (ih fun d hd m hm => hpart d (.tail c hd) m (.tail image hm))
    cases himage with
    | letter hletter => exact hletter
    | foreign hupper hforeign =>
      obtain hletter | ⟨k, hk⟩ := hpart c List.mem_cons_self image List.mem_cons_self
      · rw [hupper] at hletter
        cases hletter
      · exact absurd hk (hforeign k)

/-- Images make up a keyword if and only if the letters that they are read as do. -/
theorem asciiUpper_flatten_iff {w : Text} {images : List Text}
    (h : List.Forall₂ lc.IsImage w images) (k : Keyword) :
    Text.asciiUpper images.flatten = k.spelling ↔
      Text.asciiUpper (w.map lc.fold) = k.spelling := by
  constructor
  · intro hspelling
    rw [← hspelling]
    refine (asciiUpper_flatten (forall₂_letter h fun c _ image himage => .inr ⟨k, ?_⟩)).symm
    rw [← hspelling]
    exact (List.infix_of_mem_flatten himage).map Char.toUpper
  · intro hspelling
    rw [← hspelling]
    refine asciiUpper_flatten (forall₂_letter h fun c hc image _ => .inl ?_)
    apply Keyword.isUpper_of_mem_spelling (k := k)
    rw [← hspelling, Text.asciiUpper, List.map_map]
    exact List.mem_map_of_mem hc

/-- A word in the given case is a keyword if and only if its characters are read as the letters of
the keyword, ignoring ASCII case. -/
theorem asciiUpper_apply_iff (lc : LetterCase) (w : Text) (k : Keyword) :
    Text.asciiUpper (lc.apply w) = k.spelling ↔
      Text.sameIgnoringCase (w.map lc.fold) k.spelling = true := by
  obtain ⟨images, happly, himages⟩ := lc.exists_images_apply w
  rw [happly, asciiUpper_flatten_iff himages, Text.sameIgnoringCase, beq_iff_eq,
    k.asciiUpper_spelling]

end LetterCase

theorem Lexer.skipWords_singleton {l : Lexer} {a : Token} (h : l.next.1 = some a) (w : Text) :
    (l.skipWords [w]).1 = a.isWord w := by
  obtain ⟨l', hnext⟩ : ∃ l', l.next = (some a, l') := ⟨l.next.2, Prod.ext h rfl⟩
  rw [skipWords, hnext]
  cases hw : a.isWord w <;> simp [hw, skipWords]

/-- A word stands in its text as it is written, and is kept in the case of the options. -/
theorem exists_source_of_word {o : Lexer.Options} {t w : Text} {a : Token} (ha : a ∈ tokens o t)
    (hw : a.kind = .word w) : ∃ before source after, t = before ++ source ++ after ∧
      a.start = Text.size before ∧ a.stop = a.start + Text.size source ∧
      w = o.letterCase.apply source := by
  rw [tokens_eq] at ha
  obtain ⟨-, before, x, after, ht, hvalid, hkind, hstart, hstop⟩ :=
    Lexeme.standsIn_of_mem_tokens (tiling_lexemes o t) ha
  refine ⟨before, x.text, after, ht, hstart, hstop, ?_⟩
  rw [hw] at hkind
  cases hvalid with
  | word => exact (Token.Kind.word.inj (Option.some.inj hkind)).symm
  | closed | leftOpen =>
    rename_i k _ _ _
    cases k <;> cases hkind
  | _ => cases hkind

/-- A word is a keyword, however it is asked, if and only if its characters in the text spell the
keyword, ignoring ASCII case, when those that stray into ASCII are read as the letters that they
become. Without such a character the word is compared as it stands in the text. -/
theorem exists_source_spelling {o : Lexer.Options} {t w : Text} {a : Token} (ha : a ∈ tokens o t)
    (hw : a.kind = .word w) : ∃ before source after, t = before ++ source ++ after ∧
      a.start = Text.size before ∧ a.stop = a.start + Text.size source ∧
      (∀ k : Keyword,
        (a.isKeyword k = true ↔
          Text.sameIgnoringCase (source.map o.letterCase.fold) k.spelling = true) ∧
        (Keyword.ofWord? w = some k ↔
          Text.sameIgnoringCase (source.map o.letterCase.fold) k.spelling = true) ∧
        ∀ l : Lexer, l.next.1 = some a → ((l.skipWords [k.spelling]).1 = true ↔
          Text.sameIgnoringCase (source.map o.letterCase.fold) k.spelling = true)) ∧
      ((∀ p ∈ o.letterCase.strays, p.1 ∉ source) → source.map o.letterCase.fold = source) := by
  obtain ⟨before, source, after, ht, hstart, hstop, hsource⟩ := exists_source_of_word ha hw
  refine ⟨before, source, after, ht, hstart, hstop, fun k => ?_, o.letterCase.map_fold_of_notMem⟩
  have hword : Keyword.ofWord? w = some k ↔
      Text.sameIgnoringCase (source.map o.letterCase.fold) k.spelling = true := by
    rw [Keyword.ofWord?_eq_some_iff, eq_comm, hsource, o.letterCase.asciiUpper_apply_iff]
  have hkeyword : a.isKeyword k = true ↔
      Text.sameIgnoringCase (source.map o.letterCase.fold) k.spelling = true := by
    rw [← hword, Token.isKeyword_iff, Token.keyword?, Token.word?, hw, Option.bind_some]
  refine ⟨hkeyword, hword, fun l hl => ?_⟩
  rw [Lexer.skipWords_singleton hl]
  exact hkeyword

theorem exists_source_spelling_begin :
    ∃ (o : Lexer.Options) (t w : Text) (a : Token), o.letterCase = .upper ∧
      t = "Begın; x".toList ∧ a ∈ tokens o t ∧ a.kind = .word w ∧
      ∃ before source after, t = before ++ source ++ after ∧
        a.start = Text.size before ∧ a.stop = a.start + Text.size source ∧
        (∀ k : Keyword,
          (a.isKeyword k = true ↔
            Text.sameIgnoringCase (source.map o.letterCase.fold) k.spelling = true) ∧
          (Keyword.ofWord? w = some k ↔
            Text.sameIgnoringCase (source.map o.letterCase.fold) k.spelling = true) ∧
          ∀ l : Lexer, l.next.1 = some a → ((l.skipWords [k.spelling]).1 = true ↔
            Text.sameIgnoringCase (source.map o.letterCase.fold) k.spelling = true)) ∧
        ((∀ p ∈ o.letterCase.strays, p.1 ∉ source) → source.map o.letterCase.fold = source) := by
  let o : Lexer.Options := { terminator := ';' }
  have ha : (⟨.word "BEGIN".toList, 0, 6⟩ : Token) ∈ tokens o "Begın; x".toList := by
    decide +kernel
  exact ⟨o, _, _, _, rfl, rfl, ha, rfl, exists_source_spelling ha rfl⟩

/-- A word with a long s is not spelt like a keyword, but becomes one in upper case. -/
theorem not_forall_source_spelling :
    ¬ ∀ (o : Lexer.Options) (t before source after : Text) (a : Token) (k : Keyword),
      a ∈ tokens o t → (∃ w, a.kind = .word w) → t = before ++ source ++ after →
      a.start = Text.size before → a.stop = a.start + Text.size source →
      (a.isKeyword k = true ↔ Text.sameIgnoringCase source k.spelling = true) := by
  intro h
  let o : Lexer.Options := { terminator := ';' }
  have ha : (⟨.word "AS".toList, 0, 3⟩ : Token) ∈ tokens o "aſ".toList := by decide +kernel
  have hiff := h o "aſ".toList [] "aſ".toList [] _ .as ha ⟨_, rfl⟩ (by simp) rfl rfl
  have hspelling : Text.sameIgnoringCase "aſ".toList Keyword.as.spelling = false := by
    decide +kernel
  rw [hspelling] at hiff
  exact absurd (hiff.1 (by decide +kernel)) Bool.false_ne_true

end QueryConsole.Sql
