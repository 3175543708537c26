import QueryConsole.Proofs.Command.RoundTrip
import QueryConsole.Proofs.Settings

/-!
# Words that the terminator spares

A written word is one token of the line if and only if the terminator spares it. Words are quoted
without regard to the terminator, so one that is written plainly is cut at a terminator inside it,
and one between quotes is lost if the quote itself is the terminator. Which variables there are and
what becomes of double quotes and of an initial backslash makes no difference.
-/

namespace QueryConsole.Command

variable {o : Options} {w line rest : Text} {c : Char} {kind : Token.Kind} {ks : List Token.Kind}

/-- What can be read at the front of a line is the first of its tokens. -/
theorem head?_of_tokenize (hline : ∀ c ∈ line.head?, Text.isBlank c = false)
    (hreads : ∀ k : Cursor, k.rest = line → Reads o true k kind rest)
    (h : (tokenize o line).map (·.map Token.kind) = .ok ks) : ks.head? = some kind := by
  obtain ⟨t, s, hrun, rfl, -, -⟩ := Scanner.run_of_reads hline hreads
  rw [tokenize, hrun] at h
  dsimp only at h
  split at h
  · cases h
  · rw [← Except.ok.inj h]
    rfl

theorem tokenize_quoteWord_of_spares (h : o.Spares w) :
    (tokenize o (quoteWord w)).map (·.map Token.kind) = .ok [.word w] := by
  have hend : AtWordEnd o.terminator [] := by simp [AtWordEnd]
  obtain ⟨c, t, htext, hc⟩ := (isWritten_quoteWord w).exists_cons
  have hblank : ∀ d ∈ (quoteWord w).head?, Text.isBlank d = false := by
    intro d hd
    rw [htext] at hd
    obtain rfl := Option.some.inj hd
    rcases hc with rfl | ⟨hc, -⟩
    · decide
    · exact isBlank_of_isPlain hc
  have hreads (k : Cursor) (hk : k.rest = quoteWord w) : Reads o true k (.word w) [] :=
    reads_word h (by rw [hk, List.append_nil]) hend (by simp)
  exact tokenize_of_reads hblank hreads

/-- A plain word ends where the terminator stands in it. -/
theorem reads_word_of_plain {a b : Text} {k : Cursor} (hc : o.terminator = some c)
    (hplain : ∀ d ∈ a ++ c :: b, isPlain d = true) (ha : a ≠ []) (hnot : c ∉ a)
    (hk : k.rest = a ++ c :: b) : Reads o true k (.word a) (c :: b) := by
  have hquote : quoteWord a = a := by
    rw [quoteWord, if_pos]
    simpa [ha] using fun d hd => hplain d (List.mem_append_left _ hd)
  have hcp : isPlain c = true := hplain c (by simp)
  have hend : AtWordEnd o.terminator (c :: b) := by
    intro d hd
    obtain rfl := Option.some.inj hd
    refine ⟨?_, ne_of_isPlain hcp (isPlain_eq_false _ (by decide)), by simp [isWordChar, hc]⟩
    rw [Option.eq_none_iff_forall_ne_some]
    intro q hq
    refine ne_of_isPlain hcp (isPlain_eq_false q.mark ?_) (Quote.ofMark?_eq_some_iff.1 hq)
    cases q <;> decide
  have hspares : o.Spares a := by
    intro d hd
    rw [hc] at hd
    rwa [if_pos hquote, ← Option.some.inj hd]
  apply reads_word hspares (by rw [hquote, hk]) hend
  simpa using ne_of_isPlain hcp (isPlain_eq_false '>' (by decide))

/-- A word that is written plainly is cut at a terminator in it. -/
theorem notMem_of_tokenize (hc : o.terminator = some c) (hquote : quoteWord w = w)
    (h : (tokenize o w).map (·.map Token.kind) = .ok [.word w]) : c ∉ w := by
  intro hmem
  have hplain : ∀ d ∈ w, isPlain d = true :=
    fun d hd => (isWritten_quoteWord w).isPlain_of_mem hquote hd
  obtain ⟨a, b, rfl, ha⟩ := List.eq_append_cons_of_mem hmem
  have hblank : ∀ d ∈ (a ++ c :: b).head?, Text.isBlank d = false :=
    fun d hd => isBlank_of_isPlain (hplain d (List.mem_of_head? hd))
  by_cases hnil : a = []
  · subst hnil
    have hhead := head?_of_tokenize hblank
      (fun k hk => reads_terminator hc (hblank c rfl) hk) h
    cases hhead
  · have hhead := head?_of_tokenize hblank (fun k hk => reads_word_of_plain hc hplain hnil ha hk) h
    have hword := Token.Kind.word.inj (Option.some.inj hhead)
    simp at hword

/-- A word between quotes is lost if the quote is the terminator. -/
theorem ne_of_tokenize (hc : o.terminator = some c)
    (h : (tokenize o (singleQuoted w)).map (·.map Token.kind) = .ok [.word w]) : c ≠ '\'' := by
  rintro rfl
  have hblank : Text.isBlank '\'' = false := by decide
  have hhead := head?_of_tokenize (by simpa [singleQuoted] using hblank)
    (fun k hk => reads_terminator hc hblank hk) h
  cases hhead

/-- A written word is read as that word and nothing else if and only if the terminator spares it. -/
theorem tokenize_quoteWord_iff (o : Options) (w : Text) :
    (tokenize o (quoteWord w)).map (·.map Token.kind) = .ok [.word w] ↔ o.Spares w := by
  constructor
  · intro h c hc
    split
    · next hquote =>
      rw [hquote] at h
      exact notMem_of_tokenize hc hquote h
    · next hquote =>
      have hsingle : quoteWord w = singleQuoted w := by
        unfold quoteWord at hquote ⊢
        split at hquote
        · exact absurd rfl hquote
        · next hplain => exact if_neg hplain
      rw [hsingle] at h
      exact ne_of_tokenize hc h
  · exact tokenize_quoteWord_of_spares

/-- Not every terminator that settings can have spares every word. -/
theorem not_forall_tokenize_quoteWord :
    ¬ ∀ (s : Settings) (t : Char) (o : Options), s.terminatorChar = .ok t → s.lineOptions = .ok o →
      ∀ w, (tokenize o (quoteWord w)).map (·.map Token.kind) = .ok [.word w] := by
  intro h
  have hword := h { terminator := ['/'] } '/' { terminator := some '/' } rfl rfl "a/b".toList
  revert hword
  decide +kernel

end QueryConsole.Command
