import QueryConsole.Text.Blank
import QueryConsole.Text.Identifier

/-!
# Characters of identifiers are not blank

Two tables of code ranges share no code if no two of their ranges overlap. The tables of blank and
of alphanumeric characters do not.
-/

namespace QueryConsole.Text

theorem CodeRange.exists_mem_of_covers {n : Nat} {rs : List CodeRange} (h : covers n rs = true) :
    ∃ r ∈ rs, r.lo ≤ n ∧ n ≤ r.hi := by
  induction rs with
  | nil => simp [covers] at h
  | cons r rs ih =>
    rw [covers] at h
    split at h
    · simp at h
    · next hlo =>
      rcases Bool.or_eq_true_iff.1 h with hhi | hrs
      · exact ⟨r, by simp, by omega, by simpa using hhi⟩
      · obtain ⟨s, hs, hn⟩ := ih hrs
        exact ⟨s, by simp [hs], hn⟩

/-- Whether two ranges have no code in common. -/
def CodeRange.apart (r s : CodeRange) : Bool := r.hi < s.lo || s.hi < r.lo

theorem CodeRange.covers_eq_false {n : Nat} {rs ss : List CodeRange}
    (hapart : (rs.all fun r => ss.all r.apart) = true) (h : covers n rs = true) :
    covers n ss = false := by
  rw [Bool.eq_false_iff]
  intro hss
  obtain ⟨r, hr, hrn⟩ := exists_mem_of_covers h
  obtain ⟨s, hs, hsn⟩ := exists_mem_of_covers hss
  have hrs := List.all_eq_true.1 (List.all_eq_true.1 hapart r hr) s hs
  simp only [apart, Bool.or_eq_true, decide_eq_true_eq] at hrs
  omega

theorem isBlank_of_isAlphanumeric {c : Char} (h : isAlphanumeric c = true) : isBlank c = false :=
  CodeRange.covers_eq_false (by decide +kernel) h

theorem isBlank_of_isIdentifierChar {c : Char} (h : isIdentifierChar c = true) :
    isBlank c = false := by
  rcases Bool.or_eq_true_iff.1 h with h | h
  · exact isBlank_of_isAlphanumeric h
  · rw [eq_of_beq h]
    decide

end QueryConsole.Text
