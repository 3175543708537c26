import QueryConsole.Text.Casing

/-!
# Case mappings and ASCII letters

On ASCII characters a full case mapping differs from the comparison that ignores ASCII case in
nothing that this comparison sees. Beyond ASCII a character is mapped to ASCII by a run of codes
that lead back there, or by an expansion. Which runs do so is told from the table.
-/

namespace QueryConsole.Text

namespace CaseRun

variable {n m : Nat} {rs : List CaseRun}

theorem exists_of_counterpart? (h : counterpart? n rs = some m) :
    ∃ r ∈ rs, r.lo ≤ n ∧ n ≤ r.hi ∧ m = ((n : Int) + r.shift).toNat := by
  induction rs with
  | nil => cases h
  | cons r rs ih =>
    rw [counterpart?] at h
    split at h
    · cases h
    · next hlo =>
      split at h
      · next hhi =>
        rw [Bool.and_eq_true, decide_eq_true_eq] at hhi
        exact ⟨r, by simp, Nat.le_of_not_lt hlo, hhi.1, (Option.some.inj h).symm⟩
      · obtain ⟨s, hs, hn⟩ := ih h
        exact ⟨s, List.mem_cons_of_mem r hs, hn⟩

/-- Whether a run begins in ASCII, or is for one of the given codes, or does not lead to ASCII. -/
def staysOut (codes : List Nat) (r : CaseRun) : Bool :=
  r.hi < 128 || (r.lo == r.hi && codes.contains r.lo) || 128 ≤ (r.lo : Int) + r.shift

theorem le_of_counterpart? {codes : List Nat} (hrs : (rs.all (staysOut codes)) = true)
    (hn : 128 ≤ n) (hcodes : n ∉ codes) (h : counterpart? n rs = some m) : 128 ≤ m := by
  obtain ⟨r, hr, hlo, hhi, rfl⟩ := exists_of_counterpart? h
  have hout := List.all_eq_true.1 hrs r hr
  simp only [staysOut, Bool.or_eq_true, Bool.and_eq_true, decide_eq_true_eq, beq_iff_eq,
    List.contains_iff_mem] at hout
  obtain (hascii | ⟨hone, hmem⟩) | hshift := hout
  · omega
  · obtain rfl : n = r.lo := by omega
    exact absurd hmem hcodes
  · omega

end CaseRun

/-- A character that is mapped has a counterpart or an expansion, or stays what it is. -/
theorem mapCase_cases (runs : List CaseRun) (expansions : List (Nat × List Nat)) (c : Char) :
    (∃ n, CaseRun.counterpart? c.toNat runs = some n ∧ mapCase runs expansions c = [Char.ofNat n]) ∨
      (∃ p ∈ expansions, mapCase runs expansions c = p.2.map Char.ofNat) ∨
      mapCase runs expansions c = [c] := by
  unfold mapCase
  split
  · next n hn => exact .inl ⟨n, hn, rfl⟩
  · split
    · next ns hns =>
      obtain ⟨before, after, hsplit, -⟩ := List.lookup_eq_some_iff.1 hns
      exact .inr (.inl ⟨(c.toNat, ns), by rw [hsplit]; simp, rfl⟩)
    · exact .inr (.inr rfl)

/-- Beyond ASCII there is no capital letter, and none that is one when case is ignored. -/
theorem isUpper_toUpper_of_le {c : Char} (hc : 128 ≤ c.toNat) : c.toUpper.isUpper = false := by
  have hval : 128 ≤ c.val.toNat := hc
  have hsame : c.toUpper = c := by
    unfold Char.toUpper
    rw [dif_neg]
    rintro ⟨-, hz⟩
    have hle : c.val.toNat ≤ 122 := UInt32.le_iff_toNat_le.1 hz
    omega
  rw [hsame, Bool.eq_false_iff]
  intro hupper
  have hle : c.val.toNat ≤ 90 := UInt32.le_iff_toNat_le.1 (of_decide_eq_true hupper).2
  omega

theorem isUpper_toUpper_ofNat {n : Nat} (hn : 128 ≤ n) :
    (Char.ofNat n).toUpper.isUpper = false := by
  by_cases hvalid : n.isValidChar
  · apply isUpper_toUpper_of_le
    rw [Char.ofNat, dif_pos hvalid]
    exact hn
  · rw [Char.ofNat, dif_neg hvalid]
    decide

end QueryConsole.Text
