import QueryConsole.Proofs.Text.Extent
import QueryConsole.Text.Basic

/-!
# ASCII characters among bytes

In the UTF-8 form of a text an ASCII character is one byte, and the bytes of all other characters are
not below 128. An ASCII delimiter can therefore be looked for byte by byte: it is found where it
stands as a character, and a scan over bytes covers the bytes of what the scan over characters covers.
-/

namespace QueryConsole.Text

open Extent (double double_cons_of_ne double_append toSingle)

/-- The character is an ASCII character. -/
def IsAscii (c : Char) : Prop := c.toNat < 128

instance (c : Char) : Decidable (IsAscii c) := inferInstanceAs (Decidable (_ < _))

variable {q c : Char} {t : Text} {s s' : List UInt8} {b : UInt8}

@[simp] theorem bytes_nil : bytes [] = [] := rfl

@[simp] theorem bytes_cons (c : Char) (t : Text) :
    bytes (c :: t) = String.utf8EncodeChar c ++ bytes t := by
  simp [bytes]

@[simp] theorem bytes_append (t u : Text) : bytes (t ++ u) = bytes t ++ bytes u := by
  simp [bytes]

/-! ### One character -/

theorem utf8EncodeChar_of_isAscii (h : IsAscii c) : String.utf8EncodeChar c = [c.toUInt8] := by
  have hle : c.val.toNat ≤ 127 := Nat.le_of_lt_succ h
  rw [String.utf8EncodeChar, if_pos hle]
  rfl

theorem toNat_toUInt8_of_isAscii (h : IsAscii c) : c.toUInt8.toNat = c.toNat := by
  have hlt : c.toNat < 256 := Nat.lt_trans h (by decide)
  exact Nat.mod_eq_of_lt hlt

theorem utf8Size_of_isAscii (h : IsAscii c) : c.utf8Size = 1 := by
  rw [← String.length_utf8EncodeChar, utf8EncodeChar_of_isAscii h, List.length_singleton]

theorem le_toNat_of_mem (hc : ¬IsAscii c) (h : b ∈ String.utf8EncodeChar c) : 128 ≤ b.toNat := by
  have hlarge : ¬c.val.toNat ≤ 127 := fun hle => hc (Nat.lt_succ_of_le hle)
  have hall : ∀ b ∈ String.utf8EncodeChar c, 128 ≤ b.toNat := by
    simp only [String.utf8EncodeChar, if_neg hlarge]
    split
    · simp
      omega
    · split
      · simp
        omega
      · simp
        omega
  exact hall b h

/-- The byte of an ASCII character is found in the UTF-8 form of that character only. -/
theorem eq_of_toUInt8_mem (hq : IsAscii q) (h : q.toUInt8 ∈ String.utf8EncodeChar c) : c = q := by
  have hbyte := toNat_toUInt8_of_isAscii hq
  by_cases hc : IsAscii c
  · rw [utf8EncodeChar_of_isAscii hc, List.mem_singleton] at h
    rw [h, toNat_toUInt8_of_isAscii hc] at hbyte
    exact Char.toNat_inj.1 hbyte
  · have hle := le_toNat_of_mem hc h
    rw [hbyte] at hle
    exact absurd hq (Nat.not_lt.2 hle)

theorem head?_bytes_iff (hq : IsAscii q) : (bytes t).head? = some q.toUInt8 ↔ t.head? = some q := by
  cases t with
  | nil => simp
  | cons c t =>
    obtain ⟨b, bs, hbs⟩ := List.exists_cons_of_ne_nil (String.utf8EncodeChar_ne_nil (c := c))
    rw [bytes_cons, hbs, List.cons_append, List.head?_cons, List.head?_cons, Option.some.injEq,
      Option.some.injEq]
    constructor
    · rintro rfl
      exact eq_of_toUInt8_mem hq (by simp [hbs])
    · rintro rfl
      rw [utf8EncodeChar_of_isAscii hq] at hbs
      exact (List.cons.inj hbs).1.symm

/-! ### Texts -/

/-- Where the byte of an ASCII character stands, the text can be cut on both sides of it. -/
theorem exists_of_bytes_eq (hq : IsAscii q) (h : bytes t = s ++ q.toUInt8 :: s') :
    ∃ front back, t = front ++ q :: back ∧ bytes front = s ∧ bytes back = s' := by
  induction t generalizing s with
  | nil => simp at h
  | cons c t ih =>
    rw [bytes_cons] at h
    rcases List.append_eq_append_iff.1 h with ⟨m, rfl, hm⟩ | ⟨m, hc, hm⟩
    · obtain ⟨front, back, rfl, rfl, rfl⟩ := ih hm
      exact ⟨c :: front, back, rfl, bytes_cons c front, rfl⟩
    · cases m with
      | nil =>
        -- the byte is the first one behind `c`
        obtain ⟨front, back, rfl, hfront, rfl⟩ :=
          ih (show bytes t = [] ++ q.toUInt8 :: s' from hm.symm)
        refine ⟨c :: front, back, rfl, ?_, rfl⟩
        rw [bytes_cons, hfront, hc]
        simp
      | cons b m =>
        obtain ⟨rfl, rfl⟩ := List.cons.inj hm
        have hmem : q.toUInt8 ∈ String.utf8EncodeChar c := by
          rw [hc]
          simp
        obtain rfl := eq_of_toUInt8_mem hq hmem
        rw [utf8EncodeChar_of_isAscii hq] at hc
        obtain ⟨rfl, rfl⟩ : s = [] ∧ m = [] := by
          cases s with
          | nil => simpa using hc
          | cons b s => simp at hc
        exact ⟨[], t, rfl, rfl, rfl⟩

theorem bytes_double (hq : IsAscii q) (t : Text) : bytes (double q t) = double q.toUInt8 (bytes t) := by
  induction t with
  | nil => rfl
  | cons c t ih =>
    by_cases hc : c = q
    · subst hc
      simp [utf8EncodeChar_of_isAscii hq, ih]
    · have hnot : q.toUInt8 ∉ String.utf8EncodeChar c := mt (eq_of_toUInt8_mem hq) hc
      rw [double_cons_of_ne hc, bytes_cons, bytes_cons, double_append,
        Extent.double_of_notMem hnot, ih]

/-- Scanning the bytes of a text for a closing delimiter is scanning its characters. -/
theorem toSingle_bytes (hq : IsAscii q) (t : Text) : toSingle q.toUInt8 (bytes t) =
    ⟨bytes (toSingle q t).taken, bytes (toSingle q t).rest, (toSingle q t).closed⟩ := by
  obtain ⟨b, rfl⟩ | ⟨b, rest, rfl, hrest⟩ := Extent.eq_double_or_append q t
  · rw [Extent.toSingle_double, bytes_double hq, Extent.toSingle_double]
    rfl
  · have hhead : (bytes rest).head? ≠ some q.toUInt8 := mt (head?_bytes_iff hq).1 hrest
    rw [Extent.toSingle_double_append b hrest, bytes_append, bytes_cons, bytes_double hq,
      utf8EncodeChar_of_isAscii hq, List.singleton_append, Extent.toSingle_double_append _ hhead]
    simp [bytes_double hq, utf8EncodeChar_of_isAscii hq]

end QueryConsole.Text
