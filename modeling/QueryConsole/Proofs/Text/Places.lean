import Mathlib.Order.Bounds.Basic
import QueryConsole.Text.Basic

/-!
# Places between characters

A text can be cut at an offset if as many bytes make whole characters at its front. Any other offset
stands for the last place before it.
-/

namespace QueryConsole.Text

variable {t front back : Text} {n : Nat}

theorem splitAt_size_add (front back : Text) (n : Nat) :
    splitAt (size front + n) (front ++ back) =
      (front ++ (splitAt n back).1, (splitAt n back).2) := by
  induction front with
  | nil => rw [List.nil_append, size_nil, Nat.zero_add, List.nil_append]
  | cons c front ih =>
    rw [List.cons_append, size_cons, Nat.add_assoc, splitAt, if_pos (by omega),
      Nat.add_sub_cancel_left, ih, List.cons_append]

theorem splitAt_zero (t : Text) : splitAt 0 t = ([], t) := by
  cases t with
  | nil => rfl
  | cons c t =>
    have hpos := c.utf8Size_pos
    rw [splitAt, if_neg (by omega)]

theorem splitAt_size (front back : Text) :
    splitAt (size front) (front ++ back) = (front, back) := by
  have h := splitAt_size_add front back 0
  rwa [Nat.add_zero, splitAt_zero, List.append_nil] at h

theorem splitAt?_size (front back : Text) :
    splitAt? (size front) (front ++ back) = some (front, back) := by
  rw [splitAt?, splitAt_size, if_pos rfl]

theorem splitAt?_eq_some_iff :
    splitAt? n t = some (front, back) ↔ t = front ++ back ∧ n = size front := by
  constructor
  · intro h
    unfold splitAt? at h
    split at h
    · next hsize =>
      have happend := splitAt_append n t
      rw [Option.some.inj h] at hsize happend
      exact ⟨happend.symm, hsize.symm⟩
    · cases h
  · rintro ⟨rfl, rfl⟩
    exact splitAt?_size front back

/-- The offset `n` lies between two characters of `t`, or at an end. -/
def IsPlace (t : Text) (n : Nat) : Prop := ∃ front back, splitAt? n t = some (front, back)

theorem isPlace_iff : IsPlace t n ↔ ∃ front back, t = front ++ back ∧ n = size front := by
  simp only [IsPlace, splitAt?_eq_some_iff]

theorem IsPlace.le_size (h : IsPlace t n) : n ≤ size t := by
  obtain ⟨front, back, rfl, rfl⟩ := isPlace_iff.1 h
  rw [size_append]
  omega

/-- Of two fronts of a text the shorter one is a front of the other. -/
theorem exists_append_of_size_le {s s' u u' : Text} (h : s ++ u = s' ++ u')
    (hle : size s ≤ size s') : ∃ w, s' = s ++ w ∧ u = w ++ u' := by
  rcases List.append_eq_append_iff.1 h with ⟨w, hs', hu⟩ | ⟨w, rfl, rfl⟩
  · exact ⟨w, hs', hu⟩
  · rw [size_append] at hle
    obtain rfl : w = [] := size_eq_zero_iff.1 (by omega)
    exact ⟨[], by simp⟩

/-! ### Rounding down -/

/-- The last place of a text that is not behind the offset `n`. -/
def placeAt (t : Text) (n : Nat) : Nat := size (splitAt n t).1

theorem splitAt_placeAt (t : Text) (n : Nat) : splitAt (placeAt t n) t = splitAt n t := by
  have h := splitAt_size (splitAt n t).1 (splitAt n t).2
  rwa [splitAt_append] at h

theorem isPlace_placeAt (t : Text) (n : Nat) : IsPlace t (placeAt t n) :=
  isPlace_iff.2 ⟨(splitAt n t).1, (splitAt n t).2, (splitAt_append n t).symm, rfl⟩

theorem placeAt_size_add (front back : Text) (n : Nat) :
    placeAt (front ++ back) (size front + n) = size front + placeAt back n := by
  rw [placeAt, splitAt_size_add, size_append, placeAt]

theorem isGreatest_placeAt (t : Text) (n : Nat) :
    IsGreatest {p | IsPlace t p ∧ p ≤ n} (placeAt t n) := by
  refine ⟨⟨isPlace_placeAt t n, size_splitAt_le n t⟩, ?_⟩
  rintro p ⟨hp, hle⟩
  obtain ⟨front, back, rfl, rfl⟩ := isPlace_iff.1 hp
  obtain ⟨m, rfl⟩ := Nat.exists_eq_add_of_le hle
  rw [placeAt_size_add]
  exact Nat.le_add_right _ _

/-- An offset behind the end of a text stands for the end. -/
theorem isGreatest_placeAt_min (t : Text) (n : Nat) :
    IsGreatest {p | IsPlace t p ∧ p ≤ min n (size t)} (placeAt t n) := by
  obtain ⟨⟨hplace, hle⟩, hgreatest⟩ := isGreatest_placeAt t n
  refine ⟨⟨hplace, le_min hle hplace.le_size⟩, ?_⟩
  rintro p ⟨hp, hle⟩
  exact hgreatest ⟨hp, hle.trans (min_le_left _ _)⟩

theorem IsPlace.le_placeAt_iff {p : Nat} (hp : IsPlace t p) : p ≤ placeAt t n ↔ p ≤ n :=
  ⟨fun h => h.trans (size_splitAt_le n t), fun h => (isGreatest_placeAt t n).2 ⟨hp, h⟩⟩

end QueryConsole.Text
