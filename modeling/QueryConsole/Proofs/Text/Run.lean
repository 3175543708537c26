import Mathlib.Data.List.TakeWhile

/-!
# Maximal runs

A run of symbols with a property is maximal if the symbol behind it, if there is one, does not have
the property. Such a run is what `takeWhile` takes, and `dropWhile` leaves what is behind it.
-/

namespace QueryConsole.Run

variable {α : Type} {p : α → Bool} {w r : List α}

/-- The symbols `w` have the property `p`, and their row does not go on at `r`. -/
def Maximal (p : α → Bool) (w r : List α) : Prop :=
  (∀ a ∈ w, p a = true) ∧ ∀ a ∈ r.head?, p a = false

theorem head?_dropWhile (p : α → Bool) (l : List α) : ∀ a ∈ (l.dropWhile p).head?, p a = false := by
  intro a ha
  have h := List.head?_dropWhile_not p l
  rwa [Option.mem_def.1 ha] at h

theorem maximal_takeWhile (p : α → Bool) (l : List α) :
    Maximal p (l.takeWhile p) (l.dropWhile p) :=
  ⟨List.all_eq_true.1 List.all_takeWhile, head?_dropWhile p l⟩

theorem takeWhile_of_head? (h : ∀ a ∈ r.head?, p a = false) : r.takeWhile p = [] := by
  cases r with
  | nil => rfl
  | cons a r => simp [h a (by simp)]

theorem dropWhile_of_head? (h : ∀ a ∈ r.head?, p a = false) : r.dropWhile p = r := by
  cases r with
  | nil => rfl
  | cons a r => simp [h a (by simp)]

theorem takeWhile_append (hw : ∀ a ∈ w, p a = true) (hr : ∀ a ∈ r.head?, p a = false) :
    (w ++ r).takeWhile p = w := by
  rw [List.takeWhile_append_of_pos hw, takeWhile_of_head? hr, List.append_nil]

theorem dropWhile_append (hw : ∀ a ∈ w, p a = true) (hr : ∀ a ∈ r.head?, p a = false) :
    (w ++ r).dropWhile p = r := by
  rw [List.dropWhile_append_of_pos hw, dropWhile_of_head? hr]

end QueryConsole.Run
