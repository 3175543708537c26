import QueryConsole.Text.Blank

/-!
# Cursors

A reader of a text keeps the part it has not read yet and the offset at which that part begins.
`Cursor.Reaches` says that one cursor is obtained from another by reading on.
-/

namespace QueryConsole

/-- A place in a text: the bytes before it and the text from it on. -/
structure Cursor where
  offset : Nat
  rest : Text
deriving DecidableEq, Repr

namespace Cursor

def ofText (t : Text) : Cursor := ⟨0, t⟩

/-- The cursor behind `taken`, when `rest` is what follows. -/
def advance (k : Cursor) (taken rest : Text) : Cursor := ⟨k.offset + Text.size taken, rest⟩

theorem rest_advance (k : Cursor) (taken rest : Text) : (k.advance taken rest).rest = rest := rfl

theorem advance_advance (k : Cursor) (s t u rest : Text) :
    (k.advance s u).advance t rest = k.advance (s ++ t) rest := by
  simp [advance, Nat.add_assoc]

/-- Reads on while characters satisfy `p`. -/
def skipWhile (p : Char → Bool) (k : Cursor) : Cursor :=
  k.advance (k.rest.takeWhile p) (k.rest.dropWhile p)

/-- Reads on to the next character that is not blank. -/
def skipBlanks (k : Cursor) : Cursor := k.skipWhile Text.isBlank

/-- The cursor behind all text. -/
def finish (k : Cursor) : Cursor := k.advance k.rest []

/-- Reading on from `k` leads to `k'`: what lies between them is a piece of the text. -/
def Reaches (k k' : Cursor) : Prop :=
  ∃ taken, k.rest = taken ++ k'.rest ∧ k'.offset = k.offset + Text.size taken

namespace Reaches

variable {j k l : Cursor}

theorem refl (k : Cursor) : k.Reaches k := ⟨[], by simp⟩

theorem trans (h : j.Reaches k) (h' : k.Reaches l) : j.Reaches l := by
  obtain ⟨s, hs, hso⟩ := h
  obtain ⟨t, ht, hto⟩ := h'
  exact ⟨s ++ t, by simp [hs, ht], by simp [hso, hto, Nat.add_assoc]⟩

theorem advance {taken rest : Text} (h : k.rest = taken ++ rest) :
    k.Reaches (k.advance taken rest) := ⟨taken, h, rfl⟩

theorem skipWhile (p : Char → Bool) (k : Cursor) : k.Reaches (k.skipWhile p) :=
  advance (List.takeWhile_append_dropWhile).symm

theorem skipBlanks (k : Cursor) : k.Reaches k.skipBlanks := skipWhile _ k

theorem length_le (h : k.Reaches l) : l.rest.length ≤ k.rest.length := by
  obtain ⟨t, ht, _⟩ := h
  simp [ht]

end Reaches

end Cursor

end QueryConsole
