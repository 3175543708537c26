/-!
# Texts and byte offsets

A text is a list of characters. Places in a text are counted in bytes of its UTF-8 form, so this
file measures texts in bytes and cuts them at a byte offset, either anywhere (rounding down to a
whole character) or only between two characters.
-/

namespace QueryConsole

/-- A text, character by character. -/
abbrev Text := List Char

namespace Text

/-- The length in bytes of the UTF-8 form. -/
def size : Text → Nat
  | [] => 0
  | c :: t => c.utf8Size + size t

@[simp] theorem size_nil : size [] = 0 := rfl

@[simp] theorem size_cons (c : Char) (t : Text) : size (c :: t) = c.utf8Size + size t := rfl

@[simp] theorem size_append (s t : Text) : size (s ++ t) = size s + size t := by
  induction s with
  | nil => simp
  | cons c s ih => simp [ih, Nat.add_assoc]

theorem size_eq_zero_iff {t : Text} : size t = 0 ↔ t = [] := by
  cases t with
  | nil => simp
  | cons c t => have := c.utf8Size_pos; simp; omega

/-- The bytes of the UTF-8 form. -/
def bytes (t : Text) : List UInt8 := t.flatMap String.utf8EncodeChar

theorem length_bytes (t : Text) : (bytes t).length = size t := by
  induction t with
  | nil => rfl
  | cons c t ih => simpa [bytes] using ih

/-- Cuts a text after as many whole characters as fit into `n` bytes. -/
def splitAt (n : Nat) : Text → Text × Text
  | [] => ([], [])
  | c :: t =>
    if c.utf8Size ≤ n then
      let (a, b) := splitAt (n - c.utf8Size) t
      (c :: a, b)
    else ([], c :: t)

theorem splitAt_append (n : Nat) (t : Text) : (splitAt n t).1 ++ (splitAt n t).2 = t := by
  induction t generalizing n with
  | nil => rfl
  | cons c t ih =>
    by_cases h : c.utf8Size ≤ n
    · simpa [splitAt, h] using ih _
    · simp [splitAt, h]

theorem size_splitAt_le (n : Nat) (t : Text) : size (splitAt n t).1 ≤ n := by
  induction t generalizing n with
  | nil => simp [splitAt]
  | cons c t ih =>
    by_cases h : c.utf8Size ≤ n
    · have := ih (n - c.utf8Size)
      simp only [splitAt, h, ↓reduceIte, size_cons]
      omega
    · simp [splitAt, h]

/-- Cuts a text at the offset `n`, which must lie between two characters or at an end. -/
def splitAt? (n : Nat) (t : Text) : Option (Text × Text) :=
  if size (splitAt n t).1 = n then some (splitAt n t) else none

/-- The part of a text from the offset `n` on, if a character begins there or the text ends. -/
def drop? (n : Nat) (t : Text) : Option Text := (splitAt? n t).map (·.2)

end Text

end QueryConsole
