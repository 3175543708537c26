import QueryConsole.Proofs.Sql.Lexeme
import QueryConsole.Sql.Lexer

/-!
# Texts cut into lexemes

A text is covered by lexemes without gap or overlap in exactly one way, and the tokens of a lexer
that reads it to its end are the lexemes that yield one. Between two tokens lie blanks and comments
only. A cut of the front of a text holds for any text that has the same front and the same next
character.
-/

namespace QueryConsole.Sql

/-- The lexemes of a text, in order. -/
def lexemes (o : Lexer.Options) : Text → List Lexeme
  | [] => []
  | c :: t => (Lexeme.read o c t).1 :: lexemes o (Lexeme.read o c t).2
termination_by t => t.length
decreasing_by exact Lexeme.length_rest_lt o c t

/-- The text that lexemes cover. -/
def Lexeme.cover (xs : List Lexeme) : Text := xs.flatMap Lexeme.text

@[simp] theorem Lexeme.cover_nil : cover [] = [] := rfl

@[simp] theorem Lexeme.cover_cons (x : Lexeme) (xs : List Lexeme) :
    cover (x :: xs) = x.text ++ cover xs := by
  simp [cover]

@[simp] theorem Lexeme.cover_append (xs ys : List Lexeme) :
    cover (xs ++ ys) = cover xs ++ cover ys := by
  simp [cover]

/-- The construct that the last of the given lexemes leaves open. -/
def Lexeme.leftOpen? (xs : List Lexeme) : Option Construct := xs.getLast?.bind Lexeme.openIn

/-- The tokens of lexemes that are laid out one behind the other from the offset `n` on. -/
def Lexeme.tokens (n : Nat) : List Lexeme → List Token
  | [] => []
  | x :: xs =>
    let stop := n + Text.size x.text
    match x.kind? with
    | none => tokens stop xs
    | some k => ⟨k, n, stop⟩ :: tokens stop xs

/-- The token, `n` bytes further on. -/
def Token.shift (n : Nat) (t : Token) : Token := { t with start := t.start + n, stop := t.stop + n }

/-- The lexemes of the list stand at the front of a text, and a rest is behind them. -/
inductive Tiling (o : Lexer.Options) : Text → List Lexeme → Text → Prop
  | nil (t : Text) : Tiling o t [] t
  | cons {x : Lexeme} {t rest : Text} {xs : List Lexeme} : Lexeme.Valid o x t →
      Tiling o t xs rest → Tiling o (x.text ++ t) (x :: xs) rest

namespace Tiling

variable {o : Lexer.Options} {t m rest : Text} {xs ys : List Lexeme}

theorem eq_cover_append (h : Tiling o t xs rest) : t = Lexeme.cover xs ++ rest := by
  induction h with
  | nil t => rfl
  | cons _ _ ih => simp [← ih]

theorem append (h : Tiling o t xs m) (h' : Tiling o m ys rest) : Tiling o t (xs ++ ys) rest := by
  induction h with
  | nil => exact h'
  | cons hx _ ih => exact .cons hx (ih h')

theorem split (h : Tiling o t (xs ++ ys) rest) : ∃ m, Tiling o t xs m ∧ Tiling o m ys rest := by
  induction xs generalizing t with
  | nil => exact ⟨t, .nil t, h⟩
  | cons x xs ih =>
    cases h with
    | cons hx htail =>
      obtain ⟨m, hxs, hys⟩ := ih htail
      exact ⟨m, .cons hx hxs, hys⟩

/-- A cut of the front of a text does not depend on what follows the character behind it. -/
theorem congr (h : Tiling o t xs m) (hhead : rest.head? = m.head?) :
    Tiling o (Lexeme.cover xs ++ rest) xs rest := by
  induction h with
  | nil => exact .nil rest
  | @cons x t m xs hx hxs ih =>
    rw [Lexeme.cover_cons, List.append_assoc]
    refine .cons (hx.congr ?_) (ih hhead)
    rw [hxs.eq_cover_append, List.head?_append, List.head?_append, hhead]

end Tiling

section Lexemes

variable {o : Lexer.Options} {t : Text} {xs : List Lexeme}

theorem tiling_lexemes (o : Lexer.Options) (t : Text) : Tiling o t (lexemes o t) [] := by
  fun_induction lexemes o t with
  | case1 => exact .nil []
  | case2 c t ih =>
    have h := Tiling.cons (Lexeme.valid_read o c t) ih
    rwa [Lexeme.text_append_rest] at h

theorem cover_lexemes (o : Lexer.Options) (t : Text) : Lexeme.cover (lexemes o t) = t := by
  simpa using (tiling_lexemes o t).eq_cover_append.symm

/-- A text is cut into lexemes in one way only. -/
theorem Tiling.eq_lexemes (h : Tiling o t xs []) : xs = lexemes o t := by
  generalize hrest : ([] : Text) = rest at h
  induction h with
  | nil t => rw [← hrest, lexemes]
  | @cons x t rest xs hx _ ih =>
    obtain ⟨c, u, hu, hread⟩ := Lexeme.read_of_valid hx
    rw [hu, lexemes, hread, ih hrest]

theorem tiling_iff : Tiling o t xs [] ↔ xs = lexemes o t := by
  constructor
  · exact Tiling.eq_lexemes
  · rintro rfl
    exact tiling_lexemes o t

/-- Lexemes at the front of a text come first among its lexemes. -/
theorem Tiling.lexemes_eq {m : Text} (h : Tiling o t xs m) : lexemes o t = xs ++ lexemes o m :=
  (Tiling.eq_lexemes (h.append (tiling_lexemes o m))).symm

theorem Tiling.openIn_eq_none (h : Tiling o t xs []) (hopen : Lexeme.leftOpen? xs = none) :
    ∀ x ∈ xs, x.openIn = none := by
  intro x hx
  obtain ⟨ys, zs, rfl⟩ := List.append_of_mem hx
  obtain ⟨m, -, hm⟩ := h.split
  cases hm with
  | cons hvalid hzs =>
    by_contra hne
    -- a lexeme that is left open is the last one
    obtain rfl := hvalid.rest_of_openIn hne
    obtain rfl : zs = [] := by rw [hzs.eq_lexemes, lexemes]
    exact hne (by simpa [Lexeme.leftOpen?] using hopen)

end Lexemes

theorem Lexeme.leftOpen?_cons {x : Lexeme} {xs : List Lexeme} {u : Option Construct}
    (h : ∀ k, x.openIn = some k → xs = []) :
    (leftOpen? (x :: xs)).or u = (leftOpen? xs).or (x.openIn.or u) := by
  cases xs with
  | nil => simp [leftOpen?]
  | cons y ys =>
    have hx : x.openIn = none := by
      rw [Option.eq_none_iff_forall_ne_some]
      intro k hk
      simpa using h k hk
    simp [leftOpen?, hx]

theorem Lexeme.leftOpen?_append_cons_of_closed {x : Lexeme} (hx : x.openIn = none)
    (xs ys : List Lexeme) : leftOpen? (xs ++ x :: ys) = leftOpen? ys := by
  cases ys with
  | nil => simp [leftOpen?, hx]
  | cons y ys => simp [leftOpen?, List.getLast?_cons]

namespace Lexer

theorem readAll_of_next_none {l l' : Lexer} (h : l.next = (none, l')) : l.readAll = ([], l') := by
  rw [readAll]
  split
  · simp_all
  · simp_all

theorem readAll_of_next_some {l l' : Lexer} {a : Token} (h : l.next = (some a, l')) :
    l.readAll = (a :: l'.readAll.1, l'.readAll.2) := by
  rw [readAll]
  split
  · simp_all
  · simp_all

theorem readAll_congr {l l' : Lexer} (h : l.next = l'.next) : l.readAll = l'.readAll := by
  rcases hl : l.next with ⟨_ | a, m⟩
  · rw [readAll_of_next_none hl, readAll_of_next_none (h.symm.trans hl)]
  · rw [readAll_of_next_some hl, readAll_of_next_some (h.symm.trans hl)]

/-- Reading a text to its end gives the tokens of its lexemes. -/
theorem readAll_mk (o : Options) (n : Nat) (t : Text) (u : Option Construct) :
    readAll ⟨o, ⟨n, t⟩, [], u⟩ = (Lexeme.tokens n (lexemes o t),
      ⟨o, ⟨n + Text.size t, []⟩, [], (Lexeme.leftOpen? (lexemes o t)).or u⟩) := by
  fun_induction lexemes o t generalizing n u with
  | case1 =>
    have hnext : next ⟨o, ⟨n, []⟩, [], u⟩ = (none, ⟨o, ⟨n, []⟩, [], u⟩) := by
      simp [next, scan]
    rw [readAll_of_next_none hnext]
    simp [Lexeme.tokens, Lexeme.leftOpen?]
  | case2 c t ih =>
    rcases hx : Lexeme.read o c t with ⟨x, rest⟩
    rw [hx] at ih
    have hsize : Text.size (c :: t) = Text.size x.text + Text.size rest := by
      have h := congrArg Text.size (Lexeme.text_append_rest o c t)
      simpa [hx, eq_comm] using h
    have hopen : ∀ k, x.openIn = some k → lexemes o rest = [] := by
      intro k hk
      have hrest := Lexeme.rest_of_openIn (o := o) (c := c) (t := t) (k := k) (by rw [hx]; exact hk)
      rw [hx] at hrest
      rw [show rest = [] from hrest, lexemes]
    rw [Lexeme.leftOpen?_cons hopen, hsize, ← Nat.add_assoc]
    cases hkind : x.kind? with
    | none =>
      have hnext : next ⟨o, ⟨n, c :: t⟩, [], u⟩ =
          next ⟨o, ⟨n + Text.size x.text, rest⟩, [], x.openIn.or u⟩ := by
        rw [next, scan]
        simp [hx, hkind, pass, Cursor.advance, next]
      rw [readAll_congr hnext, ih]
      simp [Lexeme.tokens, hkind]
    | some k =>
      have hnext : next ⟨o, ⟨n, c :: t⟩, [], u⟩ = (some ⟨k, n, n + Text.size x.text⟩,
          ⟨o, ⟨n + Text.size x.text, rest⟩, [], x.openIn.or u⟩) := by
        rw [next, scan]
        simp [hx, hkind, pass, Cursor.advance]
      rw [readAll_of_next_some hnext, ih]
      simp [Lexeme.tokens, hkind]

end Lexer

theorem tokens_eq (o : Lexer.Options) (t : Text) : tokens o t = Lexeme.tokens 0 (lexemes o t) := by
  simp [tokens, Lexer.toList, Lexer.ofText, Cursor.ofText, Lexer.readAll_mk]

theorem Lexer.drain_ofText (o : Options) (t : Text) :
    (Lexer.ofText o t).drain =
      ⟨o, ⟨Text.size t, []⟩, [], Lexeme.leftOpen? (lexemes o t)⟩ := by
  simp [Lexer.drain, Lexer.ofText, Cursor.ofText, Lexer.readAll_mk]

namespace Lexeme

/-- Lexemes that are laid out further on yield tokens that stand further on. -/
theorem tokens_add (m n : Nat) (xs : List Lexeme) :
    tokens (m + n) xs = (tokens m xs).map (Token.shift n) := by
  induction xs generalizing m with
  | nil => rfl
  | cons x xs ih =>
    have hstop : m + n + Text.size x.text = m + Text.size x.text + n := by omega
    cases hk : x.kind? with
    | none => simp only [tokens, hk, hstop, ih]
    | some k => simp only [tokens, hk, hstop, ih, List.map_cons, Token.shift]

theorem tokens_append (n : Nat) (xs ys : List Lexeme) :
    tokens n (xs ++ ys) = tokens n xs ++ tokens (n + Text.size (cover xs)) ys := by
  induction xs generalizing n with
  | nil => simp [tokens]
  | cons x xs ih =>
    have hsize : n + Text.size x.text + Text.size (cover xs) = n + Text.size (cover (x :: xs)) := by
      simp [Nat.add_assoc]
    cases hk : x.kind? <;> simp [tokens, hk, ih, hsize]

/-- The lexeme of a token stands behind the lexemes of the tokens before it. -/
theorem tokens_eq_append_cons {n : Nat} {xs : List Lexeme} {as bs : List Token} {a : Token}
    (h : tokens n xs = as ++ a :: bs) :
    ∃ ys y zs, xs = ys ++ y :: zs ∧ tokens n ys = as ∧ y.kind? = some a.kind ∧
      a.start = n + Text.size (cover ys) ∧ a.stop = a.start + Text.size y.text ∧
      tokens a.stop zs = bs := by
  induction xs generalizing n as with
  | nil => simp [tokens] at h
  | cons x xs ih =>
    cases hk : x.kind? with
    | none =>
      simp only [tokens, hk] at h
      obtain ⟨ys, y, zs, rfl, hys, hy, hstart, hstop, hzs⟩ := ih h
      refine ⟨x :: ys, y, zs, rfl, by simp [tokens, hk, hys], hy, ?_, hstop, hzs⟩
      rw [hstart, cover_cons, Text.size_append, Nat.add_assoc]
    | some k =>
      simp only [tokens, hk] at h
      cases as with
      | nil =>
        obtain ⟨rfl, rfl⟩ := List.cons.inj h
        exact ⟨[], x, xs, rfl, rfl, hk, by simp, rfl, rfl⟩
      | cons b as =>
        obtain ⟨rfl, hrest⟩ := List.cons.inj h
        obtain ⟨ys, y, zs, rfl, hys, hy, hstart, hstop, hzs⟩ := ih hrest
        refine ⟨x :: ys, y, zs, rfl, by simp [tokens, hk, hys], hy, ?_, hstop, hzs⟩
        rw [hstart, cover_cons, Text.size_append, Nat.add_assoc]

end Lexeme

end QueryConsole.Sql
