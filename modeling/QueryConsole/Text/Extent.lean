/-!
# How far a literal reaches

After its opening delimiter a literal runs up to its closing one, or to the end of the input when
that is missing. The closing delimiter is either a single symbol, which stands for itself when it
is doubled, or a pair of symbols.
-/

namespace QueryConsole

/-- What a literal takes of the input, its closing delimiter included, and what it leaves. -/
structure Extent (α : Type) where
  taken : List α
  rest : List α
  closed : Bool
deriving DecidableEq, Repr

namespace Extent

variable {α : Type}

/-- The extent with one more symbol in front. -/
def cons (a : α) (e : Extent α) : Extent α := { e with taken := a :: e.taken }

@[simp] theorem taken_cons (a : α) (e : Extent α) : (e.cons a).taken = a :: e.taken := rfl

@[simp] theorem rest_cons (a : α) (e : Extent α) : (e.cons a).rest = e.rest := rfl

@[simp] theorem closed_cons (a : α) (e : Extent α) : (e.cons a).closed = e.closed := rfl

variable [DecidableEq α]

/-- Up to the first `q` that is not doubled. -/
def toSingle (q : α) : List α → Extent α
  | [] => ⟨[], [], false⟩
  | [a] => ⟨[a], [], a = q⟩
  | a :: b :: l =>
    if a = q then
      if b = q then ((toSingle q l).cons b).cons a else ⟨[a], b :: l, true⟩
    else (toSingle q (b :: l)).cons a

/-- Up to the first `p` that is directly followed by `q`. -/
def toPair (p q : α) : List α → Extent α
  | [] => ⟨[], [], false⟩
  | [a] => ⟨[a], [], false⟩
  | a :: b :: l => if a = p ∧ b = q then ⟨[a, b], l, true⟩ else (toPair p q (b :: l)).cons a

theorem taken_append_rest_toSingle (q : α) (l : List α) :
    (toSingle q l).taken ++ (toSingle q l).rest = l := by
  fun_induction toSingle q l <;> simp_all

theorem taken_append_rest_toPair (p q : α) (l : List α) :
    (toPair p q l).taken ++ (toPair p q l).rest = l := by
  fun_induction toPair p q l <;> simp_all

theorem rest_toSingle_of_open {q : α} {l : List α} (h : (toSingle q l).closed = false) :
    (toSingle q l).rest = [] := by
  fun_induction toSingle q l <;> simp_all

theorem rest_toPair_of_open {p q : α} {l : List α} (h : (toPair p q l).closed = false) :
    (toPair p q l).rest = [] := by
  fun_induction toPair p q l <;> simp_all

/-- Replaces each doubled `q` by a single one. -/
def undouble (q : α) : List α → List α
  | a :: b :: l => if a = q ∧ b = q then q :: undouble q l else a :: undouble q (b :: l)
  | l => l

/-- Doubles each `q`. -/
def double (q : α) (l : List α) : List α := l.flatMap fun a => if a = q then [a, a] else [a]

end Extent

end QueryConsole
