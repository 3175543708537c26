import Mathlib.Data.List.Induction
import QueryConsole.Text.Extent

/-!
# Bodies of literals

What may stand between the delimiters of a literal, said without a scan. A body with a single
closing delimiter is a text with each such delimiter doubled. A body with a pair for its closing
delimiter does not hold that pair. Every input either begins with a body and its closing delimiter
or is a body that is left open, and the scan finds out which.
-/

namespace QueryConsole.Extent

variable {α : Type} [DecidableEq α] {p q : α}

/-! ## Single delimiters -/

@[simp] theorem double_nil (q : α) : double q [] = [] := rfl

@[simp] theorem double_cons_self (q : α) (l : List α) :
    double q (q :: l) = q :: q :: double q l := by
  simp [double]

theorem double_cons_of_ne {a : α} (h : a ≠ q) (l : List α) :
    double q (a :: l) = a :: double q l := by
  simp [double, h]

theorem double_append (q : α) (l m : List α) : double q (l ++ m) = double q l ++ double q m := by
  simp [double]

theorem double_of_notMem {l : List α} (h : q ∉ l) : double q l = l := by
  induction l with
  | nil => rfl
  | cons a l ih =>
    rw [List.mem_cons, not_or] at h
    rw [double_cons_of_ne (Ne.symm h.1), ih h.2]

theorem length_le_length_double (q : α) (l : List α) : l.length ≤ (double q l).length := by
  induction l with
  | nil => apply Nat.le_refl
  | cons a l ih =>
    by_cases ha : a = q
    · subst ha
      rw [double_cons_self, List.length_cons, List.length_cons, List.length_cons]
      omega
    · rw [double_cons_of_ne ha, List.length_cons, List.length_cons]
      omega

theorem toSingle_cons_of_ne {a : α} (h : a ≠ q) (l : List α) :
    toSingle q (a :: l) = (toSingle q l).cons a := by
  cases l with
  | nil => simp [toSingle, cons, h]
  | cons b l => rw [toSingle, if_neg h]

@[simp] theorem toSingle_cons_cons (q : α) (l : List α) :
    toSingle q (q :: q :: l) = ((toSingle q l).cons q).cons q := by
  rw [toSingle, if_pos rfl, if_pos rfl]

theorem toSingle_close {rest : List α} (h : rest.head? ≠ some q) :
    toSingle q (q :: rest) = ⟨[q], rest, true⟩ := by
  cases rest with
  | nil => simp [toSingle]
  | cons b l =>
    have hb : b ≠ q := by simpa using h
    rw [toSingle, if_pos rfl, if_neg hb]

/-- A body ends at the first delimiter that is not doubled. -/
theorem toSingle_double_append (b : List α) {rest : List α} (h : rest.head? ≠ some q) :
    toSingle q (double q b ++ q :: rest) = ⟨double q b ++ [q], rest, true⟩ := by
  induction b with
  | nil => exact toSingle_close h
  | cons a b ih =>
    by_cases ha : a = q
    · subst ha
      simp [ih, cons]
    · simp [double_cons_of_ne ha, toSingle_cons_of_ne ha, ih, cons]

theorem toSingle_double (q : α) (b : List α) :
    toSingle q (double q b) = ⟨double q b, [], false⟩ := by
  induction b with
  | nil => rfl
  | cons a b ih =>
    by_cases ha : a = q
    · subst ha
      simp [ih, cons]
    · simp [double_cons_of_ne ha, toSingle_cons_of_ne ha, ih, cons]

/-- Every input is a body, or begins with one and its closing delimiter. -/
theorem eq_double_or_append (q : α) (l : List α) :
    (∃ b, l = double q b) ∨ ∃ b rest, l = double q b ++ q :: rest ∧ rest.head? ≠ some q := by
  fun_induction toSingle q l with
  | case1 => exact .inl ⟨[], rfl⟩
  | case2 a =>
    by_cases ha : a = q
    · exact .inr ⟨[], [], by simp [ha]⟩
    · exact .inl ⟨[a], by simp [double_cons_of_ne ha]⟩
  | case3 l ih =>
    rcases ih with ⟨s, rfl⟩ | ⟨s, rest, rfl, hr⟩
    · exact .inl ⟨q :: s, by simp⟩
    · exact .inr ⟨q :: s, rest, by simp, hr⟩
  | case4 b l hb => exact .inr ⟨[], b :: l, rfl, by simpa using hb⟩
  | case5 a b l ha ih =>
    rcases ih with ⟨s, hs⟩ | ⟨s, rest, hs, hr⟩
    · exact .inl ⟨a :: s, by rw [hs, double_cons_of_ne ha]⟩
    · exact .inr ⟨a :: s, rest, by rw [hs, double_cons_of_ne ha, List.cons_append], hr⟩

/-- Behind a closed literal there is no delimiter. -/
theorem head?_rest_toSingle_ne {l : List α} (h : (toSingle q l).closed = true) :
    (toSingle q l).rest.head? ≠ some q := by
  obtain ⟨b, rfl⟩ | ⟨b, rest, rfl, hrest⟩ := eq_double_or_append q l
  · rw [toSingle_double] at h
    cases h
  · rw [toSingle_double_append b hrest]
    exact hrest

/-- Whether a literal is closed is known from its first character behind the closing delimiter. -/
theorem toSingle_taken_append {l rest : List α} (h : (toSingle q l).closed = true)
    (hrest : rest.head? ≠ some q) :
    toSingle q ((toSingle q l).taken ++ rest) = ⟨(toSingle q l).taken, rest, true⟩ := by
  obtain ⟨b, rfl⟩ | ⟨b, back, rfl, hback⟩ := eq_double_or_append q l
  · rw [toSingle_double] at h
    cases h
  · rw [toSingle_double_append b hback, List.append_assoc]
    exact toSingle_double_append b hrest

/-- Making doubled delimiters single undoes the doubling. -/
theorem undouble_double (q : α) (l : List α) : undouble q (double q l) = l := by
  induction l with
  | nil => rfl
  | cons a l ih =>
    by_cases ha : a = q
    · subst ha
      simp [undouble, ih]
    · rw [double_cons_of_ne ha]
      cases h : double q l with
      | nil =>
        rw [h] at ih
        simp [undouble, ← ih]
      | cons b m =>
        rw [h] at ih
        simp [undouble, ha, ih]

/-! ### Rows of delimiters -/

/-- Each maximal row of `q` in the list has even length. -/
def EvenRuns (q : α) (l : List α) : Prop :=
  ∀ a n b, l = a ++ List.replicate n q ++ b → a.getLast? ≠ some q → b.head? ≠ some q → n % 2 = 0

omit [DecidableEq α] in
theorem evenRuns_nil (q : α) : EvenRuns q [] := by
  intro a n b h _ _
  simp_all

omit [DecidableEq α] in
theorem EvenRuns.cons_of_ne {a : α} {l : List α} (h : EvenRuns q l) (ha : a ≠ q) :
    EvenRuns q (a :: l) := by
  intro s n t heq hs ht
  cases s with
  | nil =>
    cases n with
    | zero => rfl
    | succ n => exact absurd (List.cons.inj heq).1 ha
  | cons b s =>
    refine h s n t (List.cons.inj heq).2 ?_ ht
    intro hlast
    exact hs (by rw [List.getLast?_cons, hlast]; rfl)

omit [DecidableEq α] in
theorem EvenRuns.cons_cons {l : List α} (h : EvenRuns q l) : EvenRuns q (q :: q :: l) := by
  intro s n t heq hs ht
  cases s with
  | nil =>
    match n with
    | 0 => rfl
    | 1 =>
      obtain rfl := (List.cons.inj heq).2
      exact absurd rfl ht
    | n + 2 =>
      have hl : l = [] ++ List.replicate n q ++ t := (List.cons.inj (List.cons.inj heq).2).2
      rw [Nat.add_mod_right]
      exact h [] n t hl (by simp) ht
  | cons b s =>
    cases s with
    | nil => exact absurd (by rw [(List.cons.inj heq).1]; rfl) hs
    | cons c s =>
      refine h s n t (List.cons.inj (List.cons.inj heq).2).2 ?_ ht
      intro hlast
      exact hs (by rw [List.getLast?_cons_cons, List.getLast?_cons, hlast]; rfl)

theorem evenRuns_double (q : α) (b : List α) : EvenRuns q (double q b) := by
  induction b with
  | nil => exact evenRuns_nil q
  | cons a b ih =>
    by_cases ha : a = q
    · rw [ha, double_cons_self]
      exact ih.cons_cons
    · rw [double_cons_of_ne ha]
      exact ih.cons_of_ne ha

/-- A body that is left open has its delimiter in even rows only. -/
theorem evenRuns_of_open {l : List α} (h : (toSingle q l).closed = false) : EvenRuns q l := by
  obtain ⟨b, rfl⟩ | ⟨b, rest, rfl, hrest⟩ := eq_double_or_append q l
  · exact evenRuns_double q b
  · rw [toSingle_double_append b hrest] at h
    cases h

/-- In the list stands a maximal row of `n` symbols `q`, between `a` and `b`. -/
structure IsRow (q : α) (l a : List α) (n : Nat) (b : List α) : Prop where
  eq_append : l = a ++ List.replicate n q ++ b
  before_ne : a.getLast? ≠ some q
  behind_ne : b.head? ≠ some q

omit [DecidableEq α] in
theorem EvenRuns.of_append_replicate {a : List α} {n : Nat}
    (h : EvenRuns q (a ++ List.replicate n q)) (ha : a.getLast? ≠ some q) :
    EvenRuns q a ∧ n % 2 = 0 := by
  refine ⟨?_, h a n [] (by simp) ha (by simp)⟩
  intro s k t heq hs ht
  cases t with
  | nil =>
    -- a row at the end of `a` is empty
    cases k with
    | zero => rfl
    | succ k => exact absurd (by simp [heq, List.replicate_succ']) ha
  | cons b t => exact h s k (b :: t ++ List.replicate n q) (by simp [heq]) hs (by simpa using ht)

theorem exists_append_replicate (q : α) (l : List α) :
    ∃ a n, l = a ++ List.replicate n q ∧ a.getLast? ≠ some q := by
  induction l using List.reverseRecOn with
  | nil => exact ⟨[], 0, rfl, by simp⟩
  | append_singleton l b ih =>
    by_cases hb : b = q
    · obtain ⟨a, n, rfl, ha⟩ := ih
      exact ⟨a, n + 1, by rw [hb, List.replicate_succ', List.append_assoc], ha⟩
    · exact ⟨l ++ [b], 0, by simp, by simpa using hb⟩

/-- A closed literal ends with the first row of delimiters that has odd length. -/
theorem exists_isRow_of_closed {l : List α} (h : (toSingle q l).closed = true) :
    ∃ a n, IsRow q l a n (toSingle q l).rest ∧ n % 2 = 1 ∧ EvenRuns q a ∧
      (toSingle q l).taken = a ++ List.replicate n q := by
  obtain ⟨b, rfl⟩ | ⟨b, rest, rfl, hrest⟩ := eq_double_or_append q l
  · rw [toSingle_double] at h
    cases h
  · obtain ⟨a, n, hb, ha⟩ := exists_append_replicate q (double q b)
    obtain ⟨heven, hn⟩ := EvenRuns.of_append_replicate (hb ▸ evenRuns_double q b) ha
    rw [toSingle_double_append b hrest, hb]
    refine ⟨a, n + 1, ⟨?_, ha, hrest⟩, by omega, heven, ?_⟩
    · simp [List.replicate_succ']
    · simp [List.replicate_succ']

theorem closed_toSingle_iff {l : List α} :
    (toSingle q l).closed = true ↔ ∃ a n b, IsRow q l a n b ∧ n % 2 = 1 := by
  constructor
  · intro h
    obtain ⟨a, n, hrow, hn, -, -⟩ := exists_isRow_of_closed h
    exact ⟨a, n, _, hrow, hn⟩
  · rintro ⟨a, n, b, ⟨heq, ha, hb⟩, hn⟩
    cases hopen : (toSingle q l).closed with
    | true => rfl
    | false =>
      have heven := evenRuns_of_open hopen a n b heq ha hb
      omega

/-! ## Pairs of delimiters -/

omit [DecidableEq α] in
theorem pair_infix_cons_iff {a : α} {l : List α} :
    [p, q] <:+: a :: l ↔ (a = p ∧ l.head? = some q) ∨ [p, q] <:+: l := by
  rw [List.infix_cons_iff, List.cons_prefix_cons]
  cases l with
  | nil => simp
  | cons b l => simp [List.cons_prefix_cons, eq_comm]

omit [DecidableEq α] in
theorem not_pair_infix_append {b w : List α} (hb : ¬[p, q] <:+: b) (hw : q ∉ w) :
    ¬[p, q] <:+: b ++ w := by
  induction b with
  | nil =>
    intro h
    exact hw (h.subset (by simp))
  | cons a b ih =>
    rw [pair_infix_cons_iff, not_or] at hb
    rw [List.cons_append, pair_infix_cons_iff, not_or]
    refine ⟨?_, ih hb.2⟩
    rintro ⟨rfl, hhead⟩
    cases b with
    | nil => exact hw (List.mem_of_mem_head? hhead)
    | cons c b => exact hb.1 ⟨rfl, hhead⟩

omit [DecidableEq α] in
/-- A body can meet its closing pair only if the two delimiters are the same symbol. -/
theorem not_pair_infix_concat {b : List α} (hb : ¬[p, q] <:+: b) :
    ¬[p, q] <:+: b ++ [p] ∨ ∃ s, b = s ++ [p] ∧ p = q := by
  by_cases h : [p, q] <:+: b ++ [p]
  · rcases List.infix_concat_iff.1 h with ⟨s, hs⟩ | h
    · have hs' : (s ++ [p]) ++ [q] = b ++ [p] := by simpa using hs
      obtain ⟨rfl, hq⟩ := List.append_inj' hs' rfl
      exact .inr ⟨s, rfl, (List.singleton_inj.1 hq).symm⟩
    · exact absurd h hb
  · exact .inl h

theorem toPair_cons {a : α} {l : List α} (h : ¬(a = p ∧ l.head? = some q)) :
    toPair p q (a :: l) = (toPair p q l).cons a := by
  cases l with
  | nil => rfl
  | cons b l => rw [toPair, if_neg (by simpa using h)]

/-- A body ends at the first occurrence of the pair. -/
theorem toPair_append {b : List α} (h : ¬[p, q] <:+: b ++ [p]) (rest : List α) :
    toPair p q (b ++ p :: q :: rest) = ⟨b ++ [p, q], rest, true⟩ := by
  induction b with
  | nil => simp [toPair]
  | cons a b ih =>
    rw [List.cons_append, pair_infix_cons_iff, not_or] at h
    have hhead : ¬(a = p ∧ (b ++ p :: q :: rest).head? = some q) := by
      simpa [List.head?_append] using h.1
    rw [List.cons_append, toPair_cons hhead, ih h.2]
    rfl

theorem toPair_of_not_infix {b : List α} (h : ¬[p, q] <:+: b) :
    toPair p q b = ⟨b, [], false⟩ := by
  induction b with
  | nil => rfl
  | cons a b ih =>
    rw [pair_infix_cons_iff, not_or] at h
    rw [toPair_cons h.1, ih h.2]
    rfl

/-- Every input is free of the pair, or begins with a body and the pair. -/
theorem not_infix_or_append (p q : α) (l : List α) :
    ¬[p, q] <:+: l ∨ ∃ b rest, l = b ++ p :: q :: rest ∧ ¬[p, q] <:+: b ++ [p] := by
  induction l with
  | nil => exact .inl (by simp)
  | cons a l ih =>
    by_cases ha : a = p ∧ l.head? = some q
    · obtain ⟨rfl, hl⟩ := ha
      obtain ⟨m, rfl⟩ := List.head?_eq_some_iff.1 hl
      exact .inr ⟨[], m, rfl, by simp [pair_infix_cons_iff]⟩
    · rcases ih with hl | ⟨b, rest, rfl, hb⟩
      · exact .inl (by simp [pair_infix_cons_iff, ha, hl])
      · refine .inr ⟨a :: b, rest, rfl, ?_⟩
        rw [List.cons_append, pair_infix_cons_iff, not_or]
        exact ⟨by simpa [List.head?_append] using ha, hb⟩

end QueryConsole.Extent
