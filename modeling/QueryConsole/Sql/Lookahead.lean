import QueryConsole.Sql.Token

/-!
# Looking ahead in a token list

Optional keywords and parenthesised groups at the front of a token list. Whatever is found or not,
a suffix of the list is left.
-/

namespace QueryConsole.Sql

/-- The tokens behind the keyword `k`, if it comes next. -/
def dropKeyword? (k : Keyword) : List Token → Option (List Token)
  | [] => none
  | t :: ts => if t.isKeyword k then some ts else none

/-- The tokens without the keyword `k` in front of them, if it is there. -/
def dropKeyword (k : Keyword) (ts : List Token) : List Token := (dropKeyword? k ts).getD ts

/-- The keyword that comes next. -/
def nextKeyword? (ts : List Token) : Option Keyword := ts.head?.bind Token.keyword?

theorem suffix_of_dropKeyword? {k : Keyword} {ts rest : List Token}
    (h : dropKeyword? k ts = some rest) : rest <:+ ts := by
  cases ts with
  | nil => simp [dropKeyword?] at h
  | cons t ts =>
    simp only [dropKeyword?, Option.ite_none_right_eq_some, Option.some.injEq] at h
    exact h.2 ▸ List.suffix_cons t ts

theorem exists_cons_of_dropKeyword? {k : Keyword} {ts rest : List Token}
    (h : dropKeyword? k ts = some rest) : ∃ t, t.keyword? = some k ∧ ts = t :: rest := by
  cases ts with
  | nil => cases h
  | cons t ts =>
    simp only [dropKeyword?, Option.ite_none_right_eq_some, Option.some.injEq] at h
    exact ⟨t, Token.isKeyword_iff.1 h.1, by rw [h.2]⟩

theorem dropKeyword_suffix (k : Keyword) (ts : List Token) : dropKeyword k ts <:+ ts := by
  cases h : dropKeyword? k ts with
  | none => simp [dropKeyword, h]
  | some rest => simpa [dropKeyword, h] using suffix_of_dropKeyword? h

/-- Skips to the parenthesis that closes the group at hand, inside which `depth` further groups
are open. Without one everything is consumed. -/
def closeParens (depth : Nat) : List Token → Bool × List Token
  | [] => (false, [])
  | t :: ts =>
    if t.isPunct '(' then closeParens (depth + 1) ts
    else if t.isPunct ')' then
      match depth with
      | 0 => (true, ts)
      | depth + 1 => closeParens depth ts
    else closeParens depth ts

/-- Skips a parenthesised group. Tokens that do not begin with one are left as they are. -/
def skipParens : List Token → Bool × List Token
  | [] => (false, [])
  | t :: ts => if t.isPunct '(' then closeParens 0 ts else (false, t :: ts)

theorem closeParens_suffix (depth : Nat) (ts : List Token) : (closeParens depth ts).2 <:+ ts := by
  induction ts generalizing depth with
  | nil => simp [closeParens]
  | cons t ts ih =>
    have step (d : Nat) : (closeParens d ts).2 <:+ t :: ts := (ih d).trans (List.suffix_cons t ts)
    unfold closeParens
    split
    · exact step _
    · split
      · cases depth with
        | zero => exact List.suffix_cons t ts
        | succ d => exact step d
      · exact step _

theorem skipParens_suffix (ts : List Token) : (skipParens ts).2 <:+ ts := by
  cases ts with
  | nil => simp [skipParens]
  | cons t ts =>
    rw [skipParens]
    split
    · exact (closeParens_suffix 0 ts).trans (List.suffix_cons t ts)
    · exact List.suffix_refl _

end QueryConsole.Sql
