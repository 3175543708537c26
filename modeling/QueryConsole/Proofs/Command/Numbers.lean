import Mathlib.Data.List.Induction
import Mathlib.Data.Nat.Digits.Defs
import QueryConsole.Proofs.Command.Values

/-!
# Numbers in redirections

A redirection may end with a number, of a descriptor or of a session. All digits at hand belong to
it, however many there are. If their value does not fit into 32 bits, the redirection is a fault at
the first digit, and the digits are taken nevertheless.
-/

namespace QueryConsole.Command

/-- The number that decimal digits denote. -/
def decimal (ds : Text) : Nat := Nat.ofDigits 10 (ds.reverse.map fun d => d.toNat - '0'.toNat)

theorem decimal_concat (ds : Text) (d : Char) :
    decimal (ds ++ [d]) = 10 * decimal ds + (d.toNat - '0'.toNat) := by
  rw [decimal, List.reverse_concat, List.map_cons, Nat.ofDigits_cons, Nat.add_comm]
  rfl

theorem ofDigits_eq_decimal (ds : Text) : ofDigits ds = decimal ds := by
  induction ds using List.reverseRecOn with
  | nil => rfl
  | append_singleton ds d ih =>
    rw [decimal_concat, ← ih, ofDigits, List.foldl_append]
    rfl

namespace Scanner

variable {s : Scanner} {what : Numbered} {c : Char} {front ds rest t : Text}

/-- What the next call gives for a token that consists of the text `front` and the digits `ds`: the
token with their value, or the fault at the first digit. The cursor is left behind the last. -/
structure ReadsNumber (s : Scanner) (what : Numbered) (kind : UInt32 → Token.Kind)
    (front ds rest : Text) : Prop where
  fits : decimal ds < 2 ^ 32 → ∃ n : UInt32, n.toNat = decimal ds ∧
    s.next.1 = some (.ok ⟨kind n, some s.cursor.skipBlanks.offset, s.line⟩)
  overflows : 2 ^ 32 ≤ decimal ds →
    s.next.1 = some (.error ⟨.malformedRedirect, (Cause.outOfRange what).message,
      s.cursor.skipBlanks.offset + Text.size front, s.line⟩)
  cursor : s.next.2.cursor = s.cursor.skipBlanks.advance (front ++ ds) rest

theorem readsNumber_of_readsRaw (raw : UInt32 → RawToken) {kind : UInt32 → Token.Kind}
    (hf : s.finished = false) (hds : Run.Maximal Char.isDigit ds rest)
    (hread : ReadsRaw s.options (!s.started) s.cursor.skipBlanks
      ((readNumber what (s.cursor.skipBlanks.advance front (ds ++ rest))).map raw))
    (hraw : ∀ n, (raw n).resolve s.options = .ok (kind n)) :
    s.ReadsNumber what kind front ds rest := by
  obtain ⟨c, t, hk, -, hread⟩ := hread
  rw [readNumber_of_maximal what hds rfl, ofDigits_eq_decimal, Cursor.advance_advance] at hread
  by_cases hsize : decimal ds < UInt32.size
  · rw [if_pos hsize] at hread
    have hnext := next_of_resolve_ok hf hk hread (hraw _)
    have hvalue : (UInt32.ofNat (decimal ds)).toNat = decimal ds := UInt32.toNat_ofNat_of_lt hsize
    exact ⟨fun _ => ⟨_, hvalue, by rw [hnext]⟩, fun hover => absurd hsize (Nat.not_lt.2 hover),
      by rw [hnext]⟩
  · rw [if_neg hsize] at hread
    have hnext := next_of_error hf hk hread
    exact ⟨fun hfits => absurd hfits hsize, fun _ => by rw [hnext]; rfl, by rw [hnext]; rfl⟩

theorem next_of_sessionDescriptor {fd : Fd} {append : Bool} {back : Text} (hf : s.finished = false)
    (ho : s.options.AdmitsRedirect (some fd))
    (hk : s.cursor.skipBlanks.rest = digits fd ++ arrow append ++ '+' :: back) :
    s.next.1 = some (.error ⟨.malformedRedirect, Cause.sessionDescriptor.message,
      s.cursor.skipBlanks.offset + Text.size (digits fd), s.line⟩) := by
  have hk' : s.cursor.skipBlanks.rest =
      descriptorText (some fd) ++ '>' :: ((arrow append).tail ++ '+' :: back) := by
    rw [hk, arrow_eq_cons, List.append_assoc]
    rfl
  obtain ⟨c, t, hct, -, hread⟩ := readsRaw_redirect (!s.started) ho hk'
  rw [readRedirect_session append rfl, readSession, Option.isSome_some, if_pos rfl] at hread
  rw [next_of_error hf hct hread]
  rfl

/-- Numbers of redirections are read exactly or rejected at their first digit, and no digit of them
is left to the next token. A session redirection that names a descriptor is rejected at its arrow,
whatever follows. -/
theorem readsNumber (s : Scanner) (hf : s.finished = false)
    (hterminator : ∀ c ∈ s.options.terminator, c.isDigit = false ∧ c ∉ ['>', '&', '+']) :
    (∀ (fd : Option Fd) (blanks ds rest : Text), (∀ b ∈ blanks, Text.isBlank b = true) →
      ds ≠ [] → Run.Maximal Char.isDigit ds rest →
      s.cursor.skipBlanks.rest = descriptorText fd ++ ['>', '&'] ++ blanks ++ ds ++ rest →
      s.ReadsNumber .descriptor (.duplicate (fd.getD Fd.stdout))
        (descriptorText fd ++ ['>', '&'] ++ blanks) ds rest) ∧
    (∀ (append : Bool) (ds rest : Text), Run.Maximal Char.isDigit ds rest →
      s.cursor.skipBlanks.rest = arrow append ++ '+' :: ds ++ rest →
      s.ReadsNumber .session (fun n => .session (if n = 0 then none else some n) append)
        (arrow append ++ ['+']) ds rest) ∧
    ∀ (fd : Fd) (append : Bool) (back : Text),
      s.cursor.skipBlanks.rest = digits fd ++ arrow append ++ '+' :: back →
      s.next.1 = some (.error ⟨.malformedRedirect, Cause.sessionDescriptor.message,
        s.cursor.skipBlanks.offset + Text.size (digits fd), s.line⟩) := by
  have hadmits := admitsRedirect_of_notMem fun c hc =>
    (hterminator c hc).imp_right (List.ne_of_not_mem_cons)
  refine ⟨?_, ?_, ?_⟩
  · intro fd blanks ds rest hblanks hne hds hk
    have hread := readsRaw_duplicate (!s.started) (hadmits fd) hblanks hne hds hk
    exact readsNumber_of_readsRaw _ hf hds hread fun _ => rfl
  · intro append ds rest hds hk
    have hread := readsRaw_session (!s.started) (hadmits none) hds hk
    exact readsNumber_of_readsRaw _ hf hds hread fun _ => rfl
  · intro fd append back hk
    exact next_of_sessionDescriptor hf (hadmits _) hk

theorem readsNumber_leading_zeros :
    ∃ s : Scanner, s.options.terminator = some ';' ∧ s.line = "2>& 007;".toList ∧
      s.finished = false ∧
      (∀ c ∈ s.options.terminator, c.isDigit = false ∧ c ∉ ['>', '&', '+']) ∧
      s.ReadsNumber .descriptor (.duplicate 2) "2>& ".toList "007".toList [';'] ∧
      decimal "007".toList = 7 := by
  let s := ofLine { terminator := some ';' } "2>& 007;".toList
  have hterminator : ∀ c ∈ s.options.terminator, c.isDigit = false ∧ c ∉ ['>', '&', '+'] := by
    rintro c ⟨⟩
    decide
  have hblanks : ∀ b ∈ [' '], Text.isBlank b = true := List.forall_mem_singleton.2 (by decide)
  have hds : Run.Maximal Char.isDigit "007".toList [';'] := by
    refine ⟨List.all_eq_true.1 (by decide), ?_⟩
    rintro c ⟨⟩
    decide
  have hk : s.cursor.skipBlanks.rest =
      descriptorText (some 2) ++ ['>', '&'] ++ [' '] ++ "007".toList ++ [';'] := by decide
  exact ⟨s, rfl, rfl, rfl, hterminator,
    (readsNumber s rfl hterminator).1 (some 2) [' '] _ _ hblanks (by decide) hds hk, by decide⟩

end Scanner

end QueryConsole.Command
