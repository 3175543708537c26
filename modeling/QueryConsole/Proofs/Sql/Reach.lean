import QueryConsole.Proofs.Text.Bytes
import QueryConsole.Proofs.Text.Places
import QueryConsole.Sql.Reach

/-!
# Where a quoted construct ends

A quoted construct and a bracketed identifier are scanned byte by byte, and a delimiter that is
doubled does not close them. They end with the first row of delimiters that has odd length: all but
the last delimiter of the row are doubled. Since the delimiter is an ASCII character, the scan stops
between two characters.
-/

namespace QueryConsole.Sql.Reach

open Extent (IsRow EvenRuns double undouble toSingle)
open Text (IsAscii IsPlace bytes size)

/-- Behind `start` the first row of delimiters `q` that has odd length closes the construct. Without
one it is left open at the end of the text. What stands before the closing delimiter is a body in
which all delimiters are doubled. -/
structure EndsAtOddRow (q : Char) (t : Text) (start : Nat) (r : Reach) : Prop where
  closed_iff : r.closed = true ↔
    ∃ a n b, IsRow q.toUInt8 ((bytes t).drop (start + 1)) a n b ∧ n % 2 = 1
  exists_first_row : r.closed = true → ∃ a n b, IsRow q.toUInt8 ((bytes t).drop (start + 1)) a n b ∧
    n % 2 = 1 ∧ EvenRuns q.toUInt8 a ∧ r.stop = start + 1 + a.length + n
  stop_of_open : r.closed = false → r.stop = size t
  isPlace : IsPlace t r.stop
  exists_body : ∀ front c back, t = front ++ c :: back → size front = start → IsAscii c →
    r.closed = true → ∃ body rest, back = body ++ q :: rest ∧
      r.stop = size (front ++ c :: body ++ [q]) ∧ double q (undouble q body) = body

section Scan

variable {q : Char} {t : Text} {start : Nat}

theorem drop_bytes_append {front back : Text} {c : Char} (hc : IsAscii c) :
    (bytes (front ++ c :: back)).drop (size front + 1) = bytes back := by
  rw [Text.bytes_append, Text.bytes_cons, Text.utf8EncodeChar_of_isAscii hc, ← List.append_assoc]
  apply List.drop_left'
  rw [List.length_append, Text.length_bytes, List.length_singleton]

/-- Behind the delimiter that closes the construct the text can be cut. -/
theorem isPlace_of_closed (hq : IsAscii q)
    (h : (toSingle q.toUInt8 ((bytes t).drop (start + 1))).closed = true) :
    IsPlace t (start + 1 + (toSingle q.toUInt8 ((bytes t).drop (start + 1))).taken.length) := by
  obtain ⟨a, n, -, hn, -, htaken⟩ := Extent.exists_isRow_of_closed h
  obtain ⟨k, rfl⟩ : ∃ k, n = k + 1 := ⟨n - 1, by omega⟩
  have happend := Extent.taken_append_rest_toSingle q.toUInt8 ((bytes t).drop (start + 1))
  rw [htaken, List.replicate_succ', ← List.append_assoc, List.append_assoc,
    List.singleton_append] at happend
  have hbytes := List.take_append_drop (start + 1) (bytes t)
  rw [← happend, ← List.append_assoc] at hbytes
  obtain ⟨front, back, rfl, hfront, -⟩ := Text.exists_of_bytes_eq hq hbytes.symm
  refine Text.isPlace_iff.2 ⟨front ++ [q], back, by simp, ?_⟩
  have hlength := congrArg List.length hfront
  have hdrop := congrArg List.length happend
  simp only [List.length_append, List.length_take, List.length_drop, List.length_cons,
    List.length_replicate, Text.length_bytes] at hlength hdrop
  rw [htaken, List.length_append, List.length_replicate, Text.size_append, Text.size_cons,
    Text.size_nil, Text.utf8Size_of_isAscii hq, hlength]
  omega

theorem exists_body_of_closed (hq : IsAscii q) {front back : Text} {c : Char} (hc : IsAscii c)
    (h : (toSingle q.toUInt8 ((bytes (front ++ c :: back)).drop (size front + 1))).closed = true) :
    ∃ body rest, back = body ++ q :: rest ∧
      size front + 1 + (toSingle q.toUInt8 ((bytes (front ++ c :: back)).drop
        (size front + 1))).taken.length = size (front ++ c :: body ++ [q]) ∧
      double q (undouble q body) = body := by
  rw [drop_bytes_append hc, Text.toSingle_bytes hq] at h ⊢
  dsimp only at h ⊢
  obtain ⟨b, rfl⟩ | ⟨b, rest, rfl, hrest⟩ := Extent.eq_double_or_append q back
  · rw [Extent.toSingle_double] at h
    cases h
  · refine ⟨double q b, rest, rfl, ?_, by rw [Extent.undouble_double]⟩
    rw [Extent.toSingle_double_append b hrest, Text.length_bytes]
    simp only [Text.size_append, Text.size_cons, Text.utf8Size_of_isAscii hc]
    omega

/-- What the scan for the delimiter `q` behind `start` finds. -/
theorem endsAtOddRow_scan (hq : IsAscii q) {r : Reach}
    (hclosed : r.closed = (toSingle q.toUInt8 ((bytes t).drop (start + 1))).closed)
    (hstop : r.closed = true →
      r.stop = start + 1 + (toSingle q.toUInt8 ((bytes t).drop (start + 1))).taken.length)
    (hopen : r.closed = false → r.stop = size t) : r.EndsAtOddRow q t start where
  closed_iff := by rw [hclosed, Extent.closed_toSingle_iff]
  exists_first_row := by
    intro h
    obtain ⟨a, n, hrow, hn, heven, htaken⟩ := Extent.exists_isRow_of_closed (hclosed ▸ h)
    refine ⟨a, n, _, hrow, hn, heven, ?_⟩
    rw [hstop h, htaken, List.length_append, List.length_replicate]
    omega
  stop_of_open := hopen
  isPlace := by
    cases h : r.closed with
    | true =>
      rw [hstop h]
      exact isPlace_of_closed hq (hclosed ▸ h)
    | false =>
      rw [hopen h]
      exact Text.isPlace_iff.2 ⟨t, [], by simp, rfl⟩
  exists_body := by
    rintro front c back rfl rfl hc h
    rw [hstop h]
    exact exists_body_of_closed hq hc (hclosed ▸ h)

end Scan

/-- A quoted construct is scanned for the delimiter with which it begins, and a bracketed identifier
for a closing bracket. -/
theorem endsAtOddRow (t : Text) (start : Nat) :
    (∀ q, IsAscii q → (bytes t)[start]? = some q.toUInt8 →
      ∃ r, ofQuoted? t start = some r ∧ r.EndsAtOddRow q t start) ∧
    (ofBracketed t start).EndsAtOddRow ']' t start := by
  constructor
  · intro q hq hstart
    obtain ⟨hlt, hget⟩ := List.getElem?_eq_some_iff.1 hstart
    have hdrop := List.drop_eq_getElem_cons hlt
    rw [hget] at hdrop
    refine ⟨_, by rw [ofQuoted?, hdrop], endsAtOddRow_scan hq rfl (fun _ => rfl) fun h => ?_⟩
    -- an open construct takes all bytes behind its delimiter
    have htaken := Extent.taken_append_rest_toSingle q.toUInt8 ((bytes t).drop (start + 1))
    rw [Extent.rest_toSingle_of_open h, List.append_nil] at htaken
    rw [Text.length_bytes] at hlt
    dsimp only
    rw [htaken, List.length_drop, Text.length_bytes]
    omega
  · have hbracket : IsAscii ']' := by decide
    apply endsAtOddRow_scan hbracket
    · rfl
    · intro h
      exact if_pos h
    · intro h
      exact if_neg (Bool.eq_false_iff.1 h)

/-- Of five quotes in a row the first four are doubled, and the last one closes the literal. -/
theorem endsAtOddRow_five :
    IsAscii '\'' ∧ (bytes "é'a''''' z".toList)[2]? = some '\''.toUInt8 ∧
      ofQuoted? "é'a''''' z".toList 2 = some ⟨9, true⟩ ∧
      EndsAtOddRow '\'' "é'a''''' z".toList 2 ⟨9, true⟩ := by
  have hq : IsAscii '\'' := by decide
  have hstart : (bytes "é'a''''' z".toList)[2]? = some '\''.toUInt8 := by decide +kernel
  have hread : ofQuoted? "é'a''''' z".toList 2 = some ⟨9, true⟩ := by decide +kernel
  obtain ⟨r, hr, hends⟩ := (endsAtOddRow "é'a''''' z".toList 2).1 '\'' hq hstart
  obtain rfl := Option.some.inj (hread.symm.trans hr)
  exact ⟨hq, hstart, hread, hends⟩

end QueryConsole.Sql.Reach
