import QueryConsole.Proofs.Text.Lines

/-!
# The pieces between newlines

A text is cut at its newline characters into pieces, one more than there are newlines. The line of
an offset is one of them, and an offset that moves on over the whole text meets them in their order.
-/

namespace QueryConsole.Text

variable {l after : Text} {n : Nat}

theorem joinLines_splitOn (t : Text) : joinLines (t.splitOn '\n') = t :=
  List.intercalate_splitOn '\n'

theorem notMem_of_mem_splitOn {t : Text} (h : l ∈ t.splitOn '\n') : '\n' ∉ l := by
  induction t generalizing l with
  | nil =>
    obtain rfl : l = [] := List.mem_singleton.1 h
    exact List.not_mem_nil
  | cons c t ih =>
    rw [List.splitOn_cons_eq_if_modifyHead] at h
    split at h
    · rcases List.mem_cons.1 h with rfl | h
      · exact List.not_mem_nil
      · exact ih h
    · next hc =>
      obtain ⟨first, others, hpieces⟩ := List.exists_cons_of_ne_nil (List.splitOn_ne_nil '\n' t)
      rw [hpieces] at ih h
      rcases List.mem_cons.1 h with rfl | h
      · rw [List.mem_cons, not_or]
        exact ⟨fun hnewline => hc (by simp [← hnewline]), ih (by simp)⟩
      · exact ih (List.mem_cons_of_mem _ h)

/-! ### Offsets on the first line and behind it -/

theorem lineAt_of_le_size (hl : '\n' ∉ l) (hafter : ∀ c ∈ after.head?, c = '\n')
    (h : n ≤ size l) : lineAt (l ++ after) n = l := by
  have hholds : IsLine.Holds (l ++ after) [] l after n :=
    ⟨⟨rfl, by simp, hl, hafter⟩, Nat.zero_le _, (size_splitAt_le n _).trans h⟩
  exact hholds.lineAt_eq

theorem map_lineAt_first (hl : '\n' ∉ l) (hafter : ∀ c ∈ after.head?, c = '\n') :
    (List.range (size l + 1)).map (lineAt (l ++ after)) = List.replicate (size l + 1) l := by
  rw [List.eq_replicate_iff, List.length_map, List.length_range]
  refine ⟨rfl, fun line hline => ?_⟩
  obtain ⟨n, hn, rfl⟩ := List.mem_map.1 hline
  exact lineAt_of_le_size hl hafter (Nat.le_of_lt_succ (List.mem_range.1 hn))

theorem size_append_newline (front t : Text) :
    size (front ++ '\n' :: t) = size front + 1 + size t := by
  rw [size_append, size_cons, ← Nat.add_assoc]
  rfl

/-- A line stays what it is when lines are put before it. -/
theorem IsLine.Holds.behind_newline {t before line : Text}
    (h : IsLine.Holds t before line after n) (front : Text) :
    IsLine.Holds (front ++ '\n' :: t) (front ++ '\n' :: before) line after (size front + 1 + n) := by
  have hplace : placeAt (front ++ '\n' :: t) (size front + 1 + n) =
      size front + 1 + placeAt t n := by
    have hadd := placeAt_size_add (front ++ ['\n']) t n
    rwa [List.append_assoc, size_append] at hadd
  obtain ⟨⟨ht, hbefore, hline, hafter⟩, hle, hle'⟩ := h
  refine ⟨⟨by simp [ht], ?_, hline, hafter⟩, ?_, ?_⟩
  · intro c hc
    obtain rfl | ⟨init, d, rfl⟩ := List.eq_nil_or_concat before
    · simpa [eq_comm] using hc
    · exact hbefore c (by simpa [List.getLast?_cons] using hc)
  · rw [hplace, size_append_newline]
    exact Nat.add_le_add_left hle _
  · rw [hplace, List.append_assoc, List.cons_append, size_append_newline]
    exact Nat.add_le_add_left hle' _

theorem lineAt_behind_newline (front t : Text) (n : Nat) :
    lineAt (front ++ '\n' :: t) (size front + 1 + n) = lineAt t n := by
  obtain ⟨before, after, hholds, -⟩ := exists_lineAt t n
  exact (hholds.behind_newline front).lineAt_eq

/-! ### All offsets -/

/-- Joined lines are met one after another, each of them once for every offset on it. -/
theorem map_lineAt_joinLines {ls : List Text} (hne : ls ≠ []) (h : ∀ l ∈ ls, '\n' ∉ l) :
    (List.range (size (joinLines ls) + 1)).map (lineAt (joinLines ls)) =
      ls.flatMap fun l => List.replicate (size l + 1) l := by
  induction ls with
  | nil => exact absurd rfl hne
  | cons l ls ih =>
    have hl : '\n' ∉ l := h l (by simp)
    by_cases hls : ls = []
    · have hend : ∀ c ∈ ([] : Text).head?, c = '\n' := by simp
      have hfirst := map_lineAt_first hl hend
      rw [List.append_nil] at hfirst
      rw [hls, joinLines_singleton, hfirst, List.flatMap_singleton]
    · have hrest := ih hls fun m hm => h m (List.mem_cons_of_mem _ hm)
      have hsize : size (l ++ '\n' :: joinLines ls) + 1 =
          (size l + 1) + (size (joinLines ls) + 1) := by
        rw [size_append_newline, Nat.add_assoc]
      have hbehind : lineAt (l ++ '\n' :: joinLines ls) ∘ (size l + 1 + ·) =
          lineAt (joinLines ls) := funext fun n => lineAt_behind_newline l (joinLines ls) n
      rw [joinLines_cons l hls, hsize, List.range_add, List.map_append, List.map_map, hbehind,
        hrest, map_lineAt_first hl (by simp), List.flatMap_cons]

theorem map_lineAt_range (t : Text) :
    (List.range (size t + 1)).map (lineAt t) =
      (t.splitOn '\n').flatMap fun line => List.replicate (size line + 1) line := by
  have hmap := map_lineAt_joinLines (List.splitOn_ne_nil '\n' t) fun _ => notMem_of_mem_splitOn
  rwa [joinLines_splitOn] at hmap

theorem exists_lineAt_eq_iff {t line : Text} :
    (∃ n, lineAt t n = line) ↔ line ∈ t.splitOn '\n' := by
  -- an offset behind the end meets what its place does
  have hrange : (∃ n, lineAt t n = line) ↔ line ∈ (List.range (size t + 1)).map (lineAt t) := by
    rw [List.mem_map]
    constructor
    · rintro ⟨n, hn⟩
      refine ⟨placeAt t n, List.mem_range.2 (Nat.lt_succ_of_le (isPlace_placeAt t n).le_size), ?_⟩
      rw [lineAt_placeAt, hn]
    · rintro ⟨n, -, hn⟩
      exact ⟨n, hn⟩
  rw [hrange, map_lineAt_range]
  simp [List.mem_flatMap, List.mem_replicate]

/-- Whatever the offset, its line is the whole line that stands around the last place which is
neither behind the offset nor behind the text. These lines are the pieces between newlines, and over
all offsets in the text each piece is met in its turn, once for every offset on it. -/
theorem lineAt_isWholeLine (t : Text) :
    (∀ n, ∃ c before after, IsGreatest {p | IsPlace t p ∧ p ≤ min n (size t)} c ∧
      IsLine t before (lineAt t n) after ∧
      size before ≤ c ∧ c ≤ size before + size (lineAt t n)) ∧
    (∀ line, (∃ n, lineAt t n = line) ↔ line ∈ t.splitOn '\n') ∧
    (List.range (size t + 1)).map (lineAt t) =
      (t.splitOn '\n').flatMap fun line => List.replicate (size line + 1) line := by
  refine ⟨fun n => ?_, fun line => exists_lineAt_eq_iff, map_lineAt_range t⟩
  obtain ⟨before, after, hholds, -⟩ := exists_lineAt t n
  refine ⟨placeAt t n, before, after, isGreatest_placeAt_min t n, hholds.toIsLine,
    hholds.size_le, ?_⟩
  rw [← size_append]
  exact hholds.le_size

/-- Both bytes of the first character are on the first line, and an end after a newline is a line of
its own. -/
example : (List.range 6).map (lineAt "é\nx\n".toList) =
    ["é".toList, "é".toList, "é".toList, "x".toList, "x".toList, []] := by decide

end QueryConsole.Text
