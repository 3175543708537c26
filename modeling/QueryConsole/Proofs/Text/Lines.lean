import Mathlib.Data.List.DropRight
import QueryConsole.Proofs.Text.Places
import QueryConsole.Proofs.Text.Run
import QueryConsole.Text.Blank
import QueryConsole.Text.Lines

/-!
# Where a line stands

The line that holds an offset begins at the start of the text or behind a newline character, holds
none, and ends at the end of the text or before the next one. Lines that are joined by newlines make
up a text, to which a further line is added behind a newline.
-/

namespace QueryConsole.Text

/-- The offset at which the line that holds the offset `n` begins. -/
def lineStart (t : Text) (n : Nat) : Nat :=
  size ((splitAt n t).1.reverse.dropWhile inLine).reverse

/-- The offset of the first character of that line that is not blank, or of the end of the line. -/
def contentStart (t : Text) (n : Nat) : Nat :=
  lineStart t n + size ((lineAt t n).takeWhile isBlank)

theorem lineAt_placeAt (t : Text) (n : Nat) : lineAt t (placeAt t n) = lineAt t n := by
  rw [lineAt, lineAt, splitAt_placeAt]

/-- A text is the line `line` between `before` and `after`. -/
structure IsLine (t before line after : Text) : Prop where
  eq_append : t = before ++ (line ++ after)
  before_newline : ∀ c ∈ before.getLast?, c = '\n'
  notMem : '\n' ∉ line
  after_newline : ∀ c ∈ after.head?, c = '\n'

/-- A line holds the offset `n` if the place of `n` lies in it or at one of its ends. -/
structure IsLine.Holds (t before line after : Text) (n : Nat) : Prop
    extends IsLine t before line after where
  size_le : size before ≤ placeAt t n
  le_size : placeAt t n ≤ size (before ++ line)

theorem notMem_takeWhile_inLine (l : Text) : '\n' ∉ l.takeWhile inLine := by
  intro hmem
  simpa [inLine] using List.mem_takeWhile_imp hmem

theorem head?_dropWhile_inLine (l : Text) : ∀ c ∈ (l.dropWhile inLine).head?, c = '\n' := by
  intro c hc
  simpa [inLine] using Run.head?_dropWhile inLine l c hc

theorem exists_lineAt (t : Text) (n : Nat) :
    ∃ before after, IsLine.Holds t before (lineAt t n) after n ∧ size before = lineStart t n := by
  obtain ⟨front, back, hsplit⟩ : ∃ front back, splitAt n t = (front, back) := ⟨_, _, rfl⟩
  have happend : front ++ back = t := by
    have happend := splitAt_append n t
    rwa [hsplit] at happend
  -- what stands before the offset is cut behind its last newline
  have hfront : front.rdropWhile inLine ++ front.rtakeWhile inLine = front :=
    List.rdropWhile_append_rtakeWhile
  have hline : lineAt t n = front.rtakeWhile inLine ++ back.takeWhile inLine := by
    rw [lineAt, hsplit]
    rfl
  have hplace : placeAt t n = size (front.rdropWhile inLine ++ front.rtakeWhile inLine) := by
    rw [placeAt, hsplit, hfront]
  refine ⟨front.rdropWhile inLine, back.dropWhile inLine,
    ⟨⟨?_, ?_, ?_, head?_dropWhile_inLine back⟩, ?_, ?_⟩, ?_⟩
  · calc t = front ++ back := happend.symm
      _ = front.rdropWhile inLine ++ front.rtakeWhile inLine ++
          (back.takeWhile inLine ++ back.dropWhile inLine) := by
        rw [hfront, List.takeWhile_append_dropWhile]
      _ = front.rdropWhile inLine ++ (lineAt t n ++ back.dropWhile inLine) := by
        rw [hline, List.append_assoc, List.append_assoc]
  · rw [List.rdropWhile, List.getLast?_reverse]
    exact head?_dropWhile_inLine _
  · rw [hline, List.rtakeWhile, List.mem_append, List.mem_reverse]
    exact not_or_intro (notMem_takeWhile_inLine _) (notMem_takeWhile_inLine _)
  · rw [hplace, size_append]
    exact Nat.le_add_right _ _
  · rw [hplace, hline, ← List.append_assoc, size_append _ (back.takeWhile inLine)]
    exact Nat.le_add_right _ _
  · rw [lineStart, hsplit]
    rfl

/-- The offsets `m` and `n` lie on one line of the text. -/
def OnOneLine (t : Text) (m n : Nat) : Prop :=
  ∃ before line after, IsLine.Holds t before line after m ∧ IsLine.Holds t before line after n

/-- The line that holds an offset is the only one that does. -/
theorem IsLine.Holds.lineAt_eq {t before line after : Text} {n : Nat}
    (h : IsLine.Holds t before line after n) : lineAt t n = line := by
  obtain ⟨⟨ht, hbefore, hline, hafter⟩, hle, hle'⟩ := h
  obtain ⟨front, back, hsplit⟩ : ∃ front back, splitAt n t = (front, back) := ⟨_, _, rfl⟩
  have happend := splitAt_append n t
  rw [placeAt, hsplit] at hle hle'
  rw [hsplit, ht] at happend
  -- the cut at the offset cuts the line in two
  obtain ⟨l, rfl, hl⟩ := exists_append_of_size_le happend.symm hle
  rw [size_append, size_append, Nat.add_le_add_iff_left] at hle'
  obtain ⟨m, rfl, rfl⟩ := exists_append_of_size_le hl.symm hle'
  have hin : ∀ c ∈ l ++ m, inLine c = true := by
    intro c hc
    exact bne_iff_ne.2 fun hnewline => hline (hnewline ▸ hc)
  have hfront : ∀ c ∈ before.reverse.head?, inLine c = false := by
    intro c hc
    rw [List.head?_reverse] at hc
    rw [hbefore c hc]
    rfl
  have hback : ∀ c ∈ after.head?, inLine c = false := by
    intro c hc
    rw [hafter c hc]
    rfl
  rw [lineAt, hsplit]
  dsimp only
  rw [List.reverse_append, Run.takeWhile_append (fun c hc => hin c (by simp_all)) hfront,
    List.reverse_reverse, Run.takeWhile_append (fun c hc => hin c (by simp_all)) hback]

theorem OnOneLine.lineAt_eq {t : Text} {m n : Nat} (h : OnOneLine t m n) :
    lineAt t m = lineAt t n := by
  obtain ⟨before, line, after, hm, hn⟩ := h
  rw [hm.lineAt_eq, hn.lineAt_eq]

/-- The line at the end of a text is the last part of it. -/
theorem exists_append_lineAt_size (t : Text) : ∃ front, t = front ++ lineAt t (size t) := by
  have hsplit : splitAt (size t) t = (t, []) := by
    have hsize := splitAt_size t []
    rwa [List.append_nil] at hsize
  refine ⟨t.rdropWhile inLine, ?_⟩
  rw [lineAt, hsplit]
  dsimp only
  rw [List.takeWhile_nil, List.append_nil]
  exact List.rdropWhile_append_rtakeWhile.symm

/-- Before the first character of a line that is not blank, there are only blanks on the line. -/
theorem exists_blanks_of_lineAt {t : Text} {n : Nat} {c : Char}
    (h : (trimStart (lineAt t n)).head? = some c) :
    ∃ before blanks after, t = before ++ blanks ++ c :: after ∧ size before = lineStart t n ∧
      (∀ d ∈ before.getLast?, d = '\n') ∧ (∀ d ∈ blanks, isBlank d = true) ∧
      lineStart t n + size blanks = contentStart t n := by
  obtain ⟨before, after, hholds, hbefore⟩ := exists_lineAt t n
  obtain ⟨line, hline⟩ := List.head?_eq_some_iff.1 h
  refine ⟨before, (lineAt t n).takeWhile isBlank, line ++ after, ?_, hbefore,
    hholds.before_newline, fun d hd => List.mem_takeWhile_imp hd, rfl⟩
  calc t = before ++ (lineAt t n ++ after) := hholds.eq_append
    _ = before ++ ((lineAt t n).takeWhile isBlank ++ (lineAt t n).dropWhile isBlank ++ after) := by
      rw [List.takeWhile_append_dropWhile]
    _ = before ++ (lineAt t n).takeWhile isBlank ++ c :: (line ++ after) := by
      rw [show (lineAt t n).dropWhile isBlank = c :: line from hline]
      simp

/-- A piece of text that begins with no blank and reaches into the blanks of a line began before the
line. -/
theorem exists_append_of_blanks {s u before blanks : Text} {d : Char}
    (h : s ++ u = before ++ blanks) (hu : u.head? = some d) (hd : isBlank d = false)
    (hblanks : ∀ b ∈ blanks, isBlank b = true) :
    ∃ w, w ≠ [] ∧ before = s ++ w ∧ u = w ++ blanks := by
  have hnot : d ∉ blanks := by
    intro hmem
    simp [hblanks d hmem] at hd
  have hmem : d ∈ u := List.mem_of_head? hu
  rcases List.append_eq_append_iff.1 h with ⟨w, hbefore, huw⟩ | ⟨w, -, hw⟩
  · refine ⟨w, ?_, hbefore, huw⟩
    rintro rfl
    exact hnot (by simpa [huw] using hmem)
  · exact absurd (by simp [hw, hmem]) hnot

/-! ### Joined lines -/

/-- The lines, with a newline between any two neighbours. -/
def joinLines (ls : List Text) : Text := ['\n'].intercalate ls

@[simp] theorem joinLines_nil : joinLines [] = [] := rfl

@[simp] theorem joinLines_singleton (l : Text) : joinLines [l] = l := List.intercalate_singleton

theorem joinLines_cons {ls : List Text} (l : Text) (h : ls ≠ []) :
    joinLines (l :: ls) = l ++ '\n' :: joinLines ls := by
  obtain ⟨m, ls, rfl⟩ := List.exists_cons_of_ne_nil h
  simp [joinLines, List.intercalate_cons_cons]

theorem joinLines_append {ls ms : List Text} (hls : ls ≠ []) (hms : ms ≠ []) :
    joinLines (ls ++ ms) = joinLines ls ++ '\n' :: joinLines ms := by
  induction ls with
  | nil => exact absurd rfl hls
  | cons l ls ih =>
    cases ls with
    | nil => rw [List.singleton_append, joinLines_cons l hms, joinLines_singleton]
    | cons m ls =>
      rw [List.cons_append, joinLines_cons l (by simp), ih (by simp), joinLines_cons l (by simp),
        List.append_assoc, List.cons_append]

/-- A line that is added to lines with any text in them comes behind a newline. -/
theorem addLine_joinLines {ls : List Text} (h : ls ≠ [] → joinLines ls ≠ []) (line : Text) :
    addLine (joinLines ls) line = joinLines (ls ++ [line]) := by
  cases ls with
  | nil => simp [addLine]
  | cons l ls =>
    have hne := h (by simp)
    rw [joinLines_append (by simp) (by simp), joinLines_singleton, addLine,
      if_neg (by simpa using hne)]

/-- With no newline in them, lines are as many as the newlines between them and one more. -/
theorem count_joinLines {ls : List Text} (hne : ls ≠ []) (h : ∀ l ∈ ls, '\n' ∉ l) :
    (joinLines ls).count '\n' + 1 = ls.length := by
  induction ls with
  | nil => exact absurd rfl hne
  | cons l ls ih =>
    have hl : l.count '\n' = 0 := List.count_eq_zero.2 (h l (by simp))
    by_cases hls : ls = []
    · rw [hls, joinLines_singleton, hl]
      rfl
    · have hrest := ih hls fun m hm => h m (List.mem_cons_of_mem _ hm)
      rw [joinLines_cons l hls, List.count_append, hl, List.count_cons_self, List.length_cons,
        ← hrest]
      omega

/-- The last of joined lines begins the text or stands behind a newline. -/
theorem exists_joinLines_concat (ls : List Text) (l : Text) :
    ∃ front, joinLines (ls ++ [l]) = front ++ l ∧ ∀ c ∈ front.getLast?, c = '\n' := by
  by_cases hls : ls = []
  · exact ⟨[], by rw [hls, List.nil_append, joinLines_singleton, List.nil_append], by simp⟩
  · refine ⟨joinLines ls ++ ['\n'], ?_, by simp⟩
    rw [joinLines_append hls (by simp), joinLines_singleton, List.append_assoc,
      List.singleton_append]

/-- A text that ends with a newline has no last line that is counted, and one without text has
none. -/
theorem all_getLast?_joinLines {l : Text} (ls : List Text) (hl : '\n' ∉ l) :
    (joinLines (ls ++ [l])).getLast?.all (· == '\n') = decide (l = []) := by
  obtain ⟨front, hfront, hlast⟩ := exists_joinLines_concat ls l
  rw [hfront]
  obtain rfl | ⟨init, c, rfl⟩ := List.eq_nil_or_concat l
  · simpa [Option.all_eq_true] using hlast
  · have hc : c ≠ '\n' := by
      rintro rfl
      simp at hl
    simp [← List.append_assoc, hc]

/-- Joined lines are counted as that many, except that an empty one at the end is not counted. -/
theorem lineCount_joinLines {ls : List Text} (h : ∀ l ∈ ls, '\n' ∉ l) :
    lineCount (joinLines ls) = if ls.getLast? = some [] then ls.length - 1 else ls.length := by
  obtain rfl | ⟨init, last, rfl⟩ := List.eq_nil_or_concat ls
  · rfl
  · rw [List.concat_eq_append] at h ⊢
    have hcount := count_joinLines (by simp) h
    rw [List.length_append, List.length_singleton] at hcount
    rw [lineCount, all_getLast?_joinLines init (h last (by simp)), List.getLast?_concat,
      List.length_append, List.length_singleton]
    by_cases hlast : last = []
    · simp only [hlast, decide_true, ↓reduceIte] at hcount ⊢
      omega
    · simp only [hlast, decide_false, Option.some.injEq, Bool.false_eq_true, ↓reduceIte]
      omega

end QueryConsole.Text
