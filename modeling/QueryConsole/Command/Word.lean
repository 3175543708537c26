import QueryConsole.Command.Fault
import QueryConsole.Command.Variables
import QueryConsole.Text.Cursor

/-!
# Words of a command line

A word is a row of segments that touch: plain runs, escaped characters and quotations. Where the
segments of a word begin and end does not depend on the values of variables. Those come in when
the segments are resolved to the text of the word.
-/

namespace QueryConsole.Command

/-- How command lines are read. -/
structure Options where
  /-- The character that ends the line, if any does. -/
  terminator : Option Char := none
  /-- Whether a word keeps the marks of its double quotations. -/
  keepDoubleQuotes : Bool := false
  /-- Whether a backslash at the start of the first token stays in the word. -/
  keepInitialEscape : Bool := true
  /-- Where variables get their values, if references are replaced at all. -/
  lookup : Option Lookup := none

/-- The text with its references replaced, if they are. -/
def Options.expand (o : Options) (t : Text) : Text :=
  match o.lookup with
  | some lookup => Command.expand lookup t
  | none => t

/-- A piece of a word. -/
inductive Segment where
  /-- Characters without quotes. -/
  | run (t : Text)
  /-- A character behind a backslash. -/
  | literal (c : Char)
  /-- A quotation, without its marks and with doubled marks made single. -/
  | quoted (q : Quote) (body : Text)
deriving DecidableEq, Repr

namespace Segment

/-- The text that a segment stands for. Only single quotes and backslashes protect references. -/
def resolve (o : Options) (keepDoubleQuotes : Bool) : Segment → Text
  | run t => o.expand t
  | literal c => [c]
  | quoted .single t => t
  | quoted .double t => if keepDoubleQuotes then '"' :: o.expand t ++ ['"'] else o.expand t

/-- Puts a character in front of the run that begins the given segments. -/
def consRun (c : Char) : List Segment → List Segment
  | run t :: w => run (c :: t) :: w
  | w => run [c] :: w

end Segment

/-- Whether a character can stand in a word without quotes. -/
def isWordChar (terminator : Option Char) (c : Char) : Bool :=
  !Text.isBlank c && some c != terminator && !(['\'', '"', '|', '<', '>', '&'].contains c)

/-- A fault, with the cursor at which reading stopped. -/
structure Failure where
  fault : Fault
  cursor : Cursor
deriving DecidableEq, Repr

/-- What a reader returns: its result with the cursor behind it, or a failure. -/
abbrev Reading (α : Type) := Except Failure (α × Cursor)

/-- The failure to read on at `k`, for a reason that lies at the offset `position`. -/
def fail {α : Type} (cause : Cause) (position : Nat) (k : Cursor) : Reading α :=
  .error ⟨⟨cause, position⟩, k⟩

def Reading.map {α β : Type} (f : α → β) : Reading α → Reading β
  | .ok (a, k) => .ok (f a, k)
  | .error e => .error e

theorem Reading.map_eq_ok_iff {α β : Type} {f : α → β} {r : Reading α} {b : β} {k : Cursor} :
    r.map f = .ok (b, k) ↔ ∃ a, r = .ok (a, k) ∧ f a = b := by
  cases r with
  | error e => simp [Reading.map]
  | ok p =>
    obtain ⟨a, j⟩ := p
    constructor
    · intro h
      obtain ⟨rfl, rfl⟩ := Prod.mk.inj (Except.ok.inj h)
      exact ⟨a, rfl, rfl⟩
    · rintro ⟨a', h, rfl⟩
      obtain ⟨rfl, rfl⟩ := Prod.mk.inj (Except.ok.inj h)
      rfl

theorem length_rest_toSingle_le {α : Type} [DecidableEq α] (q : α) (l : List α) :
    (Extent.toSingle q l).rest.length ≤ l.length := by
  have h := congrArg List.length (Extent.taken_append_rest_toSingle q l)
  simp only [List.length_append] at h
  omega

/-- Reads the segments that touch one another from `k` on. Inside a run of unquoted characters a
backslash escapes even where it is the terminator, and a quotation mark always begins a
quotation. -/
def readSegments (terminator : Option Char) (inRun : Bool) (k : Cursor) : Reading (List Segment) :=
  match _h : k.rest with
  | [] => .ok ([], k)
  | c :: t =>
    match Quote.ofMark? c with
    | some q =>
      let e := Extent.toSingle c t
      if e.closed then
        (readSegments terminator false (k.advance (c :: e.taken) e.rest)).map
          (.quoted q (Extent.undouble c e.taken.dropLast) :: ·)
      else fail (.openQuote q) k.offset k
    | none =>
      if c = '\\' ∧ (inRun ∨ terminator ≠ some '\\') then
        match t with
        | [] => fail .danglingEscape k.offset k.finish
        | d :: t => (readSegments terminator true (k.advance [c, d] t)).map (.literal d :: ·)
      else if isWordChar terminator c then
        (readSegments terminator true (k.advance [c] t)).map (Segment.consRun c)
      else .ok ([], k)
termination_by k.rest.length
decreasing_by
  · rw [_h]
    exact Nat.lt_succ_of_le (length_rest_toSingle_le c t)
  · rw [_h]
    simp only [Cursor.advance, List.length_cons]
    omega
  · rw [_h]
    exact Nat.lt_succ_self _

/-- Reading segments only reads on. -/
theorem reaches_of_readSegments {terminator : Option Char} {inRun : Bool} {k k' : Cursor}
    {w : List Segment} (h : readSegments terminator inRun k = .ok (w, k')) : k.Reaches k' := by
  fun_induction readSegments terminator inRun k generalizing w with
  | case1 =>
    cases h
    exact .refl _
  | case2 inRun k c t hr q hq e hc =>
    rename_i ih
    obtain ⟨w', hw, _⟩ := Reading.map_eq_ok_iff.1 h
    refine Cursor.Reaches.trans (.advance ?_) (ih hw)
    simpa [hr] using (Extent.taken_append_rest_toSingle c t).symm
  | case3 => cases h
  | case4 => cases h
  | case5 inRun k c hq hc d t hr _ ih =>
    obtain ⟨w', hw, _⟩ := Reading.map_eq_ok_iff.1 h
    exact Cursor.Reaches.trans (.advance (by simp [hr])) (ih hw)
  | case6 inRun k c t hr hq hc hw ih =>
    obtain ⟨w', hw, _⟩ := Reading.map_eq_ok_iff.1 h
    exact Cursor.Reaches.trans (.advance (by simp [hr])) (ih hw)
  | case7 =>
    cases h
    exact .refl _

/-- Reading at least one segment reads at least one character. -/
theorem length_rest_lt_of_readSegments {terminator : Option Char} {inRun : Bool} {k k' : Cursor}
    {w : List Segment} (h : readSegments terminator inRun k = .ok (w, k')) (hw : w ≠ []) :
    k'.rest.length < k.rest.length := by
  rw [readSegments] at h
  split at h
  · exact absurd (Prod.mk.inj (Except.ok.inj h)).1.symm hw
  · next c t hr =>
    rw [hr]
    apply Nat.lt_succ_of_le
    split at h
    · dsimp only at h
      split at h
      · obtain ⟨w', hw', _⟩ := Reading.map_eq_ok_iff.1 h
        exact Nat.le_trans (reaches_of_readSegments hw').length_le (length_rest_toSingle_le c t)
      · cases h
    · split at h
      · split at h
        · cases h
        · next d t =>
          obtain ⟨w', hw', _⟩ := Reading.map_eq_ok_iff.1 h
          exact Nat.le_succ_of_le (reaches_of_readSegments hw').length_le
      · split at h
        · obtain ⟨w', hw', _⟩ := Reading.map_eq_ok_iff.1 h
          exact (reaches_of_readSegments hw').length_le
        · exact absurd (Prod.mk.inj (Except.ok.inj h)).1.symm hw

/-- Reads a word. The first token of a line may keep a backslash with which it begins. -/
def readWord (o : Options) (first : Bool) (k : Cursor) : Reading (List Segment) :=
  match k.rest with
  | '\\' :: t =>
    if first && o.keepInitialEscape then
      (readSegments o.terminator false (k.advance ['\\'] t)).map (.literal '\\' :: ·)
    else readSegments o.terminator false k
  | _ => readSegments o.terminator false k

/-- How a word is read: behind a backslash that is kept, or from the cursor on. -/
inductive WordForm (o : Options) (first : Bool) (k : Cursor) (r : Reading (List Segment)) : Prop
  | kept {t : Text} : k.rest = '\\' :: t → (first && o.keepInitialEscape) = true →
      (readSegments o.terminator false (k.advance ['\\'] t)).map (.literal '\\' :: ·) = r →
      WordForm o first k r
  | plain : ((first && o.keepInitialEscape) = true → k.rest.head? ≠ some '\\') →
      readSegments o.terminator false k = r → WordForm o first k r

section Readers

variable {o : Options} {first : Bool} {k k' : Cursor} {w : List Segment}

theorem WordForm.readWord_eq {r : Reading (List Segment)} (h : WordForm o first k r) :
    readWord o first k = r := by
  unfold readWord
  cases h with
  | kept hk hkeep hr =>
    simp only [hk]
    rw [if_pos hkeep, hr]
  | plain hplain hr =>
    split
    · next t hk =>
      rw [if_neg fun hkeep => hplain hkeep (by rw [hk]; rfl), hr]
    · exact hr

theorem wordForm_readWord (o : Options) (first : Bool) (k : Cursor) :
    WordForm o first k (readWord o first k) := by
  unfold readWord
  split
  · next t hk =>
    split
    · next hkeep => exact .kept hk hkeep rfl
    · next hkeep => exact .plain (fun h => absurd h hkeep) rfl
  · next hne =>
    refine .plain (fun _ hhead => ?_) rfl
    obtain ⟨t, hk⟩ := List.head?_eq_some_iff.1 hhead
    exact hne t hk

theorem wordForm_iff {r : Reading (List Segment)} :
    WordForm o first k r ↔ readWord o first k = r :=
  ⟨WordForm.readWord_eq, fun h => h ▸ wordForm_readWord o first k⟩

theorem reaches_of_readWord (h : readWord o first k = .ok (w, k')) : k.Reaches k' := by
  cases wordForm_iff.2 h with
  | kept hk _ hw =>
    obtain ⟨w', hw, _⟩ := Reading.map_eq_ok_iff.1 hw
    exact Cursor.Reaches.trans (.advance (by simp [hk])) (reaches_of_readSegments hw)
  | plain _ hw => exact reaches_of_readSegments hw

theorem length_rest_lt_of_readWord (h : readWord o first k = .ok (w, k')) (hne : w ≠ []) :
    k'.rest.length < k.rest.length := by
  cases wordForm_iff.2 h with
  | kept hk _ hw =>
    obtain ⟨w', hw, _⟩ := Reading.map_eq_ok_iff.1 hw
    rw [hk]
    exact Nat.lt_succ_of_le (reaches_of_readSegments hw).length_le
  | plain _ hw => exact length_rest_lt_of_readSegments hw hne

end Readers

end QueryConsole.Command
