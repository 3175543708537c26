import QueryConsole.Proofs.Command.RoundTrip

/-!
# Values do not shape a command line

Which tokens a line has, where they stand and where reading stops is settled before a variable is
replaced by its value. Two scanners of one line that look up other values, or treat double quotes
in another way, go through it in lock step. They part only where the target of a redirection
resolves to nothing for one of them, which then stops.
-/

namespace QueryConsole.Command

/-- The options with other values for variables, and with double quotes kept or not. -/
def Options.revalue (o : Options) (keepDoubleQuotes : Bool) (lookup : Option Lookup) : Options :=
  { o with keepDoubleQuotes, lookup }

namespace Token

/-- A kind of token without the text that its segments resolve to. -/
def Kind.shape : Kind → Kind
  | word _ => word []
  | redirect fd _ append => redirect fd [] append
  | kind => kind

@[simp] theorem Kind.isTerminator_shape (kind : Kind) :
    kind.shape.isTerminator = kind.isTerminator := by
  cases kind <;> rfl

def shape (t : Token) : Token := { t with kind := t.kind.shape }

end Token

namespace Scanner

/-- What a scanner returns when it is called, and the cursor that it leaves. -/
structure Call where
  result : Option (Except Diagnostic Token)
  cursor : Cursor
deriving DecidableEq

def Call.shape (c : Call) : Call := { c with result := c.result.map (Except.map Token.shape) }

def call (s : Scanner) : Call := ⟨s.next.1, s.next.2.cursor⟩

/-- The first calls of a scanner, one after the other. -/
def calls : Nat → Scanner → List Call
  | 0, _ => []
  | n + 1, s => s.call :: calls n s.next.2

/-- The scanner behind its first calls. -/
def after : Nat → Scanner → Scanner
  | 0, s => s
  | n + 1, s => after n s.next.2

/-- Both calls read the same target of a redirection. It resolves to nothing under the options `o`,
which is a fault, and to a name under `o'`. -/
inductive LosesTarget (o o' : Options) (line : Text) : Call → Call → Prop
  | mk {k k' : Cursor} {w : List Segment} {fd : Fd} {append : Bool} {position : Nat} :
      (Cursor.ofText line).Reaches k → readSegments o.terminator false k = .ok (w, k') →
      w.flatMap (Segment.resolve o false) = [] → w.flatMap (Segment.resolve o' false) ≠ [] →
      LosesTarget o o' line
        ⟨some (.error (Fault.diagnose line ⟨.noTarget, k.offset⟩)), k'⟩
        ⟨some (.ok ⟨.redirect fd (w.flatMap (Segment.resolve o' false)) append, some position,
          line⟩), k'⟩

/-- The calls return tokens of the same shapes, the same faults or nothing, and leave the same
cursors, at most up to a call at which one of the scanners loses a target and stops for good. -/
inductive LockStep (o o' : Options) (line : Text) : List Call → List Call → Prop
  | nil : LockStep o o' line [] []
  | cons {c c' : Call} {cs cs' : List Call} : c.shape = c'.shape → LockStep o o' line cs cs' →
      LockStep o o' line (c :: cs) (c' :: cs')
  | left {c c' : Call} {cs cs' : List Call} : LosesTarget o o' line c c' →
      (∀ d ∈ cs, d = ⟨none, c.cursor⟩) → LockStep o o' line (c :: cs) (c' :: cs')
  | right {c c' : Call} {cs cs' : List Call} : LosesTarget o' o line c' c →
      (∀ d ∈ cs', d = ⟨none, c'.cursor⟩) → LockStep o o' line (c :: cs) (c' :: cs')

end Scanner

/-! ### Raw tokens -/

section Raw

variable {terminator : Option Char} {fd fd' : Option Fd} {place : Nat} {k k' : Cursor}

theorem exists_target_of_readRedirect {target : Fd} {w : List Segment} {append : Bool} {arrow : Nat}
    (h : readRedirect terminator fd arrow k = .ok (.redirect target w append place, k')) :
    ∃ j, k.Reaches j ∧ j.offset = place ∧ readSegments terminator false j = .ok (w, k') := by
  cases redirectForm_iff.2 h with
  | session _ _ hr =>
    obtain ⟨-, hform⟩ := readSession_eq_ok_iff.1 hr
    cases hform with
    | numbered _ _ hraw => cases hraw
    | current _ hraw _ => cases hraw
  | target harrow _ _ hr =>
    obtain ⟨w', hw, heq⟩ := Reading.map_eq_ok_iff.1 hr
    obtain ⟨-, rfl, -, rfl⟩ := RawToken.redirect.inj heq
    exact ⟨_, harrow.reaches.trans (.skipBlanks _), rfl, hw⟩
  | duplicate _ _ hr =>
    obtain ⟨-, n, -, hraw⟩ := readDuplicate_eq_ok_iff.1 hr
    cases hraw

/-- The target of a redirection is a word that is read at the place of the redirection. -/
theorem exists_target_of_readToken {o : Options} {first : Bool} {c : Char} {t : Text}
    {target : Fd} {w : List Segment} {append : Bool} (hk : k.rest = c :: t)
    (h : readToken o first k c t = .ok (.redirect target w append place, k')) :
    ∃ j, k.Reaches j ∧ j.offset = place ∧ readSegments o.terminator false j = .ok (w, k') := by
  have behind : k.Reaches (k.advance [c] t) := .advance (by simp [hk])
  cases tokenForm_iff.2 h with
  | terminator _ hr => cases hr
  | redirect _ _ hr =>
    obtain ⟨j, hj, htarget⟩ := exists_target_of_readRedirect hr
    exact ⟨j, behind.trans hj, htarget⟩
  | pipe _ _ hr =>
    obtain ⟨-, hraw, -⟩ := readPipe_eq_ok_iff.1 hr
    cases hraw
  | descriptor _ _ hl hr =>
    obtain ⟨j, hj, htarget⟩ := exists_target_of_readRedirect hr
    exact ⟨j, (behind.trans (reaches_of_skipChar? hl)).trans hj, htarget⟩
  | nothing _ _ hr => cases hr
  | word _ _ hr =>
    obtain ⟨v, -, hv⟩ := Reading.map_eq_ok_iff.1 hr
    cases hv

theorem readToken_revalue (o : Options) (keep : Bool) (lookup : Option Lookup) (first : Bool)
    (k : Cursor) (c : Char) (t : Text) :
    readToken (o.revalue keep lookup) first k c t = readToken o first k c t := rfl

theorem map_eq_map_cases {ε α β : Type} {f : α → β} {x y : Except ε α} (h : x.map f = y.map f) :
    (∃ e, x = .error e ∧ y = .error e) ∨ ∃ a b, x = .ok a ∧ y = .ok b ∧ f a = f b := by
  cases x <;> cases y <;> simp_all [Except.map]

/-- Under all options a raw token resolves to kinds of one shape or to the same fault, unless it is
a redirection whose target comes to nothing under one of them only. -/
theorem RawToken.shape_resolve (o o' : Options) (raw : RawToken) :
    (raw.resolve o).map Token.Kind.shape = (raw.resolve o').map Token.Kind.shape ∨
      ∃ fd w append place, raw = .redirect fd w append place ∧
        ((w.flatMap (Segment.resolve o false) = [] ∧ w.flatMap (Segment.resolve o' false) ≠ []) ∨
          (w.flatMap (Segment.resolve o' false) = [] ∧
            w.flatMap (Segment.resolve o false) ≠ [])) := by
  cases raw with
  | redirect fd w append place =>
    by_cases h : w.flatMap (Segment.resolve o false) = []
    · by_cases h' : w.flatMap (Segment.resolve o' false) = []
      · exact .inl (by rw [resolve_redirect_of_eq h, resolve_redirect_of_eq h'])
      · exact .inr ⟨fd, w, append, place, rfl, .inl ⟨h, h'⟩⟩
    · by_cases h' : w.flatMap (Segment.resolve o' false) = []
      · exact .inr ⟨fd, w, append, place, rfl, .inr ⟨h', h⟩⟩
      · exact .inl (by rw [resolve_redirect_of_ne h, resolve_redirect_of_ne h']; rfl)
  | word w => exact .inl rfl
  | terminator c => exact .inl rfl
  | pipe command => exact .inl rfl
  | duplicate old new => exact .inl rfl
  | session id append => exact .inl rfl

end Raw

/-! ### Calls -/

namespace Scanner

variable {s : Scanner} {c : Char} {t : Text} {k' : Cursor}

/-- The scanner with other values for variables, and with double quotes kept or not. -/
def revalue (s : Scanner) (keepDoubleQuotes : Bool) (lookup : Option Lookup) : Scanner :=
  { s with options := s.options.revalue keepDoubleQuotes lookup }

theorem after_succ (n : Nat) (s : Scanner) : s.after (n + 1) = (s.after n).next.2 := by
  induction n generalizing s with
  | zero => rfl
  | succ n ih => exact ih s.next.2

theorem calls_of_finished (hf : s.finished = true) (n : Nat) :
    ∀ d ∈ s.calls n, d = ⟨none, s.cursor⟩ := by
  have hnext := next_of_finished hf
  induction n with
  | zero => simp [calls]
  | succ n ih =>
    rw [calls, hnext, call, hnext]
    exact List.forall_mem_cons.2 ⟨rfl, ih⟩

/-- What a scanner keeps while it reads on. -/
theorem next_snd (s : Scanner) :
    s.next.2.options = s.options ∧ s.next.2.line = s.line ∧
      (s.next.2.finished = false → s.cursor.Reaches s.next.2.cursor) := by
  cases hf : s.finished with
  | true => rw [next_of_finished hf]; exact ⟨rfl, rfl, fun _ => .refl _⟩
  | false =>
    obtain ⟨-, hnext⟩ | ⟨c, t, hk, ⟨e, -, hnext⟩ | ⟨raw, k', hread, ⟨f, -, hnext⟩ |
      ⟨kind, -, hnext⟩⟩⟩ := next_cases hf
    all_goals rw [hnext]
    · exact ⟨rfl, rfl, nofun⟩
    · exact ⟨rfl, rfl, nofun⟩
    · exact ⟨rfl, rfl, nofun⟩
    · refine ⟨rfl, rfl, fun _ => ?_⟩
      exact (Cursor.Reaches.skipBlanks _).trans (reaches_of_readToken hk hread)

/-- A scanner that reads a target loses it under options for which the target is nothing. -/
theorem losesTarget_call {s' : Scanner} {fd : Fd} {w : List Segment} {append : Bool} {place : Nat}
    (hreach : (Cursor.ofText s.line).Reaches s.cursor)
    (hcursor : s'.cursor = s.cursor) (hline : s'.line = s.line)
    (hf : s.finished = false) (hf' : s'.finished = false)
    (hk : s.cursor.skipBlanks.rest = c :: t)
    (h : readToken s.options (!s.started) s.cursor.skipBlanks c t =
      .ok (.redirect fd w append place, k'))
    (h' : readToken s'.options (!s'.started) s.cursor.skipBlanks c t =
      .ok (.redirect fd w append place, k'))
    (hnone : w.flatMap (Segment.resolve s.options false) = [])
    (hsome : w.flatMap (Segment.resolve s'.options false) ≠ []) :
    LosesTarget s.options s'.options s.line s.call s'.call ∧ s.next.2.finished = true := by
  obtain ⟨j, hj, rfl, hsegments⟩ := exists_target_of_readToken hk h
  have hnext := next_of_resolve_error hf hk h (RawToken.resolve_redirect_of_eq hnone)
  have hnext' := next_of_resolve_ok hf' (hcursor ▸ hk) (hcursor ▸ h')
    (RawToken.resolve_redirect_of_ne hsome)
  rw [call, call, hnext, hnext', hline]
  exact ⟨.mk ((hreach.trans (.skipBlanks _)).trans hj) hsegments hnone hsome, rfl⟩

/-- One call on each of two scanners that differ in values only. -/
theorem call_revalue (keep : Bool) (lookup : Option Lookup)
    (hreach : s.finished = false → (Cursor.ofText s.line).Reaches s.cursor) :
    let s' := s.revalue keep lookup
    (s.call.shape = s'.call.shape ∧ s'.next.2 = s.next.2.revalue keep lookup) ∨
      (LosesTarget s.options s'.options s.line s.call s'.call ∧ s.next.2.finished = true) ∨
      (LosesTarget s'.options s.options s.line s'.call s.call ∧ s'.next.2.finished = true) := by
  intro s'
  cases hf : s.finished with
  | true =>
    have hnext := next_of_finished hf
    have hnext' : s'.next = (none, s') := next_of_finished hf
    rw [call, call, hnext, hnext']
    exact .inl ⟨rfl, rfl⟩
  | false =>
    have hf' : s'.finished = false := hf
    cases hk : s.cursor.skipBlanks.rest with
    | nil =>
      rw [call, call, next_of_end hf hk, next_of_end hf' hk]
      exact .inl ⟨rfl, rfl⟩
    | cons c t =>
      have hread : readToken s'.options (!s'.started) s'.cursor.skipBlanks c t = _ :=
        readToken_revalue s.options keep lookup (!s.started) s.cursor.skipBlanks c t
      cases h : readToken s.options (!s.started) s.cursor.skipBlanks c t with
      | error e =>
        rw [call, call, next_of_error hf hk h, next_of_error hf' hk (hread.trans h)]
        exact .inl ⟨rfl, rfl⟩
      | ok r =>
        obtain ⟨raw, k'⟩ := r
        have h' := hread.trans h
        obtain hshape | ⟨fd, w, append, place, rfl, ⟨hnone, hsome⟩ | ⟨hnone, hsome⟩⟩ :=
          RawToken.shape_resolve s.options s'.options raw
        · obtain ⟨f, hraw, hraw'⟩ | ⟨kind, kind', hraw, hraw', hkind⟩ := map_eq_map_cases hshape
          · rw [call, call, next_of_resolve_error hf hk h hraw,
              next_of_resolve_error hf' hk h' hraw']
            exact .inl ⟨rfl, rfl⟩
          · have hend : kind'.isTerminator = kind.isTerminator := by
              rw [← Token.Kind.isTerminator_shape, ← hkind, Token.Kind.isTerminator_shape]
            rw [call, call, next_of_resolve_ok hf hk h hraw, next_of_resolve_ok hf' hk h' hraw',
              hend]
            refine .inl ⟨?_, rfl⟩
            simp only [Call.shape, Option.map, Except.map, Token.shape, hkind]
            rfl
        · exact .inr (.inl (losesTarget_call (hreach hf) rfl rfl hf hf' hk h h' hnone hsome))
        · exact .inr (.inr (losesTarget_call (s := s') (hreach hf) rfl rfl hf' hf hk h' h hnone
            hsome))

theorem calls_revalue (keep : Bool) (lookup : Option Lookup) (n : Nat)
    (hreach : s.finished = false → (Cursor.ofText s.line).Reaches s.cursor) :
    LockStep s.options (s.revalue keep lookup).options s.line (s.calls n)
      ((s.revalue keep lookup).calls n) := by
  induction n generalizing s with
  | zero => exact .nil
  | succ n ih =>
    rw [calls, calls]
    obtain ⟨hshape, hnext⟩ | ⟨hloss, hf⟩ | ⟨hloss, hf⟩ := call_revalue keep lookup hreach
    · obtain ⟨hoptions, hline, hcursor⟩ := next_snd s
      refine .cons hshape ?_
      have hrest := ih (s := s.next.2) fun hf => by
        cases hs : s.finished with
        | true => rw [next_of_finished hs] at hf; exact absurd (hs.symm.trans hf) nofun
        | false => rw [hline]; exact (hreach hs).trans (hcursor hf)
      rw [hnext]
      simpa only [revalue, hoptions, hline] using hrest
    · exact .left hloss (calls_of_finished hf n)
    · exact .right hloss (calls_of_finished hf n)

/-- A scanner of a line under any other values, with double quotes kept or not, returns tokens of
the same shapes in the same places and the same faults, unless one of the two loses a target. -/
theorem calls_lockStep (o : Options) (keep : Bool) (lookup : Option Lookup) (line : Text) (n : Nat) :
    LockStep o (o.revalue keep lookup) line ((ofLine o line).calls n)
      ((ofLine (o.revalue keep lookup) line).calls n) :=
  calls_revalue (s := ofLine o line) keep lookup n fun _ => .refl _

end Scanner

end QueryConsole.Command
