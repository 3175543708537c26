/-!
# Ranges of character codes

A class of characters is an ascending list of ranges; a case mapping is an ascending list of runs
that move by one distance. Lookups stop at the first range that begins beyond the code, so common
characters are decided near the head of a table.
-/

namespace QueryConsole.Text

/-- The codes from `lo` to `hi`, both included. -/
structure CodeRange where
  lo : Nat
  hi : Nat
deriving DecidableEq, Repr

/-- Whether a table of ascending ranges covers the code `n`. -/
def CodeRange.covers (n : Nat) : List CodeRange → Bool
  | [] => false
  | r :: rs => if n < r.lo then false else n ≤ r.hi || covers n rs

/-- Every `step`-th code from `lo` to `hi` maps to the code at the distance `shift`. -/
structure CaseRun where
  lo : Nat
  hi : Nat
  step : Nat
  shift : Int
deriving DecidableEq, Repr

/-- The counterpart of the code `n` in a table of ascending runs. -/
def CaseRun.counterpart? (n : Nat) : List CaseRun → Option Nat
  | [] => none
  | r :: rs =>
    if n < r.lo then none
    else if n ≤ r.hi && (n - r.lo) % r.step == 0 then some ((n : Int) + r.shift).toNat
    else counterpart? n rs

end QueryConsole.Text
