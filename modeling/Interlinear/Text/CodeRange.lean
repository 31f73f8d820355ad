set_option autoImplicit false

/-! # Ranges of code points

A property of characters is a list of ranges of code points in ascending order, and a mapping of
characters is a list of runs in which source and image move in step. -/

namespace Interlinear.Text

/-- The code points from `lo` to `hi`, both included. -/
structure CodeRange where
  lo : Nat
  hi : Nat
deriving DecidableEq

/-- Whether a code point lies in one of the ranges, which ascend. -/
def inRanges : List CodeRange → Nat → Bool
  | [], _ => false
  | r :: rs, n => if n < r.lo then false else if n ≤ r.hi then true else inRanges rs n

/-- Every `step`-th code point from `lo` to `hi` is mapped; `lo` goes to `image`, and each later one
to the point at the same distance from `image`. -/
structure CodeRun where
  lo : Nat
  hi : Nat
  step : Nat
  image : Nat

namespace CodeRun

/-- Whether the run maps the code point `n`. -/
def covers (r : CodeRun) (n : Nat) : Bool :=
  r.lo ≤ n && n ≤ r.hi && (n - r.lo) % r.step == 0

/-- The code point that the run maps to `m`. -/
def preimage? (r : CodeRun) (m : Nat) : Option Nat :=
  if r.image ≤ m ∧ r.covers (r.lo + (m - r.image)) then some (r.lo + (m - r.image)) else none

end CodeRun

/-- The image of a code point under a list of runs in ascending order. -/
def imageInRuns? : List CodeRun → Nat → Option Nat
  | [], _ => none
  | r :: rs, n =>
    if n < r.lo then none
    else if r.covers n then some (r.image + (n - r.lo))
    else imageInRuns? rs n

end Interlinear.Text
