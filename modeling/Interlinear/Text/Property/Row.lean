import Interlinear.Text.CodeRange

set_option autoImplicit false

/-! # Written tables of properties

A property is written as the hexadecimal code points and ranges of code points that have it, in
ascending order and set apart by blanks, as in `41-5A AA`. -/

namespace Interlinear.Text

/-- A property of characters: the names it is known by, in lower case and without blanks, hyphens
and underscores, and its written ranges. -/
structure PropertyRow where
  names : List String
  /-- The ranges, line by line. -/
  written : List String

/-- The value of a digit in base sixteen, of either case. -/
def hexValue? (c : Char) : Option Nat :=
  if '0' ≤ c ∧ c ≤ '9' then some (c.toNat - '0'.toNat)
  else if 'a' ≤ c ∧ c ≤ 'f' then some (c.toNat - 'a'.toNat + 10)
  else if 'A' ≤ c ∧ c ≤ 'F' then some (c.toNat - 'A'.toNat + 10)
  else none

/-- Reads written ranges. `lo` is the start of a range whose end is being read, and `n` the number
read so far. -/
def readRanges (lo : Option Nat) (n : Nat) : List Char → List CodeRange
  | [] => [⟨lo.getD n, n⟩]
  | c :: cs =>
    if c = ' ' then ⟨lo.getD n, n⟩ :: readRanges none 0 cs
    else if c = '-' then readRanges (some n) 0 cs
    else readRanges lo (n * 16 + (hexValue? c).getD 0) cs

/-- The ranges of a property. -/
def PropertyRow.ranges (row : PropertyRow) : List CodeRange := 
  row.written.flatMap fun line => readRanges none 0 line.toList

/-- The ranges of the property of a given name. -/
def rangesNamed? (rows : List PropertyRow) (name : String) : Option (List CodeRange) :=
  (rows.find? (·.names.contains name)).map (·.ranges)

end Interlinear.Text
