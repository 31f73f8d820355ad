import Interlinear.Text.Blank
import Interlinear.Text.Casing.Orbit
import Interlinear.Text.Digit
import Interlinear.Text.Property
import Interlinear.Text.WordChar

set_option autoImplicit false

/-! # Classes of characters

A class is an expression over ranges and named properties. Whether a character belongs to it is
decided from the expression (`CharClass.contains`); no class is ever spelled out. -/

namespace Interlinear

/-- A set of characters. -/
inductive CharClass where
  /-- No character. -/
  | none
  /-- Every character. -/
  | any
  /-- The characters from `lo` to `hi`. -/
  | range (lo hi : Char)
  /-- The decimal digits of all scripts. -/
  | digit
  /-- Blank space. -/
  | blank
  /-- Letters, marks, digits and the like. -/
  | word
  /-- The characters that have a property. -/
  | property (p : Text.Property)
  | union (a b : CharClass)
  | inter (a b : CharClass)
  | diff (a b : CharClass)
  | symmDiff (a b : CharClass)
  | compl (a : CharClass)
  /-- The characters that differ from a member in case only. -/
  | anyCase (a : CharClass)
  /-- The characters that differ from a member in case only, where case is that of A to Z. -/
  | asciiCase (a : CharClass)
deriving DecidableEq

namespace CharClass

/-- Whether a character belongs to a class. -/
def contains : CharClass → Char → Bool
  | none, _ => false
  | any, _ => true
  | range lo hi, c => lo ≤ c && c ≤ hi
  | digit, c => Text.isDigit c
  | blank, c => Text.isBlank c
  | word, c => Text.isWordChar c
  | property p, c => p.holds c
  | union a b, c => a.contains c || b.contains c
  | inter a b, c => a.contains c && b.contains c
  | diff a b, c => a.contains c && !b.contains c
  | symmDiff a b, c => a.contains c != b.contains c
  | compl a, c => !a.contains c
  | anyCase a, c => (Text.orbit c.toNat).any fun n => a.contains (Char.ofNat n)
  | asciiCase a, c => a.contains c.toLower || a.contains c.toUpper

/-- About how many ranges of code points make up a class. -/
def rangeCount : CharClass → Nat
  | none => 0
  | any => 1
  | range _ _ => 1
  | digit => Text.digitRanges.length
  | blank => Text.blankRanges.length
  | word => Text.wordRanges.length
  | property p => p.rangeCount
  | union a b => a.rangeCount + b.rangeCount
  | inter a b => min a.rangeCount b.rangeCount
  | diff a b => a.rangeCount + b.rangeCount
  | symmDiff a b => a.rangeCount + b.rangeCount
  | compl a => a.rangeCount + 1
  | anyCase a => a.rangeCount
  | asciiCase a => a.rangeCount

/-- The class of a single character. -/
def single (c : Char) : CharClass := range c c

theorem contains_single {c x : Char} : (single c).contains x = true ↔ x = c := by
  simp only [single, contains, Bool.and_eq_true, decide_eq_true_eq]
  exact ⟨fun h => Char.le_antisymm h.2 h.1, fun h => h ▸ ⟨Char.le_refl _, Char.le_refl _⟩⟩

/-- The class of the given characters. -/
def ofList : List Char → CharClass
  | [] => none
  | [c] => single c
  | c :: cs => union (single c) (ofList cs)

end CharClass

end Interlinear
