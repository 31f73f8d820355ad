import Interlinear.Text.Canonical
import Interlinear.Text.CombiningClass
import Interlinear.Text.Compatibility
import Interlinear.Text.CodeRange

set_option autoImplicit false

/-! # Normal forms

A text has a decomposed form, in which every precomposed character is taken apart and the marks of
each cluster stand in the order of their classes, and a composed form, in which they are put
together again. Each comes in a canonical and a compatibility variant; the latter also replaces
styled characters by the plain ones they are written with.

`decomposed`, `decomposedCompat`, `composed` and `composedCompat` are the four forms of a string.
Korean syllables are taken apart and composed by arithmetic on their code points (`Hangul`). -/

namespace Interlinear.Text

/-! ## Korean syllables -/

namespace Hangul

/-- A leading consonant has one of 19 code points from here on. -/
def leadBase : Nat := 0x1100

/-- A vowel has one of 21 code points from here on. -/
def vowelBase : Nat := 0x1161

/-- A trailing consonant has one of the 27 code points after this one. -/
def tailBase : Nat := 0x11A7

/-- The syllables begin here: every lead with every vowel, each without a tail and with each tail. -/
def syllableBase : Nat := 0xAC00

/-- The number of syllables that share a lead and a vowel. -/
def tailCount : Nat := 28

/-- The number of syllables that share a lead. -/
def perLead : Nat := 21 * tailCount

/-- The number of syllables. -/
def syllableCount : Nat := 19 * perLead

/-- The jamo that a syllable is written with, if the code point is a syllable. -/
def jamo? (n : Nat) : Option (List Nat) :=
  if syllableBase ≤ n ∧ n < syllableBase + syllableCount then
    let i := n - syllableBase
    let pair := [leadBase + i / perLead, vowelBase + i % perLead / tailCount]
    some (if i % tailCount = 0 then pair else pair ++ [tailBase + i % tailCount])
  else none

/-- The syllable that two code points make: a lead and a vowel, or an open syllable and a tail. -/
def syllable? (a b : Nat) : Option Nat :=
  if leadBase ≤ a ∧ a < leadBase + 19 ∧ vowelBase ≤ b ∧ b < vowelBase + 21 then
    some (syllableBase + ((a - leadBase) * 21 + (b - vowelBase)) * tailCount)
  else if syllableBase ≤ a ∧ a < syllableBase + syllableCount ∧ (a - syllableBase) % tailCount = 0 ∧
      tailBase < b ∧ b < tailBase + tailCount then
    some (a + (b - tailBase))
  else none

end Hangul

/-! ## Decomposition of a character -/

/-- The base and the mark that a code point is taken apart into. -/
def pairing? (n : Nat) : Option (Nat × Nat) :=
  (pairIn? primaryPairings n).orElse fun _ => pairIn? excludedPairings n

/-- Takes a code point apart, at most `depth` times over. -/
def expandCode : Nat → Nat → List Nat
  | 0, n => [n]
  | depth + 1, n =>
    match aliasIn? aliases n with
    | some target => expandCode depth target
    | none =>
      match pairing? n with
      | some (base, mark) => expandCode depth base ++ [mark]
      | none => [n]

/-- No code point has to be taken apart more often than this. -/
def expansionDepth : Nat := 4

/-- The code points of the complete canonical decomposition of a code point. -/
def canonicalCodes (n : Nat) : List Nat :=
  (Hangul.jamo? n).getD (expandCode expansionDepth n)

/-- The code points of the complete compatibility decomposition of a code point. -/
def compatCodes (n : Nat) : List Nat :=
  match imageInRuns? compatibilityRuns n with
  | some target => [target]
  | none => (expansionIn? compatibilityExpansions n).getD (canonicalCodes n)

/-- The canonical decomposition of a character. -/
def canonicalExpansion (c : Char) : List Char := (canonicalCodes c.toNat).map Char.ofNat

/-- The compatibility decomposition of a character. -/
def compatExpansion (c : Char) : List Char := (compatCodes c.toNat).map Char.ofNat

/-! ## The order of marks -/

/-- Puts a character in front of a text whose marks are in order, and moves it past the marks of a
lower class. -/
def placeMark (c : Char) : List Char → List Char
  | [] => [c]
  | d :: ds =>
    if 0 < combiningClass d ∧ combiningClass d < combiningClass c then d :: placeMark c ds
    else c :: d :: ds

/-- Sorts the marks of each cluster by their classes; marks of one class keep their order. -/
def orderMarks (cs : List Char) : List Char := cs.foldr placeMark []

/-! ## Composition -/

/-- The character that two characters compose to. -/
def composePair? (a b : Char) : Option Char :=
  ((Hangul.syllable? a.toNat b.toNat).orElse fun _ =>
    composedIn? primaryPairings a.toNat b.toNat).map Char.ofNat

/-- Composes what follows with the character `starter`. The marks in `kept` stand between the
two, the last one first, and did not compose with it: a mark can still reach the starter only if
its class is above the class of the last mark kept. -/
def composeOnto (starter : Char) (kept : List Char) : List Char → List Char
  | [] => starter :: kept.reverse
  | c :: cs =>
    let reaches := match kept with
      | [] => true
      | k :: _ => combiningClass k < combiningClass c
    match if reaches then composePair? starter c else none with
    | some joined => composeOnto joined kept cs
    | none =>
      if combiningClass c = 0 then starter :: (kept.reverse ++ composeOnto c [] cs)
      else composeOnto starter (c :: kept) cs

/-- Composes a decomposed text. Marks before the first character of class zero stay as they are. -/
def composeAll : List Char → List Char
  | [] => []
  | c :: cs => if combiningClass c = 0 then composeOnto c [] cs else c :: composeAll cs

/-! ## The four forms -/

/-- The decomposed form of a list of characters. -/
def decomposeChars (cs : List Char) : List Char := orderMarks (cs.flatMap canonicalExpansion)

/-- The compatibility decomposed form of a list of characters. -/
def decomposeCompatChars (cs : List Char) : List Char := orderMarks (cs.flatMap compatExpansion)

/-- The canonical decomposed form of a text. -/
def decomposed (s : String) : String := String.ofList (decomposeChars s.toList)

/-- The compatibility decomposed form of a text. -/
def decomposedCompat (s : String) : String := String.ofList (decomposeCompatChars s.toList)

/-- The canonical composed form of a text. -/
def composed (s : String) : String := String.ofList (composeAll (decomposeChars s.toList))

/-- The compatibility composed form of a text. -/
def composedCompat (s : String) : String :=
  String.ofList (composeAll (decomposeCompatChars s.toList))

end Interlinear.Text
