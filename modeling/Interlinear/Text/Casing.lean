import Interlinear.Text.CodeRange
import Interlinear.Text.Casing.Table

set_option autoImplicit false

/-! # Letter case

The lowercase form of a text (`lowered`), and whether a word is written with capital initials
(`isTitle`). Lowering is done character by character, with one exception: a capital sigma that ends
a word becomes the final small sigma. -/

namespace Interlinear.Text

/-- Whether a character is uppercase. -/
def isUppercase (c : Char) : Bool := inRanges uppercaseRanges c.toNat

/-- Whether a character is lowercase. -/
def isLowercase (c : Char) : Bool := inRanges lowercaseRanges c.toNat

/-- Whether a character is upper, lower or title case. -/
def isCased (c : Char) : Bool := inRanges casedRanges c.toNat

/-- Whether a character is passed over when the case of its neighbours is asked. -/
def isCaseIgnorable (c : Char) : Bool := inRanges caseIgnorableRanges c.toNat

/-- Whether the first character of a list that is not passed over has case. -/
def casedAhead : List Char → Bool
  | [] => false
  | c :: cs => if isCaseIgnorable c then casedAhead cs else isCased c

/-- The lowercase form of a single character, without regard to its neighbours. The dotted capital
I is the one character that gives two. -/
def lowerChar (c : Char) : List Char :=
  if c = 'İ' then ['i', '\u0307']
  else [Char.ofNat ((imageInRuns? loweringRuns c.toNat).getD c.toNat)]

/-- Lowers a text; `before` holds the characters already passed, the last one first. A capital sigma
is final if a cased character comes before it and none comes after it. -/
def lowerFrom (before : List Char) : List Char → List Char
  | [] => []
  | c :: cs =>
    let image := if c = 'Σ' then
        if casedAhead before && !casedAhead cs then ['ς'] else ['σ']
      else lowerChar c
    image ++ lowerFrom (c :: before) cs

/-- The lowercase form of a list of characters. -/
def lowerChars (cs : List Char) : List Char := lowerFrom [] cs

/-- The lowercase form of a text. -/
def lowered (s : String) : String := String.ofList (lowerChars s.toList)

/-- Whether the characters continue a word in title case, after a character that has case or not:
an uppercase one must follow an uncased one, and a lowercase one a cased one. -/
def titleFrom (afterCased : Bool) : List Char → Bool
  | [] => true
  | c :: cs =>
    if isUppercase c then !afterCased && titleFrom true cs
    else if isLowercase c then afterCased && titleFrom true cs
    else titleFrom false cs

/-- Whether a word is written with capital initials: it has letters with case, and exactly those
that begin a run of them are uppercase. -/
def isTitle (s : String) : Bool :=
  s.toList.any (fun c => isUppercase c || isLowercase c) && titleFrom false s.toList

end Interlinear.Text
