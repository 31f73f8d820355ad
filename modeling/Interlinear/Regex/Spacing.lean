import Interlinear.Text.Blank

set_option autoImplicit false

/-! # Spacing in patterns

A pattern may be written in a spaced mode, in which blank space and comments between its parts do
not count. A comment goes from a number sign to the end of the line. The functions of this module
read parts of a pattern in either mode. -/

namespace Interlinear.Regex

/-- Drops the spacing at the start of a spaced pattern; `inComment` tells whether it starts inside
a comment. -/
def dropSpacing (inComment : Bool) : List Char → List Char
  | [] => []
  | c :: cs =>
    if inComment then dropSpacing (c != '\n') cs
    else if Text.isBlank c then dropSpacing false cs
    else if c = '#' then dropSpacing true cs
    else c :: cs

/-- Drops the spacing at the start of a pattern, if it is spaced. -/
def skip (spaced : Bool) (cs : List Char) : List Char :=
  if spaced then dropSpacing false cs else cs

/-- The characters up to `stop`, without spacing, and the pattern after `stop`. -/
def takeTo (stop : Char) (spaced inComment : Bool) : List Char → Option (List Char × List Char)
  | [] => none
  | c :: cs =>
    if inComment then takeTo stop spaced (c != '\n') cs
    else if spaced && Text.isBlank c then takeTo stop spaced false cs
    else if spaced && c == '#' then takeTo stop spaced true cs
    else if c = stop then some ([], cs)
    else (takeTo stop spaced false cs).map fun (taken, rest) => (c :: taken, rest)

/-- The leading characters that satisfy `p`, without the spacing between and after them, and the
pattern that follows. -/
def takeSpaced (p : Char → Bool) (spaced inComment : Bool) : List Char → List Char × List Char
  | [] => ([], [])
  | c :: cs =>
    if inComment then takeSpaced p spaced (c != '\n') cs
    else if spaced && Text.isBlank c then takeSpaced p spaced false cs
    else if spaced && c == '#' then takeSpaced p spaced true cs
    else if p c then
      let (taken, rest) := takeSpaced p spaced false cs
      (c :: taken, rest)
    else ([], c :: cs)

/-- The character after the next one. In a spaced pattern blanks before it do not count, nor does
the sign that opens a comment. -/
def peekSpaced (spaced : Bool) : List Char → Option Char
  | [] => none
  | _ :: cs =>
    if spaced then
      match (cs.dropWhile Text.isBlank) with
      | [] => cs.head?
      | '#' :: ds =>
        match ds.dropWhile Text.isBlank with
        | [] => cs.head?
        | d :: _ => some d
      | d :: _ => some d
    else cs.head?

/-- The character of a code point, if it is one. -/
def charOf? (n : Nat) : Option Char := if n.isValidChar then some (Char.ofNat n) else none

end Interlinear.Regex
