import Interlinear.Regex.CharClass

set_option autoImplicit false

/-! # Regular expressions

The expressions that the matcher works on. Choices are ordered: of two ways to match, the one that
takes the earlier branch is preferred, and a greedy repetition prefers to go on. -/

namespace Interlinear

/-- Where words begin and end, seen from a place between two characters. -/
inductive WordEdge where
  /-- Exactly one side is a word character. -/
  | edge
  /-- Both sides are word characters or neither is. -/
  | inside
  /-- Only the right side is a word character. -/
  | start
  /-- Only the left side is a word character. -/
  | stop
  /-- The left side is no word character. -/
  | startHalf
  /-- The right side is no word character. -/
  | stopHalf
deriving DecidableEq, Repr

/-- A condition on a place between two characters. -/
inductive Look where
  /-- The text begins here. -/
  | textStart
  /-- The text ends here. -/
  | textEnd
  /-- A line begins here; lines end with a line feed. -/
  | lineStart
  /-- A line ends here; lines end with a line feed. -/
  | lineEnd
  /-- A line begins here; lines end with a carriage return, a line feed, or one after the other. -/
  | anyLineStart
  /-- A line ends here; lines end with a carriage return, a line feed, or one after the other. -/
  | anyLineEnd
  /-- A condition on the word characters of a class beside this place. -/
  | word (letters : CharClass) (at_ : WordEdge)
deriving DecidableEq

/-- A regular expression. -/
inductive Regex where
  /-- Matches the empty text. -/
  | empty
  /-- Matches one character of a class. -/
  | set (s : CharClass)
  /-- Matches the empty text where a condition holds. -/
  | look (l : Look)
  /-- Matches the empty text, but at most once under each number between two characters read. It
  keeps a repetition whose body matches the empty text from going round without end. -/
  | once (mark : Nat)
  /-- Matches a text of `a` followed by one of `b`. -/
  | seq (a b : Regex)
  /-- Matches a text of `a` or, failing that, one of `b`. -/
  | alt (a b : Regex)
  /-- Matches one or more texts of `r`, as many as possible if greedy and as few otherwise. -/
  | plus (greedy : Bool) (r : Regex)
  /-- Matches a text of `r` and remembers it under a name. -/
  | group (name : String) (r : Regex)
deriving DecidableEq

namespace Look

/-- Whether a character, if there is one, belongs to a class. -/
def touches (letters : CharClass) : Option Char → Bool
  | none => false
  | some c => letters.contains c

/-- Whether the condition holds between two characters; there is none at an end of the text. -/
def holds (before after : Option Char) : Look → Bool
  | textStart => before.isNone
  | textEnd => after.isNone
  | lineStart => before.isNone || before == some '\n'
  | lineEnd => after.isNone || after == some '\n'
  | anyLineStart =>
    before.isNone || before == some '\n' || (before == some '\r' && after != some '\n')
  | anyLineEnd =>
    after.isNone || after == some '\r' || (after == some '\n' && before != some '\r')
  | word letters at_ =>
    let left := touches letters before
    let right := touches letters after
    match at_ with
    | .edge => left != right
    | .inside => left == right
    | .start => !left && right
    | .stop => left && !right
    | .startHalf => !left
    | .stopHalf => !right

end Look

namespace Regex

/-- Whether a regular expression can match only at the start of the text. -/
def anchored : Regex → Bool
  | look .textStart => true
  | seq a b => a.anchored || b.anchored
  | alt a b => a.anchored && b.anchored
  | plus _ r => r.anchored
  | group _ r => r.anchored
  | _ => false

end Regex

end Interlinear
