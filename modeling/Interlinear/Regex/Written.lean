import Interlinear.Regex.Basic

set_option autoImplicit false

/-! # The written form of regular expressions

A pattern is read as a list of tokens. This module holds the tokens and their parts; what the flags
in force make of them is decided later. -/

namespace Interlinear.Regex

/-- A class that is written with one letter. -/
inductive ShortClass where
  | digit
  | blank
  | word
deriving DecidableEq, Repr

/-- A class of ASCII characters that is written by name inside brackets. -/
inductive NamedClass where
  | alnum | alpha | ascii | blank | cntrl | digit | graph | lower | print | punct | space | upper
  | word | xdigit
deriving DecidableEq, Repr

/-- The operations on classes inside brackets. -/
inductive SetOp where
  | inter
  | diff
  | symmDiff
deriving DecidableEq, Repr

/-- How a property is asked for: by its own name, or by the names of its family and its own. -/
inductive PropertyName where
  | plain (name : String)
  | member (family name : String)
deriving DecidableEq, Repr

/-- What stands between brackets. -/
inductive ClassTree where
  | none
  | range (lo hi : Char)
  | short (k : ShortClass) (negated : Bool)
  | named (k : NamedClass) (negated : Bool)
  | property (name : PropertyName) (negated : Bool)
  /-- A class in brackets of its own. -/
  | bracket (t : ClassTree) (negated : Bool)
  | union (a b : ClassTree)
  | op (o : SetOp) (a b : ClassTree)

/-- The flags that change the meaning of a pattern. -/
inductive Flag where
  /-- Case does not count. -/
  | anyCase
  /-- The ends of lines are places where a text may begin and end. -/
  | multiLine
  /-- A dot stands for the end of a line too. -/
  | dotAll
  /-- Repetitions are lazy unless marked, and greedy if marked. -/
  | swapGreed
  /-- Classes and case range over all scripts. -/
  | unicode
  /-- A carriage return ends a line too. -/
  | anyLineEnd
  /-- The pattern is spaced. -/
  | spaced
deriving DecidableEq, Repr

/-- The setting of a flag. -/
structure FlagSetting where
  flag : Flag
  on : Bool
deriving DecidableEq, Repr

/-- The value that a list of settings gives to a flag, if any. -/
def flagState? (settings : List FlagSetting) (f : Flag) : Option Bool :=
  (settings.find? (·.flag == f)).map (·.on)

/-- A place that is written with an escape. -/
inductive WrittenPlace where
  | textStart
  | textEnd
  | word (at_ : WordEdge)
deriving DecidableEq, Repr

/-- A part of a pattern. -/
inductive Token where
  /-- A character. One written as a byte is refused when it lies outside ASCII and only ASCII is
  in force. -/
  | char (c : Char) (asByte : Bool)
  | dot
  | caret
  | dollar
  | place (p : WrittenPlace)
  | short (k : ShortClass) (negated : Bool)
  | property (name : PropertyName) (negated : Bool)
  /-- A class in brackets, with the depth to which its parts are nested. -/
  | bracket (t : ClassTree) (negated : Bool) (depth : Nat)
  /-- A repetition of what comes before, at least `least` times and at most `most` times. -/
  | repeats (least : Nat) (most : Option Nat) (marked : Bool)
  /-- The start of a group, with its name if it has one. -/
  | openNamed (name : String)
  | openPlain
  /-- The start of a group with flags of its own. -/
  | openFlags (settings : List FlagSetting)
  | close
  | bar
  /-- Flags for the rest of the group. -/
  | setFlags (settings : List FlagSetting)

end Interlinear.Regex
