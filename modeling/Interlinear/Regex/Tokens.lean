import Interlinear.Regex.Brackets

set_option autoImplicit false

/-! # Patterns as tokens

Cuts a pattern into tokens (`tokens?`). Whether the pattern is spaced changes from group to group,
so the settings of the groups that are open are kept on the way. -/

namespace Interlinear.Regex

/-! ## Flags and names -/

/-- The flag that a letter stands for. -/
def flagOf? : Char → Option Flag
  | 'i' => some .anyCase
  | 'm' => some .multiLine
  | 's' => some .dotAll
  | 'U' => some .swapGreed
  | 'u' => some .unicode
  | 'R' => some .anyLineEnd
  | 'x' => some .spaced
  | _ => none

/-- Reads flags up to a colon or a closing parenthesis, which is left in place. The flags after a
hyphen are switched off; there may be one hyphen, a flag must follow it, and no flag comes twice. -/
def flagSettings (seen : List FlagSetting) (on dangling : Bool) :
    List Char → Option (List FlagSetting × List Char)
  | [] => none
  | c :: cs =>
    if c = ':' ∨ c = ')' then if dangling then none else some (seen.reverse, c :: cs)
    else if c = '-' then if on then flagSettings seen false true cs else none
    else do
      let f ← flagOf? c
      if seen.any (·.flag == f) then none else flagSettings (⟨f, on⟩ :: seen) on false cs

/-- Whether a character may begin the name of a group. -/
def startsName (c : Char) : Bool := c == '_' || Text.alphabetic.holds c

/-- Whether a character may stand in the name of a group. -/
def continuesName (c : Char) : Bool :=
  startsName c || c == '.' || c == '[' || c == ']' || Text.numeric.holds c

/-- Whether a text is the name of a group. -/
def isGroupName : List Char → Bool
  | [] => false
  | c :: cs => startsName c && cs.all continuesName

/-- Reads the name of a group, up to the bracket that closes it. -/
def groupName (cs : List Char) : Option (Token × List Char) :=
  match cs.span (· != '>') with
  | (name, '>' :: rest) =>
    if isGroupName name then some (.openNamed (String.ofList name), rest) else none
  | _ => none

/-- Reads the start of a group, after its parenthesis. Conditions on the text around a place are
refused. -/
def groupStart (spaced : Bool) (cs : List Char) : Option (Token × List Char) :=
  match skip spaced cs with
  | '?' :: 'P' :: '<' :: cs => groupName cs
  | '?' :: '<' :: '=' :: _ => none
  | '?' :: '<' :: '!' :: _ => none
  | '?' :: '<' :: cs => groupName cs
  | '?' :: cs =>
    match flagSettings [] true false cs with
    | some (settings, ':' :: rest) => some (.openFlags settings, rest)
    | some (settings, ')' :: rest) =>
      if settings.isEmpty then none else some (.setFlags settings, rest)
    | _ => none
  | cs => some (.openPlain, cs)

/-! ## Repetitions -/

/-- Reads the mark that swaps the greed of a repetition. -/
def greedMark : List Char → Bool × List Char
  | '?' :: cs => (true, cs)
  | cs => (false, cs)

/-- The largest number of repetitions that can be written. -/
def maxCount : Nat := 4294967295

/-- Reads a number of repetitions. -/
def count? (spaced : Bool) (cs : List Char) : Option (Nat × List Char) :=
  let (digits, rest) := takeSpaced Char.isDigit spaced false (cs.dropWhile Text.isBlank)
  let n := digits.foldl (fun n d => n * 10 + (d.toNat - '0'.toNat)) 0
  if digits.isEmpty ∨ maxCount < n then none else some (n, rest.dropWhile Text.isBlank)

/-- Reads a repetition, after the brace that opens it. -/
def counted (spaced : Bool) (cs : List Char) : Option (Token × List Char) := do
  let (least, cs) ← count? spaced (skip spaced cs)
  let (most, cs) ← match cs with
    | ',' :: cs =>
      match skip spaced cs with
      | '\x7d' :: cs => some (none, cs)
      | cs => do
        let (most, cs) ← count? spaced cs
        match cs with
        | '\x7d' :: cs => if least ≤ most then some (some most, cs) else none
        | _ => none
    | '\x7d' :: cs => some (some least, cs)
    | _ => none
  let (marked, rest) := greedMark (skip spaced cs)
  some (.repeats least most marked, rest)

/-- Reads a repetition of a fixed kind, after its sign. -/
def repeated (least : Nat) (most : Option Nat) (cs : List Char) : Token × List Char :=
  let (marked, rest) := greedMark cs
  (.repeats least most marked, rest)

/-! ## Tokens -/

/-- Reads the token that begins with a character. -/
def token (spaced : Bool) (c : Char) (cs : List Char) : Option (Token × List Char) :=
  match c with
  | '(' => groupStart spaced cs
  | ')' => some (.close, cs)
  | '|' => some (.bar, cs)
  | '[' => bracketed spaced cs
  | '?' => some (repeated 0 (some 1) cs)
  | '*' => some (repeated 0 none cs)
  | '+' => some (repeated 1 none cs)
  | '\x7b' => counted spaced cs
  | '\\' => escape spaced cs
  | '.' => some (.dot, cs)
  | '^' => some (.caret, cs)
  | '$' => some (.dollar, cs)
  | c => some (.char c false, cs)

/-- The settings of spacing after a token: of the group that is open then, and of the groups
around it. -/
def spacingAfter (spaced : Bool) (outer : List Bool) : Token → Bool × List Bool
  | .openNamed _ | .openPlain => (spaced, spaced :: outer)
  | .openFlags settings => ((flagState? settings .spaced).getD spaced, spaced :: outer)
  | .setFlags settings => ((flagState? settings .spaced).getD spaced, outer)
  | .close => (outer.headD spaced, outer.tail)
  | _ => (spaced, outer)

/-- Cuts a pattern into tokens. The number bounds the tokens read. -/
def tokensFrom : Nat → Bool → List Bool → List Char → Option (List Token)
  | 0, _, _, _ => none
  | bound + 1, spaced, outer, cs =>
    match skip spaced cs with
    | [] => some []
    | c :: cs => do
      let (t, rest) ← token spaced c cs
      let (spaced, outer) := spacingAfter spaced outer t
      let ts ← tokensFrom bound spaced outer rest
      some (t :: ts)

/-- The tokens of a pattern. -/
def tokens? (pattern : List Char) : Option (List Token) :=
  tokensFrom (pattern.length + 1) false [] pattern

end Interlinear.Regex
