import Interlinear.Regex.Spacing
import Interlinear.Regex.Written

set_option autoImplicit false

/-! # Escapes

What a backslash and the characters after it stand for: a character, a class, a property or a
place. -/

namespace Interlinear.Regex

/-- Whether a character has a meaning of its own in patterns. -/
def isMeta (c : Char) : Bool := "\\.+*?()|[]\x7b\x7d^$#&-~".toList.contains c

/-- Whether a character may be escaped to stand for itself. -/
def isEscapable (c : Char) : Bool :=
  isMeta c || (c.toNat < 128 && !c.isAlphanum && c != '<' && c != '>')

/-- Reads a number of hexadecimal digits, after those that make up `value`. -/
def hexDigits (spaced : Bool) : Nat → Nat → List Char → Option (Nat × List Char)
  | 0, value, cs => some (value, cs)
  | _ + 1, _, [] => none
  | count + 1, value, c :: cs => do
    let d ← Text.hexValue? c
    hexDigits spaced count (value * 16 + d) (skip spaced cs)

/-- Reads the code point of a character, as `count` digits or as any number of them in braces. -/
def hexChar (spaced : Bool) (count : Nat) (cs : List Char) : Option (Token × List Char) :=
  match skip spaced cs with
  | [] => none
  | '\x7b' :: cs => do
    let (digits, rest) ← takeTo '\x7d' spaced false cs
    let values ← digits.mapM Text.hexValue?
    if values.isEmpty then none
    let c ← charOf? (values.foldl (fun n d => n * 16 + d) 0)
    some (.char c false, rest)
  | cs => do
    let (n, rest) ← hexDigits spaced count 0 cs
    let c ← charOf? n
    some (.char c (count == 2), rest)

/-- Splits a text at the first place where `sep` stands. -/
def splitAtText? (sep : List Char) : List Char → Option (List Char × List Char)
  | [] => none
  | c :: cs =>
    if sep.isPrefixOf (c :: cs) then some ([], (c :: cs).drop sep.length)
    else (splitAtText? sep cs).map fun (left, right) => (c :: left, right)

/-- The property that is asked for between braces, and whether it is asked for by what it is not. -/
def propertyIn (inside : List Char) : PropertyName × Bool :=
  match splitAtText? ['!', '='] inside with
  | some (family, name) => (.member (String.ofList family) (String.ofList name), true)
  | none =>
    match (splitAtText? [':'] inside).orElse fun _ => splitAtText? ['='] inside with
    | some (family, name) => (.member (String.ofList family) (String.ofList name), false)
    | none => (.plain (String.ofList inside), false)

/-- Reads a property, named by one letter or between braces. -/
def propertyEscape (spaced negated : Bool) (cs : List Char) : Option (Token × List Char) :=
  match skip spaced cs with
  | [] => none
  | '\x7b' :: cs => do
    let (inside, rest) ← takeTo '\x7d' spaced false cs
    let (name, differs) := propertyIn inside
    some (.property name (negated != differs), rest)
  | c :: cs => if c = '\\' then none else some (.property (.plain (String.singleton c)) negated, cs)

/-- Whether a character may stand in the name of an edge of words. -/
def isEdgeChar (c : Char) : Bool := c == '-' || c.isAlpha

/-- The edge of words that is named between braces. -/
def edgeNamed? (name : List Char) : Option WordEdge :=
  match String.ofList name with
  | "start" => some .start
  | "end" => some .stop
  | "start-half" => some .startHalf
  | "end-half" => some .stopHalf
  | _ => none

/-- Reads what follows the escape of an edge of words. A brace with a letter or a hyphen after it
opens the name of an edge; any other begins a repetition. -/
def edgeEscape (spaced : Bool) (cs : List Char) : Option (Token × List Char) :=
  match cs with
  | '\x7b' :: inside =>
    match skip spaced inside with
    | [] => none
    | c :: _ =>
      if isEdgeChar c then do
        let (name, rest) ← takeTo '\x7d' spaced false inside
        let named ← edgeNamed? name
        some (.place (.word named), rest)
      else some (.place (.word .edge), cs)
  | _ => some (.place (.word .edge), cs)

/-- Reads what follows a backslash. -/
def escape (spaced : Bool) : List Char → Option (Token × List Char)
  | [] => none
  | c :: cs =>
    if isEscapable c then some (.char c false, cs)
    else match c with
      | 'x' => hexChar spaced 2 cs
      | 'u' => hexChar spaced 4 cs
      | 'U' => hexChar spaced 8 cs
      | 'p' => propertyEscape spaced false cs
      | 'P' => propertyEscape spaced true cs
      | 'd' => some (.short .digit false, cs)
      | 's' => some (.short .blank false, cs)
      | 'w' => some (.short .word false, cs)
      | 'D' => some (.short .digit true, cs)
      | 'S' => some (.short .blank true, cs)
      | 'W' => some (.short .word true, cs)
      | 'a' => some (.char '\x07' false, cs)
      | 'f' => some (.char '\x0c' false, cs)
      | 't' => some (.char '\t' false, cs)
      | 'n' => some (.char '\n' false, cs)
      | 'r' => some (.char '\r' false, cs)
      | 'v' => some (.char '\x0b' false, cs)
      | 'A' => some (.place .textStart, cs)
      | 'z' => some (.place .textEnd, cs)
      | 'b' => edgeEscape spaced cs
      | 'B' => some (.place (.word .inside), cs)
      | '<' => some (.place (.word .start), cs)
      | '>' => some (.place (.word .stop), cs)
      | _ => none

end Interlinear.Regex
