import Interlinear.Regex.Escape

set_option autoImplicit false

/-! # Classes in brackets

Reads what stands between brackets: characters, ranges, other classes, classes in brackets of their
own, and the operations between them, all of which bind alike and from left to right. -/

namespace Interlinear.Regex

/-- What was read so far on one side of an operation: the union of the parts, their number, and
the depth to which they are nested. -/
structure Gathered where
  tree : ClassTree
  count : Nat
  depth : Nat

namespace Gathered

/-- Nothing yet. -/
def empty : Gathered := ⟨.none, 0, 0⟩

/-- Adds a part of a given depth. -/
def push (g : Gathered) (t : ClassTree) (depth : Nat) : Gathered :=
  ⟨if g.count = 0 then t else .union g.tree t, g.count + 1, max g.depth depth⟩

/-- The depth of the parts taken together; a union of several nests them once more. -/
def fullDepth (g : Gathered) : Nat := if g.count ≤ 1 then g.depth else g.depth + 1

end Gathered

/-- The left side of an operation that waits for its right side, with its depth. -/
structure Pending where
  tree : ClassTree
  depth : Nat
  op : SetOp

/-- Closes the right side of the operation that waits, if one does. -/
def Pending.close (pending : Option Pending) (g : Gathered) : ClassTree × Nat :=
  match pending with
  | none => (g.tree, g.fullDepth)
  | some p => (.op p.op p.tree g.tree, max p.depth g.fullDepth + 1)

/-- The class of ASCII characters of a given name. -/
def namedClass? (name : List Char) : Option NamedClass :=
  match String.ofList name with
  | "alnum" => some .alnum
  | "alpha" => some .alpha
  | "ascii" => some .ascii
  | "blank" => some .blank
  | "cntrl" => some .cntrl
  | "digit" => some .digit
  | "graph" => some .graph
  | "lower" => some .lower
  | "print" => some .print
  | "punct" => some .punct
  | "space" => some .space
  | "upper" => some .upper
  | "word" => some .word
  | "xdigit" => some .xdigit
  | _ => none

/-- Reads a class named between colons, after the bracket that opens it. -/
def namedInBrackets? : List Char → Option (ClassTree × List Char)
  | ':' :: cs => do
    let (negated, cs) := match cs with
      | '^' :: ds => (true, ds)
      | _ => (false, cs)
    match cs.dropWhile (· != ':') with
    | ':' :: ']' :: rest => (namedClass? (cs.takeWhile (· != ':'))).map (.named · negated, rest)
    | _ => none
  | _ => none

/-- The part of a class that a token stands for. -/
def Token.classPart? : Token → Option ClassTree
  | .char c _ => some (.range c c)
  | .short k negated => some (.short k negated)
  | .property name negated => some (.property name negated)
  | _ => none

/-- Reads one character, plain or escaped, or an escaped class. -/
def classAtom (spaced : Bool) : List Char → Option (Token × List Char)
  | [] => none
  | '\\' :: cs => escape spaced cs
  | c :: cs => some (.char c false, cs)

/-- Reads a character, a range of characters or an escaped class. A hyphen before a closing bracket
or another hyphen makes no range. -/
def classItem (spaced : Bool) (cs : List Char) : Option (ClassTree × List Char) := do
  let (first, cs) ← classAtom spaced cs
  match skip spaced cs with
  | [] => none
  | c :: cs =>
    let next := peekSpaced spaced (c :: cs)
    if c ≠ '-' ∨ next = some ']' ∨ next = some '-' then
      let part ← first.classPart?
      some (part, c :: cs)
    else
      let (last, rest) ← classAtom spaced (skip spaced cs)
      match first, last with
      | .char lo _, .char hi _ => if lo ≤ hi then some (.range lo hi, rest) else none
      | _, _ => none

/-- Reads the start of a class, after its bracket: the negation, and the hyphens or the closing
bracket that stand for themselves there. -/
def classStart (spaced : Bool) (cs : List Char) : Option (Bool × Gathered × List Char) :=
  let cs := skip spaced cs
  let (negated, cs) := match cs with
    | '^' :: ds => (true, skip spaced ds)
    | _ => (false, cs)
  let (hyphens, cs) := takeSpaced (· == '-') spaced false cs
  let gathered := hyphens.foldl (fun g c => g.push (.range c c) 0) Gathered.empty
  match cs with
  | [] => none
  | ']' :: ds =>
    if hyphens.isEmpty then
      match skip spaced ds with
      | [] => none
      | ds => some (negated, gathered.push (.range ']' ']') 0, ds)
    else some (negated, gathered, cs)
  | _ => some (negated, gathered, cs)

/-- Reads the rest of a class up to its closing bracket. The number bounds the parts read. -/
def classBody (spaced : Bool) : Nat → Option Pending → Gathered → List Char →
    Option (ClassTree × Nat × List Char)
  | 0, _, _, _ => none
  | bound + 1, pending, gathered, cs =>
    let operation (o : SetOp) (rest : List Char) :=
      let (tree, depth) := Pending.close pending gathered
      classBody spaced bound (some ⟨tree, depth, o⟩) Gathered.empty rest
    match skip spaced cs with
    | [] => none
    | ']' :: rest =>
      let (tree, depth) := Pending.close pending gathered
      some (tree, depth, rest)
    | '[' :: rest =>
      match namedInBrackets? rest with
      | some (part, rest) => classBody spaced bound pending (gathered.push part 0) rest
      | none => do
        let (negated, inner, rest) ← classStart spaced rest
        let (tree, depth, rest) ← classBody spaced bound none inner rest
        classBody spaced bound pending (gathered.push (.bracket tree negated) (depth + 1)) rest
    | '&' :: '&' :: rest => operation .inter rest
    | '-' :: '-' :: rest => operation .diff rest
    | '~' :: '~' :: rest => operation .symmDiff rest
    | rest => do
      let (part, rest) ← classItem spaced rest
      classBody spaced bound pending (gathered.push part 0) rest

/-- Reads a class in brackets, after the bracket that opens it. -/
def bracketed (spaced : Bool) (cs : List Char) : Option (Token × List Char) := do
  let (negated, gathered, rest) ← classStart spaced cs
  let (tree, depth, rest) ← classBody spaced (cs.length + 1) none gathered rest
  some (.bracket tree negated (depth + 1), rest)

end Interlinear.Regex
