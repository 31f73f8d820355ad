import Interlinear.Regex.Tokens

set_option autoImplicit false

/-! # Patterns as trees

Puts the tokens of a pattern together (`tree?`). Flags hold from the place where they are set to
the end of the group, so what a token means is decided here, from the flags in force: a character
becomes a class of characters, a dot one with or without the ends of lines, and so on.

Where only ASCII is in force, a class that would reach beyond it is refused, and so are a dot and a
property. -/

namespace Interlinear.Regex

/-- What a pattern means. -/
inductive Tree where
  | empty
  | set (s : CharClass)
  | look (l : Look)
  | group (name : String) (t : Tree)
  | seq (a b : Tree)
  | alt (a b : Tree)
  | repeats (t : Tree) (least : Nat) (most : Option Nat) (greedy : Bool)

/-! ## Flags -/

/-- The flags in force. -/
structure Flags where
  anyCase : Bool
  multiLine : Bool
  dotAll : Bool
  swapGreed : Bool
  unicode : Bool
  anyLineEnd : Bool

/-- The flags at the start of a pattern. -/
def Flags.initial : Flags := ⟨false, false, false, false, true, false⟩

/-- The flags in force after settings. -/
def Flags.update (f : Flags) (settings : List FlagSetting) : Flags where
  anyCase := (flagState? settings .anyCase).getD f.anyCase
  multiLine := (flagState? settings .multiLine).getD f.multiLine
  dotAll := (flagState? settings .dotAll).getD f.dotAll
  swapGreed := (flagState? settings .swapGreed).getD f.swapGreed
  unicode := (flagState? settings .unicode).getD f.unicode
  anyLineEnd := (flagState? settings .anyLineEnd).getD f.anyLineEnd

/-! ## Classes -/

/-- Whether a character lies in ASCII. -/
def isAscii (c : Char) : Bool := c.toNat < 128

/-- A class, closed under a change of case if case does not count. -/
def Flags.fold (f : Flags) (s : CharClass) : CharClass :=
  if f.anyCase then if f.unicode then .anyCase s else .asciiCase s else s

/-- A class or, if negated, its complement. A complement reaches beyond ASCII. -/
def Flags.signed? (f : Flags) (negated : Bool) (s : CharClass) : Option CharClass :=
  if negated then if f.unicode then some (.compl s) else none else some s

/-- The union of ranges. -/
def rangeUnion : List (Char × Char) → CharClass
  | [] => .none
  | [(lo, hi)] => .range lo hi
  | (lo, hi) :: rest => .union (.range lo hi) (rangeUnion rest)

/-- The characters of a class that is named inside brackets. -/
def NamedClass.toClass : NamedClass → CharClass
  | .alnum => rangeUnion [('0', '9'), ('A', 'Z'), ('a', 'z')]
  | .alpha => rangeUnion [('A', 'Z'), ('a', 'z')]
  | .ascii => .range '\x00' '\x7f'
  | .blank => rangeUnion [('\t', '\t'), (' ', ' ')]
  | .cntrl => rangeUnion [('\x00', '\x1f'), ('\x7f', '\x7f')]
  | .digit => .range '0' '9'
  | .graph => .range '!' '~'
  | .lower => .range 'a' 'z'
  | .print => .range ' ' '~'
  | .punct => rangeUnion [('!', '/'), (':', '@'), ('[', '`'), ('\x7b', '~')]
  | .space => rangeUnion [('\t', '\r'), (' ', ' ')]
  | .upper => .range 'A' 'Z'
  | .word => rangeUnion [('0', '9'), ('A', 'Z'), ('_', '_'), ('a', 'z')]
  | .xdigit => rangeUnion [('0', '9'), ('A', 'F'), ('a', 'f')]

/-- The characters of a class that is written with one letter. -/
def Flags.short (f : Flags) (k : ShortClass) : CharClass :=
  match k, f.unicode with
  | .digit, true => .digit
  | .blank, true => .blank
  | .word, true => .word
  | .digit, false => NamedClass.digit.toClass
  | .blank, false => NamedClass.space.toClass
  | .word, false => NamedClass.word.toClass

/-- The characters that have a property. -/
def Flags.property? (f : Flags) (name : PropertyName) (negated : Bool) : Option CharClass :=
  if f.unicode then do
    let p ← match name with
      | .plain name => Text.propertyNamed? name
      | .member family name => Text.memberNamed? family name
    f.signed? negated (f.fold (.property p))
  else none

/-- The characters that stand between brackets. -/
def Flags.inBrackets? (f : Flags) : ClassTree → Option CharClass
  | .none => some .none
  | .range lo hi =>
    if f.unicode || (isAscii lo && isAscii hi) then some (.range lo hi) else Option.none
  | .short k negated => f.signed? negated (f.short k)
  | .named k negated => f.signed? negated (f.fold k.toClass)
  | .property name negated => f.property? name negated
  | .bracket t negated => do
    let s ← f.inBrackets? t
    f.signed? negated (f.fold s)
  | .union a b => do
    let a ← f.inBrackets? a
    let b ← f.inBrackets? b
    some (.union a b)
  | .op o a b => do
    let a ← f.inBrackets? a
    let b ← f.inBrackets? b
    match o with
    | .inter => some (.inter (f.fold a) (f.fold b))
    | .diff => some (.diff (f.fold a) (f.fold b))
    | .symmDiff => some (.symmDiff (f.fold a) (f.fold b))

/-! ## Characters and places -/

/-- A single character. -/
def Flags.char? (f : Flags) (c : Char) (asByte : Bool) : Option CharClass :=
  if f.unicode || isAscii c then some (f.fold (.single c))
  else if f.anyCase || asByte then none
  else some (.single c)

/-- The characters a dot stands for. -/
def Flags.dot? (f : Flags) : Option CharClass :=
  if !f.unicode then none
  else if f.dotAll then some .any
  else if f.anyLineEnd then some (.compl (.ofList ['\r', '\n']))
  else some (.compl (.single '\n'))

/-- The place a caret stands for. -/
def Flags.caret (f : Flags) : Look :=
  if f.multiLine then if f.anyLineEnd then .anyLineStart else .lineStart else .textStart

/-- The place a dollar sign stands for. -/
def Flags.dollar (f : Flags) : Look :=
  if f.multiLine then if f.anyLineEnd then .anyLineEnd else .lineEnd else .textEnd

/-- The place an escape stands for. -/
def Flags.place (f : Flags) : WrittenPlace → Look
  | .textStart => .textStart
  | .textEnd => .textEnd
  | .word at_ => .word (f.short .word) at_

/-! ## Building the tree -/

/-- A part of a pattern with the depth to which its parts are nested. Flags are parts too, but
cannot be repeated. -/
structure Part where
  tree : Tree
  depth : Nat
  repeatable : Bool

namespace Part

/-- The trees of parts, one after the other. -/
def sequence : List Part → Tree
  | [] => .empty
  | [p] => p.tree
  | p :: ps => .seq p.tree (sequence ps)

/-- The trees of parts, each to be tried if those before it fail. -/
def choice : List Part → Tree
  | [] => .empty
  | [p] => p.tree
  | p :: ps => .alt p.tree (choice ps)

/-- The depth of several parts taken together as one. -/
def joinedDepth (ps : List Part) : Nat :=
  let deepest := ps.foldl (fun d p => max d p.depth) 0
  if ps.length ≤ 1 then deepest else deepest + 1

end Part

/-- A branch and the branches before it, the last part first, with the flags in force. -/
structure Level where
  flags : Flags
  branches : List Part
  parts : List Part

namespace Level

/-- Adds a part to the branch. -/
def push (l : Level) (p : Part) : Level := { l with parts := p :: l.parts }

/-- The branch as one part. -/
def branch (l : Level) : Part :=
  let parts := l.parts.reverse
  ⟨Part.sequence parts, Part.joinedDepth parts, true⟩

/-- Ends the branch and begins another. -/
def cut (l : Level) : Level := { l with branches := l.branch :: l.branches, parts := [] }

/-- All branches as one part. -/
def whole (l : Level) : Part :=
  let branches := (l.branch :: l.branches).reverse
  ⟨Part.choice branches, Part.joinedDepth branches, true⟩

end Level

/-- A group that is open: its name, if it has one, and the level around it. -/
structure OpenGroup where
  name : Option String
  around : Level

/-- What was built of the tokens so far. -/
structure Builder where
  level : Level
  opened : List OpenGroup
  names : List String

namespace Builder

/-- Before the first token. -/
def start : Builder := ⟨⟨.initial, [], []⟩, [], []⟩

/-- Adds a leaf of the tree. -/
def leaf (b : Builder) (t : Tree) : Builder := { b with level := b.level.push ⟨t, 0, true⟩ }

/-- Opens a group. -/
def openGroup (b : Builder) (name : Option String) (flags : Flags) : Builder :=
  { b with level := ⟨flags, [], []⟩, opened := ⟨name, b.level⟩ :: b.opened }

/-- Closes the innermost group. -/
def closeGroup? (b : Builder) : Option Builder :=
  match b.opened with
  | [] => none
  | g :: opened =>
    let inner := b.level.whole
    let tree := match g.name with
      | some name => .group name inner.tree
      | none => inner.tree
    some { b with level := g.around.push ⟨tree, inner.depth + 1, true⟩, opened := opened }

/-- Repeats the last part of the branch. -/
def repeatLast? (b : Builder) (least : Nat) (most : Option Nat) (marked : Bool) : Option Builder :=
  match b.level.parts with
  | [] => none
  | p :: parts =>
    if p.repeatable then
      let greedy := marked == b.level.flags.swapGreed
      let level := { b.level with parts := parts }
      some { b with level := level.push ⟨.repeats p.tree least most greedy, p.depth + 1, true⟩ }
    else none

/-- Adds a token. -/
def step? (b : Builder) : Token → Option Builder
  | .char c asByte => (b.level.flags.char? c asByte).map fun s => b.leaf (.set s)
  | .dot => b.level.flags.dot?.map fun s => b.leaf (.set s)
  | .caret => some (b.leaf (.look b.level.flags.caret))
  | .dollar => some (b.leaf (.look b.level.flags.dollar))
  | .place p => some (b.leaf (.look (b.level.flags.place p)))
  | .short k negated =>
    (b.level.flags.signed? negated (b.level.flags.short k)).map fun s => b.leaf (.set s)
  | .property name negated =>
    (b.level.flags.property? name negated).map fun s => b.leaf (.set s)
  | .bracket t negated depth =>
    (b.level.flags.inBrackets? (.bracket t negated)).map fun s =>
      { b with level := b.level.push ⟨.set s, depth, true⟩ }
  | .repeats least most marked => b.repeatLast? least most marked
  | .openNamed name =>
    if b.names.contains name then none
    else some ({ b with names := name :: b.names }.openGroup (some name) b.level.flags)
  | .openPlain => some (b.openGroup none b.level.flags)
  | .openFlags settings => some (b.openGroup none (b.level.flags.update settings))
  | .close => b.closeGroup?
  | .bar => some { b with level := b.level.cut }
  | .setFlags settings =>
    let level := { b.level with flags := b.level.flags.update settings }
    some { b with level := level.push ⟨.empty, 0, false⟩ }

/-- The whole pattern, if all groups are closed. -/
def finish? (b : Builder) : Option Part := if b.opened.isEmpty then some b.level.whole else none

end Builder

/-- The depth to which the parts of a pattern may be nested. -/
def maxDepth : Nat := 250

/-- The tree of a list of tokens. -/
def treeOf? (ts : List Token) : Option Tree := do
  let b ← ts.foldlM Builder.step? Builder.start
  let p ← b.finish?
  if p.depth ≤ maxDepth then some p.tree else none

/-- The tree of a pattern; none if the text is no pattern. -/
def tree? (pattern : List Char) : Option Tree := (tokens? pattern).bind treeOf?

end Interlinear.Regex
