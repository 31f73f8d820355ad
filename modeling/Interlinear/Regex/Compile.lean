import Interlinear.Regex.Match
import Interlinear.Regex.Tree

set_option autoImplicit false

/-! # Patterns as regular expressions

Makes a regular expression of a pattern (`Regex.ofPattern`). Repetitions become one or more
matches in a row, choices and sequences.

A repetition of something that matches the empty text could go on for ever. In such a repetition
each place of choice is marked, so that a match passes it at most once between two characters. -/

namespace Interlinear

/-- Why a text is no pattern. -/
inductive PatternFault where
  /-- The text breaks the rules of patterns. -/
  | malformed
  /-- The repetitions make the regular expression too large. -/
  | tooLarge
deriving DecidableEq, Repr

namespace PatternFault

/-- The size, in bytes, that a regular expression may take. -/
def sizeLimit : Nat := 10485760

/-- The report of a fault. Of a malformed pattern only the heading is given. -/
def message : PatternFault → String
  | malformed => "regex parse error:"
  | tooLarge => "Compiled regex exceeds size limit of " ++ toString sizeLimit ++ " bytes."

end PatternFault

namespace Regex

namespace Tree

/-- Whether the empty text matches, but for the conditions on its place. -/
def nullable : Tree → Bool
  | empty => true
  | set _ => false
  | look _ => true
  | group _ t => t.nullable
  | seq a b => a.nullable && b.nullable
  | alt a b => a.nullable || b.nullable
  | repeats t least _ _ => least == 0 || t.nullable

/-- Whether nothing but the empty text matches. -/
def emptyOnly : Tree → Bool
  | empty => true
  | set _ => false
  | look _ => true
  | group _ t => t.emptyOnly
  | seq a b => a.emptyOnly && b.emptyOnly
  | alt a b => a.emptyOnly && b.emptyOnly
  | repeats t _ most _ => most == some 0 || t.emptyOnly

/-- The number of times that something is repeated: what matches only the empty text is never
repeated more than once. -/
def bounds (t : Tree) (least : Nat) (most : Option Nat) : Nat × Option Nat :=
  if t.emptyOnly then (min least 1, some (min (most.getD 1) 1)) else (least, most)

/-- About how much room, in bytes, the regular expression takes. A state takes 32 bytes, and each
further range of a class 24. -/
def room : Tree → Nat
  | empty => 32
  | set s => 32 + 24 * (s.rangeCount - 1)
  | look _ => 32
  | group _ t => t.room + 64
  | seq a b => a.room + b.room
  | alt a b => a.room + b.room + 32
  | repeats t least most _ =>
    match t.bounds least most with
    | (_, some most) => most * (t.room + 32)
    | (least, none) => max least 1 * (t.room + 32)

end Tree

/-- A choice between going on and stopping, in the order that greed asks for. -/
def orEmpty (greedy : Bool) (r : Regex) : Regex := if greedy then alt r empty else alt empty r

/-- A number that was not handed out before. -/
def fresh : StateM Nat Nat := modifyGet fun n => (n, n + 1)

/-- Puts a mark before a regular expression, if places of choice are to be marked. -/
def marked (guarded : Bool) (r : Regex) : StateM Nat Regex :=
  if guarded then (fun n => seq (once n) r) <$> fresh else pure r

/-- What matches `a` followed by `b`. Sequences are grouped to the left: then no part is matched
twice from the same place, whatever the ways to get there. -/
def andThen (a : Regex) : Regex → Regex
  | seq b c => seq (andThen a b) c
  | b => seq a b

/-- What matches `before`, if there is anything, followed by `r`. -/
def after (before : Option Regex) (r : Regex) : Regex :=
  match before with
  | none => r
  | some b => b.andThen r

/-- Up to `count` matches in a row, each within the one before it. -/
def nested (guarded greedy : Bool) (one : StateM Nat Regex) : Nat → StateM Nat Regex
  | 0 => pure empty
  | 1 => do
    let r ← one
    marked guarded (orEmpty greedy r)
  | count + 1 => do
    let r ← one
    let more ← nested guarded greedy one count
    marked guarded (orEmpty greedy (r.andThen more))

/-- What matches `before` and then exactly `count` matches. -/
def times (one : StateM Nat Regex) (before : Option Regex) : Nat → StateM Nat (Option Regex)
  | 0 => pure before
  | count + 1 => do
    let r ← one
    times one (some (after before r)) count

/-- What matches `before` and then up to `count` matches in a row. As many as possible are the same
as `count` choices of a match or nothing, one after the other. -/
def upTo (guarded greedy : Bool) (one : StateM Nat Regex) (before : Option Regex) (count : Nat) :
    StateM Nat (Option Regex) :=
  if count = 0 then pure before
  else if greedy && !guarded then times (orEmpty greedy <$> one) before count
  else (fun r => some (after before r)) <$> nested guarded greedy one count

/-- One or more matches. If the body matches the empty text, the place of choice after it is
marked. -/
def oneOrMore (guarded greedy : Bool) (body : StateM Nat Regex) : StateM Nat Regex := do
  let r ← body
  if guarded then
    let n ← fresh
    pure (plus greedy (seq r (once n)))
  else pure (plus greedy r)

/-- Any number of matches of a body that matches no empty text. Before the body and after it the
same choice is made, so both places carry the same mark. -/
def anyNumber (guarded greedy : Bool) (body : StateM Nat Regex) : StateM Nat Regex := do
  let r ← body
  if guarded then
    let n ← fresh
    pure (seq (once n) (orEmpty greedy (plus greedy (seq r (once n)))))
  else pure (orEmpty greedy (plus greedy r))

/-- The regular expression of a tree. In a `guarded` one, places of choice are marked. -/
def lower (guarded : Bool) : Tree → StateM Nat Regex
  | .empty => pure empty
  | .set s => pure (set s)
  | .look l => pure (look l)
  | .group name t => group name <$> lower guarded t
  | .seq a b => do
    let a ← lower guarded a
    let b ← lower guarded b
    pure (a.andThen b)
  | .alt a b => do
    let a ← lower guarded a
    let b ← lower guarded b
    marked guarded (alt a b)
  | .repeats t least most greedy =>
    let inner := guarded || t.nullable
    match t.bounds least most with
    | (0, none) =>
      if t.nullable then do
        let r ← oneOrMore inner greedy (lower inner t)
        marked guarded (orEmpty greedy r)
      else anyNumber guarded greedy (lower inner t)
    | (least + 1, none) => do
      let before ← times (lower guarded t) none least
      let last ← oneOrMore inner greedy (lower inner t)
      pure (after before last)
    | (least, some most) => do
      let before ← times (lower guarded t) none least
      let r ← upTo guarded greedy (lower guarded t) before (most - least)
      pure (r.getD empty)

/-- The regular expression of a pattern. -/
def ofPattern (pattern : String) : Except PatternFault Regex :=
  match tree? pattern.toList with
  | none => .error .malformed
  | some t =>
    if PatternFault.sizeLimit < t.room then .error .tooLarge
    else .ok ((lower false t).run 0).1

end Regex

end Interlinear
