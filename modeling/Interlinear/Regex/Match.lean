import Interlinear.Regex.Basic

set_option autoImplicit false

/-! # Matching

`Regex.run` lists the places where a match that begins at a given place can end, the preferred one
first and each place once. A search (`Regex.find?`) takes the first match at the first place of the
text where there is one.

When two ways lead to the same place, whatever follows is preferred for the first of them, so the
second may be forgotten; this keeps the lists short. -/

namespace Interlinear

/-- A place in a text that is being matched. -/
structure Cursor where
  /-- The character before this place; none at the start of the text. -/
  before : Option Char
  /-- The text after this place. -/
  rest : List Char
  /-- The number of characters before this place. -/
  taken : Nat
  /-- The texts of the groups matched on the way here, the last one first. -/
  groups : List (String × List Char)
  /-- The numbers passed since the last character was read. -/
  marks : List Nat

namespace Cursor

/-- The start of a text. -/
def start (text : List Char) : Cursor := ⟨none, text, 0, [], []⟩

/-- Reads a character of a class. -/
def read (s : CharClass) (c : Cursor) : List Cursor :=
  match c.rest with
  | [] => []
  | d :: ds => if s.contains d then [⟨some d, ds, c.taken + 1, c.groups, []⟩] else []

/-- Passes a mark that was not passed since the last character was read. -/
def pass (mark : Nat) (c : Cursor) : List Cursor :=
  if c.marks.contains mark then [] else [{ c with marks := mark :: c.marks }]

/-- Remembers the text read since the place `since` under a name. -/
def remember (c : Cursor) (name : String) (since : Cursor) : Cursor :=
  { c with groups := (name, since.rest.take (c.taken - since.taken)) :: c.groups }

/-- The text last remembered under a name. -/
def group? (name : String) (c : Cursor) : Option (List Char) :=
  (c.groups.find? (·.1 == name)).map (·.2)

end Cursor

/-- The cursors that were found so far. The places where they are can be told at once. -/
structure Found where
  /-- The cursors, the last one first. -/
  cursors : List Cursor
  /-- A number whose bits mark the places where there is a cursor. -/
  places : Nat
  testBit_places : ∀ k, places.testBit k = cursors.any (·.taken == k)

namespace Found

/-- No cursors. -/
def none : Found := ⟨[], 0, fun k => by simp⟩

/-- Whether one of the cursors is where `c` is. -/
def has (f : Found) (c : Cursor) : Bool := f.places.testBit c.taken

/-- One more cursor. -/
def add (f : Found) (c : Cursor) : Found where
  cursors := c :: f.cursors
  places := f.places ||| 1 <<< c.taken
  testBit_places k := by
    rw [Nat.testBit_or, f.testBit_places, List.any_cons, Bool.or_comm, Nat.one_shiftLeft,
      Nat.testBit_two_pow]
    rfl

theorem has_eq (f : Found) (c : Cursor) : f.has c = f.cursors.any (·.taken == c.taken) :=
  f.testBit_places c.taken

@[simp]
theorem cursors_none : none.cursors = [] := rfl

@[simp]
theorem cursors_add (f : Found) (c : Cursor) : (f.add c).cursors = c :: f.cursors := rfl

/-- The cursors in the order in which they were found. -/
def toList (f : Found) : List Cursor := f.cursors.reverse

/-- The first cursor at each place. -/
def ofList (cs : List Cursor) : Found := cs.foldl (fun f c => if f.has c then f else f.add c) none

end Found

namespace Regex

/-- Extends what was `found` so far by the places that are reached from `c` in one or more steps. A
greedy repetition prefers the places further on to the place it has reached. The number bounds the
length of a chain of steps. -/
def repeatFrom (step : Cursor → List Cursor) (greedy : Bool) : Nat → Cursor → Found → Found
  | 0, _, found => found
  | bound + 1, c, found =>
    (step c).foldl (fun found d =>
      if found.has d then found
      else if greedy then (repeatFrom step greedy bound d found).add d
      else repeatFrom step greedy bound d (found.add d)) found

/-- The places where a match that begins at a place can end, in the order of preference. A chain of
steps of a repetition reads a character in all steps but the first, so its length is bounded. -/
def run : Regex → Cursor → List Cursor
  | empty, c => [c]
  | set s, c => c.read s
  | look l, c => if l.holds c.before c.rest.head? then [c] else []
  | once mark, c => c.pass mark
  | seq a b, c => (Found.ofList ((a.run c).flatMap b.run)).toList
  | alt a b, c => (Found.ofList (a.run c ++ b.run c)).toList
  | plus greedy r, c => (repeatFrom r.run greedy (c.rest.length + 2) c .none).toList
  | group name r, c => (r.run c).map (·.remember name c)

/-- The preferred match at the first place at or after the given one where there is a match, as the
place where it ends. -/
def findFrom (r : Regex) (before : Option Char) (taken : Nat) : List Char → Option Cursor
  | [] => (r.run ⟨before, [], taken, [], []⟩).head?
  | c :: cs =>
    match (r.run ⟨before, c :: cs, taken, [], []⟩).head? with
    | some found => some found
    | none => findFrom r (some c) (taken + 1) cs

/-- The end of the first match in a text. -/
def find? (r : Regex) (text : List Char) : Option Cursor :=
  if r.anchored then (r.run (.start text)).head? else r.findFrom none 0 text

/-- Whether there is a match in a text. -/
def isMatch (r : Regex) (text : List Char) : Bool := (r.find? text).isSome

end Regex

end Interlinear
