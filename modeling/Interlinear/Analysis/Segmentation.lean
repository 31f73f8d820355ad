import Interlinear.Union

set_option autoImplicit false

/-! # Cutting a form into keys

A composite form is cut into a given number of keys of the dictionaries. All ways to do so are
listed; those with a longer first piece come first, among them those with a longer second piece,
and so on.

The search (`CutSearch`) keeps a stack of cuts that are not complete yet. A step takes the cut on
top and puts in its place those with one more key, the longest key on top. The stack becomes empty
in the end, because what is left to cut gets lighter with every step (`weight_step_lt`). -/

namespace Interlinear

/-! ## Cuts -/

/-- The keys that were cut off the front of a form, in order, and the rest of the form. -/
structure PartialCut where
  pieces : List String
  rest : List Char

namespace PartialCut

/-- The cut of a form before anything is cut off. -/
def whole (form : String) : PartialCut := ⟨[], form.toList⟩

/-- The cut after one more key. -/
def extend (c : PartialCut) (key : String) : PartialCut :=
  ⟨c.pieces ++ [key], c.rest.drop key.length⟩

/-- The cuts with one more key, the shortest key first. -/
def extensions (u : Union) (c : PartialCut) : List PartialCut :=
  (u.prefixes (String.ofList c.rest)).map c.extend

/-- What a cut counts for in the search: more than all its extensions together. -/
def weight (c : PartialCut) : Nat := Nat.pow 2 c.rest.length

theorem weight_pos (c : PartialCut) : 0 < c.weight := Nat.two_pow_pos _

/-- What several cuts count for together. -/
def totalWeight : List PartialCut → Nat
  | [] => 0
  | c :: cs => c.weight + totalWeight cs

theorem totalWeight_append (cs ds : List PartialCut) :
    totalWeight (cs ++ ds) = totalWeight cs + totalWeight ds := by
  induction cs with
  | nil => rw [List.nil_append, totalWeight, Nat.zero_add]
  | cons c cs ih => rw [List.cons_append, totalWeight, totalWeight, ih, Nat.add_assoc]

theorem totalWeight_reverse (cs : List PartialCut) :
    totalWeight cs.reverse = totalWeight cs := by
  induction cs with
  | nil => rfl
  | cons c cs ih =>
      rw [List.reverse_cons, totalWeight_append, ih, totalWeight, totalWeight, totalWeight]
      omega

/-- There is at most one extension for each length of the key, so the weights of the extensions are
different powers of two below that of the cut. -/
theorem totalWeight_beginnings_lt (q : List Char → Bool) {cs : List Char}
    {cut : List Char → PartialCut} (hcut : ∀ p, (cut p).rest = cs.drop p.length) :
    totalWeight (((beginnings cs).filter q).map cut) < Nat.pow 2 cs.length := by
  induction cs generalizing q cut with
  | nil => exact Nat.one_pos
  | cons c cs ih =>
      have hrest := ih (fun p => q (c :: p)) fun p => hcut (c :: p)
      have hfirst : (cut [c]).weight = Nat.pow 2 cs.length := by
        rw [weight, hcut]
        rfl
      have hpow : Nat.pow 2 (c :: cs).length = Nat.pow 2 cs.length + Nat.pow 2 cs.length := by
        show Nat.pow 2 cs.length * 2 = _
        omega
      have hmap : (((beginnings cs).map (c :: ·)).filter q).map cut
          = ((beginnings cs).filter fun p => q (c :: p)).map fun p => cut (c :: p) := by
        rw [List.filter_map, List.map_map]
        rfl
      rw [beginnings, List.filter_cons]
      split
      · rw [List.map_cons, totalWeight, hmap, hfirst, hpow]
        omega
      · rw [hmap, hpow]
        omega

theorem totalWeight_extensions_lt (u : Union) (c : PartialCut) :
    totalWeight (c.extensions u) < c.weight := by
  have heq : c.extensions u
      = ((beginnings c.rest).filter (u.contains ∘ String.ofList)).map
        fun p => c.extend (String.ofList p) := by
    rw [extensions, Union.prefixes_eq_filter, List.filter_map, List.map_map, String.toList_ofList]
    rfl
  rw [heq]
  exact totalWeight_beginnings_lt _ fun p => by rw [extend, String.length_ofList]

end PartialCut

/-! ## The search -/

/-- A search for the ways to cut a form: the cuts still to be continued, the next one first, and the
ways found so far, in order. -/
structure CutSearch where
  pending : List PartialCut
  found : List (List String)

namespace CutSearch

/-- A search before its first step. -/
def start (form : String) : CutSearch := ⟨[.whole form], []⟩

/-- Takes up the next cut: it is done with if it has as many keys as asked for, and is continued
otherwise. -/
def step (u : Union) (parts : Nat) (s : CutSearch) : CutSearch :=
  match s.pending with
  | [] => s
  | c :: pending =>
    if c.pieces.length = parts then
      ⟨pending, if c.rest.isEmpty then s.found ++ [c.pieces] else s.found⟩
    else ⟨(c.extensions u).reverse ++ pending, s.found⟩

theorem step_of_complete (u : Union) {parts : Nat} {c : PartialCut} (h : c.pieces.length = parts)
    (pending : List PartialCut) (found : List (List String)) :
    step u parts ⟨c :: pending, found⟩
      = ⟨pending, if c.rest.isEmpty then found ++ [c.pieces] else found⟩ := if_pos h

theorem step_of_incomplete (u : Union) {parts : Nat} {c : PartialCut} (h : c.pieces.length ≠ parts)
    (pending : List PartialCut) (found : List (List String)) :
    step u parts ⟨c :: pending, found⟩ = ⟨(c.extensions u).reverse ++ pending, found⟩ := if_neg h

/-- What is left to be done. -/
def weight (s : CutSearch) : Nat := PartialCut.totalWeight s.pending

theorem weight_step_lt (u : Union) (parts : Nat) {s : CutSearch} (h : s.pending ≠ []) :
    (s.step u parts).weight < s.weight := by
  obtain ⟨pending, found⟩ := s
  cases pending with
  | nil => exact absurd rfl h
  | cons c pending =>
      have hc := c.weight_pos
      have hext := PartialCut.totalWeight_extensions_lt u c
      by_cases hlen : c.pieces.length = parts
      · rw [step_of_complete u hlen]
        simp only [weight, PartialCut.totalWeight]
        omega
      · rw [step_of_incomplete u hlen]
        simp only [weight, PartialCut.totalWeight, PartialCut.totalWeight_append,
          PartialCut.totalWeight_reverse]
        omega

/-- Carries a search through to its end. -/
def run (u : Union) (parts : Nat) (s : CutSearch) : List (List String) :=
  if s.pending = [] then s.found else run u parts (s.step u parts)
termination_by s.weight
decreasing_by exact weight_step_lt u parts ‹_›

end CutSearch

/-- The ways to cut a form into a given number of keys. There is none to cut it into no keys. -/
def segmentations (u : Union) (form : String) (parts : Nat) : List (List String) :=
  if parts = 0 then [] else (CutSearch.start form).run u parts

end Interlinear
