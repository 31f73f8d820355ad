import Interlinear.Analysis.Segmentation
import Interlinear.Dictionary.Builder
import Interlinear.Proofs.Union.Prefixes
import Mathlib.Data.List.Basic
import Mathlib.Logic.Function.Iterate

set_option autoImplicit false

/-! # What the search for cuts finds

The ways to cut a text into keys are defined once more, by recursion on their number (`cutsInto`).
The search keeps one quantity: what it has found, followed by all completions of the cuts on its
stack from top to bottom (`CutSearch.outcome`). A step does not change it, so at the end, when the
stack is empty, the search has found what the recursion lists.

`segmentations_all_cuts_descending` tells what that is: exactly the lists of keys of the given
number that the form is the concatenation of, each once, and a list with a longer key at the first
place where they differ before the other. -/

namespace Interlinear

/-! ## Cuts by recursion -/

/-- The ways to cut a text into exactly `parts` keys. -/
def cutsInto (u : Union) : Nat → List Char → List (List String)
  | 0, text => if text.isEmpty then [[]] else []
  | parts + 1, text =>
    (u.prefixes (String.ofList text)).reverse.flatMap fun key =>
      (cutsInto u parts (text.drop key.length)).map (key :: ·)

/-- A text that begins with a key is the key and what is left after it. -/
theorem toList_append_drop {key : String} {text : List Char} (h : key.toList <+: text) :
    key.toList ++ text.drop key.length = text := by
  obtain ⟨rest, rfl⟩ := h
  rw [← String.length_toList, List.drop_left]

theorem mem_cutsInto {u : Union} {parts : Nat} {text : List Char} {pieces : List String} :
    pieces ∈ cutsInto u parts text ↔
      pieces.length = parts ∧ (∀ p ∈ pieces, p ≠ "" ∧ u.contains p = true) ∧
        pieces.flatMap String.toList = text := by
  induction parts generalizing text pieces with
  | zero =>
      rw [cutsInto]
      constructor
      · intro h
        split at h
        next hnil =>
          obtain rfl := List.mem_singleton.1 h
          exact ⟨rfl, by simp, (List.isEmpty_iff.1 hnil).symm⟩
        next => simp at h
      · rintro ⟨hlen, -, rfl⟩
        obtain rfl := List.length_eq_zero_iff.1 hlen
        simp
  | succ parts ih =>
      simp only [cutsInto, List.mem_flatMap, List.mem_reverse, List.mem_map, Union.mem_prefixes,
        String.toList_ofList]
      constructor
      · rintro ⟨key, ⟨hne, hpre, hkey⟩, rest, hrest, rfl⟩
        obtain ⟨hlen, hkeys, htext⟩ := ih.1 hrest
        have hne' : key ≠ "" := fun h => hne (by rw [h]; rfl)
        refine ⟨by rw [List.length_cons, hlen], ?_, ?_⟩
        · exact List.forall_mem_cons.2 ⟨⟨hne', hkey⟩, hkeys⟩
        · rw [List.flatMap_cons, htext, toList_append_drop hpre]
      · rintro ⟨hlen, hkeys, htext⟩
        cases pieces with
        | nil => simp at hlen
        | cons key rest =>
            obtain ⟨⟨hne, hkey⟩, hrest⟩ := List.forall_mem_cons.1 hkeys
            rw [List.flatMap_cons] at htext
            have hpre : key.toList <+: text := ⟨_, htext⟩
            have hdrop : text.drop key.length = rest.flatMap String.toList :=
              List.append_cancel_left ((toList_append_drop hpre).trans htext.symm)
            refine ⟨key, ⟨?_, hpre, hkey⟩, rest, ih.2 ⟨?_, hrest, hdrop.symm⟩, rfl⟩
            · exact fun h => hne (String.toList_eq_nil_iff.1 h)
            · simpa using hlen

/-! ## The order of the cuts -/

theorem pairwise_cutsInto (u : Union) (parts : Nat) (text : List Char) :
    (cutsInto u parts text).Pairwise fun a b =>
      b.map Text.byteLength < a.map Text.byteLength := by
  induction parts generalizing text with
  | zero =>
      rw [cutsInto]
      split
      · exact List.pairwise_singleton _ _
      · exact .nil
  | succ parts ih =>
      rw [cutsInto, List.pairwise_flatMap]
      constructor
      · intro key _
        refine List.pairwise_map.2 ((ih _).imp ?_)
        intro a b hab
        exact List.cons_lt_cons_iff.2 (Or.inr ⟨rfl, hab⟩)
      · refine List.pairwise_reverse.2 ((u.pairwise_prefixes _).imp ?_)
        intro short long hlt a ha b hb
        obtain ⟨a, -, rfl⟩ := List.mem_map.1 ha
        obtain ⟨b, -, rfl⟩ := List.mem_map.1 hb
        exact List.cons_lt_cons_iff.2 (Or.inl hlt)

/-! ## What the search keeps -/

/-- The ways to complete a cut so that it has `parts` keys. -/
def PartialCut.completions (u : Union) (parts : Nat) (c : PartialCut) : List (List String) :=
  (cutsInto u (parts - c.pieces.length) c.rest).map (c.pieces ++ ·)

theorem PartialCut.completions_of_complete (u : Union) {parts : Nat} {c : PartialCut}
    (h : c.pieces.length = parts) :
    c.completions u parts = if c.rest.isEmpty then [c.pieces] else [] := by
  rw [completions, h, Nat.sub_self, cutsInto]
  split
  · simp
  · rfl

/-- A cut that needs more keys is completed by completing its extensions, those with a longer key
first. -/
theorem PartialCut.completions_of_incomplete (u : Union) {parts : Nat} {c : PartialCut}
    (h : c.pieces.length < parts) :
    c.completions u parts = (c.extensions u).reverse.flatMap (completions u parts) := by
  obtain ⟨n, hn⟩ : ∃ n, parts - c.pieces.length = n + 1 := ⟨parts - c.pieces.length - 1, by omega⟩
  rw [completions, hn, cutsInto, extensions, ← List.map_reverse, List.flatMap_map, List.map_flatMap]
  refine List.flatMap_congr fun key _ => ?_
  have hlen : parts - (c.extend key).pieces.length = n := by
    rw [extend, List.length_append, List.length_singleton]
    omega
  rw [completions, hlen, List.map_map]
  refine List.map_congr_left fun rest _ => ?_
  simp [extend]

namespace CutSearch

/-- What the search has found and will find. -/
def outcome (u : Union) (parts : Nat) (s : CutSearch) : List (List String) :=
  s.found ++ s.pending.flatMap (PartialCut.completions u parts)

/-- No cut on the stack has too many keys. -/
def Bounded (parts : Nat) (s : CutSearch) : Prop := ∀ c ∈ s.pending, c.pieces.length ≤ parts

theorem bounded_step (u : Union) {parts : Nat} {s : CutSearch} (h : s.Bounded parts) :
    (s.step u parts).Bounded parts := by
  obtain ⟨pending, found⟩ := s
  cases pending with
  | nil => exact h
  | cons c pending =>
      obtain ⟨hc, hpending⟩ := List.forall_mem_cons.1 h
      by_cases hlen : c.pieces.length = parts
      · rw [step_of_complete u hlen]
        exact hpending
      · rw [step_of_incomplete u hlen]
        intro d hd
        rcases List.mem_append.1 hd with hd | hd
        · obtain ⟨key, -, rfl⟩ := List.mem_map.1 (List.mem_reverse.1 hd)
          rw [PartialCut.extend, List.length_append, List.length_singleton]
          omega
        · exact hpending d hd

theorem outcome_step (u : Union) {parts : Nat} {s : CutSearch} (h : s.Bounded parts) :
    (s.step u parts).outcome u parts = s.outcome u parts := by
  obtain ⟨pending, found⟩ := s
  cases pending with
  | nil => rfl
  | cons c pending =>
      have hc : c.pieces.length ≤ parts := h c List.mem_cons_self
      by_cases hlen : c.pieces.length = parts
      · rw [step_of_complete u hlen]
        simp only [outcome, List.flatMap_cons, PartialCut.completions_of_complete u hlen]
        split
        · rw [List.append_assoc]
        · rfl
      · have hlt : c.pieces.length < parts := Nat.lt_of_le_of_ne hc hlen
        rw [step_of_incomplete u hlen]
        simp only [outcome, List.flatMap_cons, List.flatMap_append,
          PartialCut.completions_of_incomplete u hlt]

/-- A search finds its outcome, after finitely many steps and with nothing left on its stack. -/
theorem exists_iterate_step (u : Union) {parts : Nat} (s : CutSearch) (h : s.Bounded parts) :
    ∃ n, (step u parts)^[n] s = ⟨[], s.outcome u parts⟩ ∧ s.run u parts = s.outcome u parts := by
  by_cases hs : s.pending = []
  · refine ⟨0, ?_, ?_⟩
    · obtain ⟨pending, found⟩ := s
      obtain rfl : pending = [] := hs
      simp [outcome]
    · rw [run, if_pos hs]
      simp [outcome, hs]
  · obtain ⟨n, hn, hrun⟩ := exists_iterate_step u (s.step u parts) (bounded_step u h)
    rw [outcome_step u h] at hn hrun
    refine ⟨n + 1, ?_, ?_⟩
    · rw [Function.iterate_succ_apply, hn]
    · rw [run, if_neg hs, hrun]
termination_by s.weight
decreasing_by exact weight_step_lt u parts hs

theorem bounded_start (form : String) (parts : Nat) : (start form).Bounded parts := by
  intro c hc
  obtain rfl := List.mem_singleton.1 hc
  exact Nat.zero_le parts

theorem outcome_start (u : Union) (form : String) (parts : Nat) :
    (start form).outcome u parts = cutsInto u parts form.toList := by
  simp [start, outcome, PartialCut.completions, PartialCut.whole]

end CutSearch

/-! ## All cuts of a form -/

theorem segmentations_eq_cutsInto (u : Union) (form : String) {parts : Nat} (h : 0 < parts) :
    segmentations u form parts = cutsInto u parts form.toList := by
  obtain ⟨-, -, hrun⟩ := CutSearch.exists_iterate_step u (.start form)
    (CutSearch.bounded_start form parts)
  rw [segmentations, if_neg (Nat.ne_of_gt h), hrun, CutSearch.outcome_start]

/-- **The search for cuts is exact.** It comes to an end after finitely many steps. What it has
found then are the lists of `parts` keys, none of them empty, whose concatenation is the form: all
of them, each once, and in descending order of the lengths of their keys. -/
theorem segmentations_all_cuts_descending (u : Union) (form : String) {parts : Nat}
    (h : 1 ≤ parts) :
    (∃ n, (CutSearch.step u parts)^[n] (.start form) = ⟨[], segmentations u form parts⟩) ∧
    (∀ pieces, pieces ∈ segmentations u form parts ↔
      pieces.length = parts ∧ (∀ p ∈ pieces, p ≠ "" ∧ u.contains p = true) ∧
        String.join pieces = form) ∧
    (segmentations u form parts).Nodup ∧
    (segmentations u form parts).Pairwise fun a b =>
      b.map Text.byteLength < a.map Text.byteLength := by
  have hcuts := segmentations_eq_cutsInto u form h
  refine ⟨?_, ?_, ?_, ?_⟩
  · obtain ⟨n, hn, -⟩ := CutSearch.exists_iterate_step u (.start form)
      (CutSearch.bounded_start form parts)
    exact ⟨n, by rw [hn, CutSearch.outcome_start, hcuts]⟩
  · intro pieces
    rw [hcuts, mem_cutsInto, ← String.toList_join, String.toList_inj]
  · rw [hcuts]
    refine (pairwise_cutsInto u parts form.toList).imp ?_
    rintro a b hlt rfl
    exact absurd hlt (List.lt_irrefl _)
  · rw [hcuts]
    exact pairwise_cutsInto u parts form.toList

/-- A union of one dictionary whose keys overlap. -/
def overlapping : Union :=
  let gloss : Gloss := ⟨"a", .ofList ["n"], "", []⟩
  let keys := ["a", "ab", "aba", "b", "ba"]
  .ofList (keys.foldl (·.insert · gloss) Builder.empty).build.toOption.toList

example : segmentations overlapping "abab" 3
    = [["ab", "a", "b"], ["a", "ba", "b"], ["a", "b", "ab"]] := by decide +kernel

theorem segmentations_overlapping :
    ["aba", "b"] ∈ segmentations overlapping "abab" 2 ∧
    ["a", "bab"] ∉ segmentations overlapping "abab" 2 ∧
    (segmentations overlapping "abab" 2).Nodup := by
  obtain ⟨-, hmem, hnodup, -⟩ := segmentations_all_cuts_descending overlapping "abab"
    (by decide : 1 ≤ 2)
  refine ⟨(hmem _).2 ?_, fun h => ?_, hnodup⟩
  · decide +kernel
  · have hkey := ((hmem _).1 h).2.1 "bab" (by simp)
    exact absurd hkey.2 (by decide +kernel)

end Interlinear
