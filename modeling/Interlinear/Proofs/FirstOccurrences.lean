import Mathlib.Data.List.Induction

set_option autoImplicit false

/-! # First occurrences

The elements of a list, each at the place where it comes first and none twice. Dropping repetitions
leaves just these (`firstOccurrences_eraseDups`). -/

namespace Interlinear

variable {α : Type} [BEq α] [LawfulBEq α]

/-- The elements of a list, each once, in the order in which they come first. -/
structure FirstOccurrences (all firsts : List α) : Prop where
  mem_iff : ∀ a, a ∈ firsts ↔ a ∈ all
  /-- An element comes before those that come first after it, so none comes twice. -/
  ordered : firsts.Pairwise fun a b => all.idxOf a < all.idxOf b

theorem eraseDups_append_singleton_of_mem {l : List α} {a : α} (h : a ∈ l) :
    (l ++ [a]).eraseDups = l.eraseDups := by
  rw [List.eraseDups_append, List.removeAll, List.filter_cons_of_neg (by simpa using h)]
  simp

theorem eraseDups_append_singleton_of_not_mem {l : List α} {a : α} (h : a ∉ l) :
    (l ++ [a]).eraseDups = l.eraseDups ++ [a] := by
  rw [List.eraseDups_append, List.removeAll, List.filter_cons_of_pos (by simpa using h)]
  simp [List.eraseDups_cons]

theorem firstOccurrences_eraseDups (l : List α) : FirstOccurrences l l.eraseDups where
  mem_iff a := List.mem_eraseDups
  ordered := by
    -- An element at the end does not move the elements before it.
    induction l using List.reverseRecOn with
    | nil => exact .nil
    | append_singleton l a ih =>
        have hkept : l.eraseDups.Pairwise fun b c => (l ++ [a]).idxOf b < (l ++ [a]).idxOf c := by
          refine List.Pairwise.imp_of_mem (fun {b c} hb hc hlt => ?_) ih
          rw [List.idxOf_append, List.idxOf_append, if_pos (List.mem_eraseDups.1 hb),
            if_pos (List.mem_eraseDups.1 hc)]
          exact hlt
        by_cases ha : a ∈ l
        · rw [eraseDups_append_singleton_of_mem ha]
          exact hkept
        · rw [eraseDups_append_singleton_of_not_mem ha, List.pairwise_append]
          refine ⟨hkept, List.pairwise_singleton _ _, fun b hb c hc => ?_⟩
          obtain rfl := List.mem_singleton.1 hc
          have hmem : b ∈ l := List.mem_eraseDups.1 hb
          have hlt : l.idxOf b < l.length := List.idxOf_lt_length_of_mem hmem
          rw [List.idxOf_append, List.idxOf_append, if_pos hmem, if_neg ha]
          omega

end Interlinear
