set_option autoImplicit false

/-! # Choices

All ways to choose one member of each of several lists. -/

namespace Interlinear

/-- All lists with one member of each of the given lists; the first member varies slowest. -/
def choices {α : Type} : List (List α) → List (List α)
  | [] => [[]]
  | xs :: rest => xs.flatMap fun x => (choices rest).map (x :: ·)

@[simp]
theorem choices_nil {α : Type} : choices ([] : List (List α)) = [[]] := rfl

theorem mem_choices_cons {α : Type} {xs : List α} {rest : List (List α)} {c : List α} :
    c ∈ choices (xs :: rest) ↔ ∃ x ∈ xs, ∃ ys ∈ choices rest, x :: ys = c := by
  simp [choices]

theorem length_of_mem_choices {α : Type} {lists : List (List α)} {c : List α}
    (h : c ∈ choices lists) : c.length = lists.length := by
  induction lists generalizing c with
  | nil => simp [choices] at h; simp [h]
  | cons xs rest ih =>
    obtain ⟨x, -, ys, hys, rfl⟩ := mem_choices_cons.1 h
    simp [ih hys]

theorem choices_map_singleton {α : Type} (xs : List α) :
    choices (xs.map fun x => [x]) = [xs] := by
  induction xs with
  | nil => rfl
  | cons x xs ih => simp [choices, ih]

/-- To choose among what a test lets through is to choose first and test all members then. -/
theorem filter_choices {α : Type} (q : α → Bool) (lists : List (List α)) :
    (choices lists).filter (·.all q) = choices (lists.map (·.filter q)) := by
  induction lists with
  | nil => rfl
  | cons xs rest ih =>
      induction xs with
      | nil => rfl
      | cons x xs ihx =>
          simp only [choices, List.map_cons, List.flatMap_cons, List.filter_append] at ihx ⊢
          rw [ihx]
          by_cases hx : q x
          · have hkept : ((choices rest).map (x :: ·)).filter (·.all q)
                = ((choices rest).filter (·.all q)).map (x :: ·) := by
              simp [List.filter_map, Function.comp_def, hx]
            rw [hkept, ih, List.filter_cons_of_pos hx, List.flatMap_cons]
          · have hnone : ((choices rest).map (x :: ·)).filter (·.all q) = [] := by
              simp [List.filter_map, Function.comp_def, hx]
            rw [hnone, List.filter_cons_of_neg hx, List.nil_append]

/-- The members of a choice come from the lists. -/
theorem mem_of_mem_choices {α : Type} {lists : List (List α)} {c : List α} (hc : c ∈ choices lists)
    {x : α} (hx : x ∈ c) : ∃ l ∈ lists, x ∈ l := by
  induction lists generalizing c with
  | nil =>
      rw [choices_nil, List.mem_singleton] at hc
      subst hc
      simp at hx
  | cons l lists ih =>
      obtain ⟨y, hy, ys, hys, rfl⟩ := mem_choices_cons.1 hc
      rcases List.mem_cons.1 hx with rfl | hx
      · exact ⟨l, List.mem_cons_self, hy⟩
      · obtain ⟨l', hl', hx'⟩ := ih hys hx
        exact ⟨l', List.mem_cons_of_mem _ hl', hx'⟩

end Interlinear
