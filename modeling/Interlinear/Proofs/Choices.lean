import Interlinear.Choices
import Interlinear.Lists
import Mathlib.Algebra.BigOperators.Group.List.Basic

set_option autoImplicit false

/-! # The order of choices

A choice of one member of each of several lists is told by the places of the members
(`chosenAt?`). All choices are listed by their places (`map_chosenAt?_choicePlaces`), and these are
in ascending order, so that each comes once and the first place varies slowest
(`pairwise_choicePlaces`). -/

namespace Interlinear

/-- The members at given places of lists, one of each list. None if a place is not there, or if
there are not as many places as lists. -/
def chosenAt? {α : Type} : List (List α) → List Nat → Option (List α)
  | [], [] => some []
  | xs :: rest, i :: is => do
    let x ← xs[i]?
    let ys ← chosenAt? rest is
    some (x :: ys)
  | _, _ => none

/-- The places of all choices. -/
def choicePlaces {α : Type} (lists : List (List α)) : List (List Nat) :=
  choices (lists.map fun xs => List.range xs.length)

section

variable {α : Type}

theorem chosenAt?_cons (xs : List α) (rest : List (List α)) (i : Nat) (is : List Nat) :
    chosenAt? (xs :: rest) (i :: is) = xs[i]?.bind fun x => (chosenAt? rest is).map (x :: ·) := by
  rw [chosenAt?]
  refine Option.bind_congr fun x _ => ?_
  rw [Option.map_eq_bind]
  rfl

theorem choicePlaces_cons (xs : List α) (rest : List (List α)) :
    choicePlaces (xs :: rest)
      = (List.range xs.length).flatMap fun i => (choicePlaces rest).map (i :: ·) := rfl

theorem mem_choicePlaces {lists : List (List α)} {places : List Nat} :
    places ∈ choicePlaces lists ↔ (chosenAt? lists places).isSome := by
  induction lists generalizing places with
  | nil =>
      cases places with
      | nil => simp [choicePlaces, chosenAt?]
      | cons i is => simp [choicePlaces, chosenAt?]
  | cons xs rest ih =>
      rw [choicePlaces_cons]
      cases places with
      | nil => simp [chosenAt?]
      | cons i is =>
          have hplace : (chosenAt? (xs :: rest) (i :: is)).isSome
              ↔ i < xs.length ∧ (chosenAt? rest is).isSome := by
            rw [chosenAt?_cons]
            by_cases hi : i < xs.length
            · simp [hi]
            · simp [hi]
          rw [hplace, ← ih]
          simp

/-- Of ascending lists, the choices come in ascending order. -/
theorem pairwise_choices {lists : List (List Nat)} (h : ∀ xs ∈ lists, xs.Pairwise (· < ·)) :
    (choices lists).Pairwise (· < ·) := by
  induction lists with
  | nil => exact List.pairwise_singleton _ _
  | cons xs rest ih =>
      obtain ⟨hxs, hrest⟩ := List.forall_mem_cons.1 h
      rw [choices, List.pairwise_flatMap]
      constructor
      · intro x _
        refine List.pairwise_map.2 ((ih hrest).imp ?_)
        intro a b hab
        exact List.cons_lt_cons_iff.2 (Or.inr ⟨rfl, hab⟩)
      · refine hxs.imp ?_
        intro x y hxy a ha b hb
        obtain ⟨a, -, rfl⟩ := List.mem_map.1 ha
        obtain ⟨b, -, rfl⟩ := List.mem_map.1 hb
        exact List.cons_lt_cons_iff.2 (Or.inl hxy)

theorem pairwise_choicePlaces (lists : List (List α)) :
    (choicePlaces lists).Pairwise (· < ·) := by
  refine pairwise_choices fun places hplaces => ?_
  obtain ⟨xs, -, rfl⟩ := List.mem_map.1 hplaces
  exact List.pairwise_lt_range

/-- The choices are the members at their places. -/
theorem map_chosenAt?_choicePlaces (lists : List (List α)) :
    (choicePlaces lists).map (chosenAt? lists) = (choices lists).map some := by
  induction lists with
  | nil => rfl
  | cons xs rest ih =>
      have hrest : ∀ x : α, (choicePlaces rest).map (fun is => (chosenAt? rest is).map (x :: ·))
          = ((choices rest).map (x :: ·)).map some := by
        intro x
        have hmap := congrArg (List.map (Option.map (x :: ·))) ih
        rw [List.map_map, List.map_map] at hmap
        rw [List.map_map]
        exact hmap
      calc (choicePlaces (xs :: rest)).map (chosenAt? (xs :: rest))
          = ((List.range xs.length).map fun i => xs[i]?).flatMap fun x? =>
              (choicePlaces rest).map fun is => x?.bind fun x =>
                (chosenAt? rest is).map (x :: ·) := by
            rw [choicePlaces_cons, List.map_flatMap, List.flatMap_map]
            simp only [List.map_map, Function.comp_def, chosenAt?_cons]
        _ = xs.flatMap fun x => (choicePlaces rest).map fun is =>
              (chosenAt? rest is).map (x :: ·) := by
            rw [List.map_getElem?_range, List.flatMap_map]
            rfl
        _ = (choices (xs :: rest)).map some := by
            rw [choices, List.map_flatMap]
            simp only [hrest]

theorem length_choices (lists : List (List α)) :
    (choices lists).length = (lists.map List.length).prod := by
  induction lists with
  | nil => rfl
  | cons xs rest ih =>
      rw [choices, List.length_flatMap, List.map_cons, List.prod_cons, ← ih]
      simp

/-- There is a choice if each list has a member. -/
theorem choices_ne_nil {lists : List (List α)} (h : ∀ xs ∈ lists, xs ≠ []) :
    choices lists ≠ [] := by
  induction lists with
  | nil => simp
  | cons xs rest ih =>
      obtain ⟨hxs, hrest⟩ := List.forall_mem_cons.1 h
      obtain ⟨x, hx⟩ := List.exists_mem_of_ne_nil xs hxs
      obtain ⟨ys, hys⟩ := List.exists_mem_of_ne_nil _ (ih hrest)
      exact List.ne_nil_of_mem (mem_choices_cons.2 ⟨x, hx, ys, hys, rfl⟩)

/-- There is only one choice just if there is nothing to choose. -/
theorem choices_eq_singleton_iff {lists : List (List α)} (h : ∀ xs ∈ lists, xs ≠ []) {c : List α} :
    choices lists = [c] ↔ lists = c.map fun x => [x] := by
  constructor
  · intro hone
    induction lists generalizing c with
    | nil =>
        rw [choices_nil] at hone
        obtain rfl := List.singleton_inj.1 hone
        rfl
    | cons xs rest ih =>
        obtain ⟨hxs, hrest⟩ := List.forall_mem_cons.1 h
        have hlen := congrArg List.length hone
        rw [length_choices, List.map_cons, List.prod_cons, ← length_choices,
          List.length_singleton] at hlen
        obtain ⟨x, rfl⟩ := List.length_eq_one_iff.1 (Nat.eq_one_of_mul_eq_one_right hlen)
        obtain ⟨ys, hys⟩ := List.length_eq_one_iff.1 (Nat.eq_one_of_mul_eq_one_left hlen)
        rw [choices, List.flatMap_singleton, hys, List.map_singleton] at hone
        obtain rfl := List.singleton_inj.1 hone
        rw [ih hrest hys]
        rfl
  · rintro rfl
    exact choices_map_singleton c

/-- What holds of all members of choices holds of all members of the lists. -/
theorem forall_mem_choices_iff {lists : List (List α)} (h : ∀ xs ∈ lists, xs ≠ []) {P : α → Prop} :
    (∀ c ∈ choices lists, ∀ x ∈ c, P x) ↔ ∀ xs ∈ lists, ∀ x ∈ xs, P x := by
  constructor
  · intro hall
    induction lists with
    | nil => simp
    | cons xs rest ih =>
        obtain ⟨hxs, hrest⟩ := List.forall_mem_cons.1 h
        refine List.forall_mem_cons.2 ⟨fun x hx => ?_, ih hrest fun c hc y hy => ?_⟩
        · obtain ⟨c, hc⟩ := List.exists_mem_of_ne_nil _ (choices_ne_nil hrest)
          exact hall (x :: c) (mem_choices_cons.2 ⟨x, hx, c, hc, rfl⟩) x List.mem_cons_self
        · obtain ⟨x, hx⟩ := List.exists_mem_of_ne_nil xs hxs
          exact hall (x :: c) (mem_choices_cons.2 ⟨x, hx, c, hc, rfl⟩) y
            (List.mem_cons_of_mem x hy)
  · intro hall c hc x hx
    obtain ⟨xs, hxs, hx⟩ := mem_of_mem_choices hc hx
    exact hall xs hxs x hx

end

end Interlinear
