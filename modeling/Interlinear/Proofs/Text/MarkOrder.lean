import Interlinear.Proofs.Text.Decomposition
import Mathlib.Data.List.Chain

set_option autoImplicit false

/-! # The order of marks

Ordering the marks of a text is a stable insertion sort within each cluster. Its result is in order
(`ordered_orderMarks`), and a text in order is left as it is (`orderMarks_of_ordered`). A mark may
be written before marks of lower classes or after them (`orderMarks_append_cons`). Marks can be left
out before or after the ordering (`filter_orderMarks`). -/

namespace Interlinear.Text

/-- A character may stand right before another one in a text whose marks are in order. -/
def MayPrecede (c d : Char) : Prop := combiningClass d = 0 ∨ combiningClass c ≤ combiningClass d

/-- The marks of each cluster are in order. -/
def Ordered (cs : List Char) : Prop := cs.IsChain MayPrecede

theorem mayPrecede_iff {c d : Char} :
    MayPrecede c d ↔ ¬ (0 < combiningClass d ∧ combiningClass d < combiningClass c) := by
  rw [MayPrecede]
  omega

theorem placeMark_of_mayPrecede {c d : Char} (h : MayPrecede c d) (ds : List Char) :
    placeMark c (d :: ds) = c :: d :: ds :=
  if_neg (mayPrecede_iff.1 h)

theorem placeMark_of_not_mayPrecede {c d : Char} (h : ¬ MayPrecede c d) (ds : List Char) :
    placeMark c (d :: ds) = d :: placeMark c ds :=
  if_pos (not_not.1 (mt mayPrecede_iff.2 h))

/-- Of two characters, one may stand before the other. -/
theorem mayPrecede_of_not {c d : Char} (h : ¬ MayPrecede c d) : MayPrecede d c := by
  simp only [MayPrecede] at h ⊢
  omega

/-! ## Ordered texts -/

theorem placeMark_of_ordered {c : Char} {cs : List Char} (h : Ordered (c :: cs)) :
    placeMark c cs = c :: cs := by
  cases cs with
  | nil => rfl
  | cons d ds => exact placeMark_of_mayPrecede (List.isChain_cons_cons.1 h).1 ds

theorem orderMarks_of_ordered {cs : List Char} (h : Ordered cs) : orderMarks cs = cs := by
  induction cs with
  | nil => rfl
  | cons c cs ih =>
      show placeMark c (orderMarks cs) = c :: cs
      rw [ih h.tail, placeMark_of_ordered h]

/-- What may stand before a character and before a text may stand before the text with the character
placed in it. -/
theorem ordered_cons_placeMark {a c : Char} {cs : List Char} (hac : MayPrecede a c)
    (h : Ordered (a :: cs)) : Ordered (a :: placeMark c cs) := by
  induction cs generalizing a with
  | nil => exact List.isChain_cons_cons.2 ⟨hac, List.isChain_singleton c⟩
  | cons d ds ih =>
      obtain ⟨had, hds⟩ := List.isChain_cons_cons.1 h
      by_cases hcd : MayPrecede c d
      · rw [placeMark_of_mayPrecede hcd]
        exact List.isChain_cons_cons.2 ⟨hac, List.isChain_cons_cons.2 ⟨hcd, hds⟩⟩
      · rw [placeMark_of_not_mayPrecede hcd]
        exact List.isChain_cons_cons.2 ⟨had, ih (mayPrecede_of_not hcd) hds⟩

theorem ordered_placeMark {c : Char} {cs : List Char} (h : Ordered cs) :
    Ordered (placeMark c cs) := by
  cases cs with
  | nil => exact List.isChain_singleton c
  | cons d ds =>
      by_cases hcd : MayPrecede c d
      · rw [placeMark_of_mayPrecede hcd]
        exact List.isChain_cons_cons.2 ⟨hcd, h⟩
      · rw [placeMark_of_not_mayPrecede hcd]
        exact ordered_cons_placeMark (mayPrecede_of_not hcd) h

theorem ordered_orderMarks (cs : List Char) : Ordered (orderMarks cs) := by
  induction cs with
  | nil => exact List.isChain_nil
  | cons c cs ih => exact ordered_placeMark ih

theorem orderMarks_orderMarks (cs : List Char) : orderMarks (orderMarks cs) = orderMarks cs :=
  orderMarks_of_ordered (ordered_orderMarks cs)

/-! ## Parts of a text -/

theorem orderMarks_append (cs ds : List Char) :
    orderMarks (cs ++ ds) = cs.foldr placeMark (orderMarks ds) := List.foldr_append

/-- How a text begins does not matter for the order of the rest. -/
theorem orderMarks_append_congr (cs : List Char) {ds es : List Char}
    (h : orderMarks ds = orderMarks es) : orderMarks (cs ++ ds) = orderMarks (cs ++ es) := by
  rw [orderMarks_append, orderMarks_append, h]

/-- Two marks of different classes can be placed in either order. -/
theorem placeMark_placeMark {c d : Char} (hd : combiningClass d ≠ 0)
    (hlt : combiningClass d < combiningClass c) (cs : List Char) :
    placeMark c (placeMark d cs) = placeMark d (placeMark c cs) := by
  have hcd : ¬ MayPrecede c d := by
    simp only [MayPrecede]
    omega
  have hdc : MayPrecede d c := mayPrecede_of_not hcd
  induction cs with
  | nil =>
      show placeMark c [d] = placeMark d [c]
      rw [placeMark_of_not_mayPrecede hcd, placeMark_of_mayPrecede hdc]
      rfl
  | cons e es ih =>
      by_cases hde : MayPrecede d e
      · -- The mark `d` stays in front, wherever `c` goes.
        rw [placeMark_of_mayPrecede hde, placeMark_of_not_mayPrecede hcd]
        by_cases hce : MayPrecede c e
        · rw [placeMark_of_mayPrecede hce, placeMark_of_mayPrecede hdc]
        · rw [placeMark_of_not_mayPrecede hce, placeMark_of_mayPrecede hde]
      · -- Both marks go past `e`.
        have hce : ¬ MayPrecede c e := by
          simp only [MayPrecede] at hde ⊢
          omega
        rw [placeMark_of_not_mayPrecede hde, placeMark_of_not_mayPrecede hce,
          placeMark_of_not_mayPrecede hce, placeMark_of_not_mayPrecede hde, ih]

/-- A mark that comes after marks of lower classes can be written before them. -/
theorem orderMarks_append_cons {c : Char} {cs : List Char}
    (h : ∀ d ∈ cs, combiningClass d ≠ 0 ∧ combiningClass d < combiningClass c) (ds : List Char) :
    orderMarks (cs ++ c :: ds) = orderMarks (c :: (cs ++ ds)) := by
  induction cs with
  | nil => rfl
  | cons d cs ih =>
      obtain ⟨⟨hd, hlt⟩, hcs⟩ := List.forall_mem_cons.1 h
      show placeMark d (orderMarks (cs ++ c :: ds))
        = placeMark c (placeMark d (orderMarks (cs ++ ds)))
      rw [ih hcs, placeMark_placeMark hd hlt]
      rfl

/-! ## Leaving marks out -/

/-- Only marks do not pass. -/
def PassesStarters (p : Char → Bool) : Prop := ∀ c, p c = false → combiningClass c ≠ 0

variable {p : Char → Bool}

/-- A character that may stand before a mark may stand before what is left of a text that the mark
begins. -/
theorem placeMark_filter_of_mayPrecede (hp : PassesStarters p) {c d : Char} {ds : List Char}
    (hcd : MayPrecede c d) (hd : combiningClass d ≠ 0) (h : Ordered (d :: ds)) :
    placeMark c (ds.filter p) = c :: ds.filter p := by
  induction ds generalizing d with
  | nil => rfl
  | cons e es ih =>
      obtain ⟨hde, hes⟩ := List.isChain_cons_cons.1 h
      have hce : MayPrecede c e := by
        simp only [MayPrecede] at hcd hde ⊢
        omega
      cases hpe : p e with
      | true =>
          rw [List.filter_cons_of_pos hpe]
          exact placeMark_of_mayPrecede hce _
      | false =>
          rw [List.filter_cons_of_neg (by simp [hpe])]
          exact ih hce (hp e hpe) hes

theorem filter_placeMark (hp : PassesStarters p) {c : Char} {cs : List Char} (h : Ordered cs) :
    (placeMark c cs).filter p = if p c then placeMark c (cs.filter p) else cs.filter p := by
  induction cs with
  | nil => simp [placeMark, List.filter_cons]
  | cons d ds ih =>
      by_cases hcd : MayPrecede c d
      · rw [placeMark_of_mayPrecede hcd]
        cases hpc : p c with
        | false => simp [List.filter_cons, hpc]
        | true =>
            rw [List.filter_cons_of_pos hpc, if_pos rfl]
            cases hpd : p d with
            | true =>
                rw [List.filter_cons_of_pos hpd, placeMark_of_mayPrecede hcd]
            | false =>
                rw [List.filter_cons_of_neg (by simp [hpd]),
                  placeMark_filter_of_mayPrecede hp hcd (hp d hpd) h]
      · rw [placeMark_of_not_mayPrecede hcd]
        cases hpd : p d with
        | false =>
            rw [List.filter_cons_of_neg (by simp [hpd]), List.filter_cons_of_neg (by simp [hpd]),
              ih h.tail]
        | true =>
            rw [List.filter_cons_of_pos hpd, List.filter_cons_of_pos hpd, ih h.tail]
            cases hpc : p c with
            | false => rfl
            | true => exact (placeMark_of_not_mayPrecede hcd _).symm

/-- Marks are left out before or after ordering. -/
theorem filter_orderMarks (hp : PassesStarters p) (cs : List Char) :
    (orderMarks cs).filter p = orderMarks (cs.filter p) := by
  induction cs with
  | nil => rfl
  | cons c cs ih =>
      show (placeMark c (orderMarks cs)).filter p = _
      rw [filter_placeMark hp (ordered_orderMarks cs), ih]
      cases hpc : p c with
      | true =>
          rw [List.filter_cons_of_pos hpc]
          rfl
      | false =>
          rw [List.filter_cons_of_neg (by simp [hpc])]
          rfl

end Interlinear.Text
