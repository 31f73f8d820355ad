import Interlinear.Proofs.Text.Lowering

set_option autoImplicit false

/-! # Tables of ranges

A table of ranges in ascending order holds just the code points of its ranges (`inRanges_iff`). So it
can be asked as a set of them (`inRanges_eq_inCodeSet`), which is held as the bits of a number and
takes up all code points of a range at once (`rangeSet`). Two tables are compared by their sets
(`inRanges_of_subset`, `inRanges_of_disjoint`). -/

namespace Interlinear.Text

/-- A range ends before another one begins. -/
def CodeRange.Before (r s : CodeRange) : Prop := r.lo ≤ r.hi ∧ r.hi < s.lo

instance : DecidableRel CodeRange.Before := fun r s =>
  inferInstanceAs (Decidable (r.lo ≤ r.hi ∧ r.hi < s.lo))

instance : Trans CodeRange.Before CodeRange.Before CodeRange.Before where
  trans := by
    rintro a b c ⟨hab, hab'⟩ ⟨hbc, hbc'⟩
    exact ⟨hab, by omega⟩

/-- In a table in ascending order, the code points of a range are found. -/
theorem inRanges_of_mem {rows : List CodeRange} (h : rows.IsChain CodeRange.Before) {r : CodeRange}
    (hr : r ∈ rows) {n : Nat} (hlo : r.lo ≤ n) (hhi : n ≤ r.hi) : inRanges rows n = true := by
  rw [List.isChain_iff_pairwise] at h
  induction rows with
  | nil => cases hr
  | cons s rows ih =>
      obtain ⟨hs, hrows⟩ := List.pairwise_cons.1 h
      rw [inRanges]
      rcases List.mem_cons.1 hr with rfl | hr
      · rw [if_neg (Nat.not_lt.2 hlo), if_pos hhi]
      · -- The first range ends before `r` begins, so the search goes on behind it.
        obtain ⟨hself, hbefore⟩ := hs r hr
        rw [if_neg (by omega), if_neg (by omega), ih hrows hr]

theorem inRanges_iff {rows : List CodeRange} (h : rows.IsChain CodeRange.Before) {n : Nat} :
    inRanges rows n = true ↔ ∃ r ∈ rows, r.lo ≤ n ∧ n ≤ r.hi :=
  ⟨exists_of_inRanges, fun ⟨_, hr, hlo, hhi⟩ => inRanges_of_mem h hr hlo hhi⟩

/-! ## Sets of ranges -/

/-- The code points of a range, as the bits of a number. -/
def CodeRange.set (r : CodeRange) : Nat :=
  Nat.shiftLeft (Nat.sub (Nat.shiftLeft 1 (r.hi + 1 - r.lo)) 1) r.lo

/-- The code points of some ranges, as the bits of a number. -/
def rangeSet (rows : List CodeRange) : Nat := rows.foldr (fun r set => Nat.lor r.set set) 0

theorem CodeRange.testBit_set {r : CodeRange} {n : Nat} :
    r.set.testBit n = true ↔ r.lo ≤ n ∧ n ≤ r.hi := by
  have hset : r.set = (2 ^ (r.hi + 1 - r.lo) - 1) <<< r.lo := by
    rw [← Nat.one_shiftLeft]
    rfl
  rw [hset, Nat.testBit_shiftLeft, Nat.testBit_two_pow_sub_one, Bool.and_eq_true,
    decide_eq_true_eq, decide_eq_true_eq]
  omega

theorem testBit_rangeSet {rows : List CodeRange} {n : Nat} :
    (rangeSet rows).testBit n = true ↔ ∃ r ∈ rows, r.lo ≤ n ∧ n ≤ r.hi := by
  induction rows with
  | nil => simp [rangeSet]
  | cons r rows ih =>
      have hcons : rangeSet (r :: rows) = r.set ||| rangeSet rows := rfl
      rw [hcons, Nat.testBit_or, Bool.or_eq_true, CodeRange.testBit_set, ih]
      simp

/-- A table in ascending order, asked as a set of code points. -/
theorem inRanges_eq_inCodeSet {rows : List CodeRange} (h : rows.IsChain CodeRange.Before) (n : Nat) :
    inRanges rows n = inCodeSet (rangeSet rows) n := by
  rw [Bool.eq_iff_iff, inCodeSet_iff_testBit, testBit_rangeSet, inRanges_iff h]

theorem testBit_of_inRanges {rows : List CodeRange} {n : Nat} (h : inRanges rows n = true) :
    (rangeSet rows).testBit n = true :=
  testBit_rangeSet.2 (exists_of_inRanges h)

theorem testBit_of_land_eq {a b c n : Nat} (h : Nat.land a b = c) (ha : a.testBit n = true)
    (hb : b.testBit n = true) : c.testBit n = true := by
  have h : a &&& b = c := h
  rw [← h, Nat.testBit_and, ha, hb, Bool.true_and]

/-- What one table holds, another one in ascending order holds if its set takes in the other. -/
theorem inRanges_of_subset {rows rows' : List CodeRange} (h : rows'.IsChain CodeRange.Before)
    (hset : Nat.lor (rangeSet rows) (rangeSet rows') = rangeSet rows') {n : Nat}
    (hn : inRanges rows n = true) : inRanges rows' n = true := by
  have hset : rangeSet rows ||| rangeSet rows' = rangeSet rows' := hset
  rw [inRanges_iff h, ← testBit_rangeSet, ← hset, Nat.testBit_or, testBit_of_inRanges hn,
    Bool.true_or]

theorem inRanges_of_disjoint {rows rows' : List CodeRange}
    (hset : Nat.land (rangeSet rows) (rangeSet rows') = 0) {n : Nat}
    (hn : inRanges rows n = true) : inRanges rows' n = false := by
  rw [Bool.eq_false_iff]
  intro hn'
  have hbit := testBit_of_land_eq hset (testBit_of_inRanges hn) (testBit_of_inRanges hn')
  rw [Nat.zero_testBit] at hbit
  contradiction

end Interlinear.Text
