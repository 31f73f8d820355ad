import Interlinear.Proofs.Text.Decomposition

set_option autoImplicit false

/-! # Decomposition is complete

A code point is settled if there is nothing to take apart (`Settled`). A character is taken apart at
most `expansionDepth` times over, and that is enough: what is left is settled
(`settled_of_mem_canonicalCodes`), so that a decomposed text is not changed by taking it apart again
(`AllSettled.flatMap_eq`).

That the depth is enough is a fact about the tables. Each row is a step from a character to the one
it stands for or begins with, and there are no five steps in a row (`stepsLeading_expansionDepth`).
So that the tables are searched once and not for each row, the code points to be looked for are held
as the bits of a number (`codeSet`). -/

namespace Interlinear.Text

/-! ## Sets of code points -/

/-- Some code points, as the bits of one number. The operations on numbers are named here, and not
written with operators, since they are carried out for thousands of rows. -/
def codeSet (codes : List Nat) : Nat :=
  codes.foldr (fun n set => Nat.lor set (Nat.shiftLeft 1 n)) 0

/-- Whether a code point is in a set. -/
def inCodeSet (set n : Nat) : Bool := Nat.beq (Nat.land (Nat.shiftRight set n) 1) 1

theorem inCodeSet_iff_testBit {set n : Nat} : inCodeSet set n = true ↔ set.testBit n = true := by
  rw [inCodeSet, Nat.beq_eq, Nat.testBit_eq_decide_div_mod_eq, decide_eq_true_eq,
    ← Nat.shiftRight_eq_div_pow, ← Nat.and_one_is_mod]
  rfl

theorem inCodeSet_codeSet {codes : List Nat} {n : Nat} :
    inCodeSet (codeSet codes) n = true ↔ n ∈ codes := by
  rw [inCodeSet_iff_testBit]
  induction codes with
  | nil => simp [codeSet]
  | cons m codes ih =>
      have hcons : codeSet (m :: codes) = codeSet codes ||| 1 <<< m := rfl
      rw [hcons, Nat.testBit_or, Bool.or_eq_true, ih, Nat.one_shiftLeft, Nat.testBit_two_pow,
        decide_eq_true_eq, List.mem_cons, or_comm, eq_comm]

/-! ## Steps -/

/-- The code points that are taken apart, each with the one it stands for or begins with. -/
def steps : List (Nat × Nat) :=
  aliases.map (fun a => (a.source, a.target)) ++
    (primaryPairings ++ excludedPairings).map fun p => (p.composed, p.base)

/-- The steps that as many further steps can follow as the number says. -/
def stepsLeading : Nat → List (Nat × Nat)
  | 0 => steps
  | k + 1 => steps.filter fun step => inCodeSet (codeSet ((stepsLeading k).map (·.1))) step.2

theorem mem_steps_of_alias {n target : Nat} (h : aliasIn? aliases n = some target) :
    (n, target) ∈ steps :=
  List.mem_append_left _ (List.mem_map_of_mem (mem_of_aliasIn?_eq_some h))

theorem mem_steps_of_pairing {n base mark : Nat} (h : pairing? n = some (base, mark)) :
    (n, base) ∈ steps :=
  List.mem_append_right _ (List.mem_map_of_mem (mem_of_pairing?_eq_some h))

/-- Where as many steps do not follow, fewer follow after the first one. -/
theorem not_mem_stepsLeading {k n target : Nat} (h : n ∉ (stepsLeading (k + 1)).map (·.1))
    (hstep : (n, target) ∈ steps) : target ∉ (stepsLeading k).map (·.1) :=
  fun hmem => h (List.mem_map_of_mem
    (List.mem_filter.2 ⟨hstep, inCodeSet_codeSet.2 hmem⟩ : (n, target) ∈ stepsLeading (k + 1)))

/-- No code point has to be taken apart more often than the depth says. -/
theorem stepsLeading_expansionDepth : stepsLeading expansionDepth = [] := by decide +kernel

/-- No step leads from a jamo, or to a syllable. -/
theorem steps_avoid_hangul : ∀ step ∈ steps,
    (step.1 < 0x1100 ∨ 0x11FF < step.1) ∧ Hangul.jamo? step.2 = none := by
  decide +kernel

theorem marks_not_steps : ∀ p ∈ primaryPairings ++ excludedPairings,
    inCodeSet (codeSet (steps.map (·.1))) p.mark = false ∧ Hangul.jamo? p.mark = none := by
  decide +kernel

/-! ## Settled code points -/

/-- There is nothing to take apart in a code point. -/
structure Settled (n : Nat) : Prop where
  no_alias : aliasIn? aliases n = none
  no_pairing : pairing? n = none
  no_jamo : Hangul.jamo? n = none

theorem expandCode_of_settled {n : Nat} (h : Settled n) (depth : Nat) :
    expandCode depth n = [n] := by
  cases depth with
  | zero => rfl
  | succ depth => rw [expandCode, h.no_alias, h.no_pairing]

theorem canonicalCodes_of_settled {n : Nat} (h : Settled n) : canonicalCodes n = [n] := by
  rw [canonicalCodes, h.no_jamo, Option.getD_none, expandCode_of_settled h]

theorem settled_of_not_mem_steps {n : Nat} (h : n ∉ steps.map (·.1))
    (hjamo : Hangul.jamo? n = none) : Settled n where
  no_alias := Option.eq_none_iff_forall_ne_some.2 fun _ ht =>
    h (List.mem_map_of_mem (mem_steps_of_alias ht))
  no_pairing := Option.eq_none_iff_forall_ne_some.2 fun _ hp =>
    h (List.mem_map_of_mem (mem_steps_of_pairing hp))
  no_jamo := hjamo

theorem settled_of_mem_pairings {p : Pairing} (h : p ∈ primaryPairings ++ excludedPairings) :
    Settled p.mark := by
  obtain ⟨hset, hjamo⟩ := marks_not_steps p h
  refine settled_of_not_mem_steps (fun hmem => ?_) hjamo
  rw [inCodeSet_codeSet.2 hmem] at hset
  cases hset

theorem settled_of_mem_expandCode {k n m : Nat} (h : n ∉ (stepsLeading k).map (·.1))
    (hjamo : Hangul.jamo? n = none) (hm : m ∈ expandCode k n) : Settled m := by
  -- As the depth is used up, fewer steps are left that can follow, and at depth zero none is.
  induction k generalizing n with
  | zero =>
      obtain rfl := List.mem_singleton.1 hm
      exact settled_of_not_mem_steps h hjamo
  | succ k ih =>
      rw [expandCode] at hm
      split at hm
      next target htarget =>
        have hstep := mem_steps_of_alias htarget
        exact ih (not_mem_stepsLeading h hstep) (steps_avoid_hangul _ hstep).2 hm
      next halias =>
        split at hm
        next base mark hpair =>
          have hstep := mem_steps_of_pairing hpair
          rcases List.mem_append.1 hm with hm | hm
          · exact ih (not_mem_stepsLeading h hstep) (steps_avoid_hangul _ hstep).2 hm
          · obtain rfl := List.mem_singleton.1 hm
            exact settled_of_mem_pairings (mem_of_pairing?_eq_some hpair)
        next hpair =>
          obtain rfl := List.mem_singleton.1 hm
          exact ⟨halias, hpair, hjamo⟩

/-! ## Jamo -/

theorem jamo?_eq_none_of_lt {n : Nat} (h : n < 0xAC00) : Hangul.jamo? n = none :=
  if_neg fun hn => absurd h (Nat.not_lt.2 hn.1)

/-- The code points of the block of the jamo are not taken apart. -/
theorem settled_of_bounds {n : Nat} (hlo : 0x1100 ≤ n) (hhi : n ≤ 0x11FF) : Settled n := by
  refine settled_of_not_mem_steps ?_ (jamo?_eq_none_of_lt (by omega))
  intro hmem
  obtain ⟨step, hstep, rfl⟩ := List.mem_map.1 hmem
  have havoid := (steps_avoid_hangul step hstep).1
  omega

theorem settled_of_mem_jamo? {n m : Nat} {codes : List Nat} (h : Hangul.jamo? n = some codes)
    (hm : m ∈ codes) : Settled m := by
  obtain ⟨hlo, hhi⟩ := bounds_of_mem_jamo? h hm
  exact settled_of_bounds hlo hhi

/-! ## Decompositions -/

/-- What a code point is taken apart into is settled. -/
theorem settled_of_mem_canonicalCodes {n m : Nat} (h : m ∈ canonicalCodes n) : Settled m := by
  rw [canonicalCodes] at h
  cases hjamo : Hangul.jamo? n with
  | none =>
      rw [hjamo] at h
      refine settled_of_mem_expandCode ?_ hjamo h
      rw [stepsLeading_expansionDepth]
      exact List.not_mem_nil
  | some codes =>
      rw [hjamo] at h
      exact settled_of_mem_jamo? hjamo h

theorem isValidChar_of_mem_canonicalCodes {n m : Nat} (hn : n.isValidChar)
    (hm : m ∈ canonicalCodes n) : m.isValidChar := by
  rcases eq_or_isPlain_of_mem_canonicalCodes hm with rfl | hplain
  · exact hn
  · exact hplain.1

/-- A character that a decomposition consists of is not taken apart any further. -/
theorem canonicalExpansion_of_mem {c d : Char} (h : d ∈ canonicalExpansion c) :
    canonicalExpansion d = [d] := by
  obtain ⟨m, hm, rfl⟩ := List.mem_map.1 h
  have hvalid := isValidChar_of_mem_canonicalCodes c.valid hm
  rw [canonicalExpansion, toNat_ofNat hvalid,
    canonicalCodes_of_settled (settled_of_mem_canonicalCodes hm), List.map_singleton]

/-- A text consists of what characters are taken apart into. -/
def AllSettled (cs : List Char) : Prop := ∀ d ∈ cs, ∃ c, d ∈ canonicalExpansion c

namespace AllSettled

variable {cs ds : List Char}

theorem nil : AllSettled [] := by simp [AllSettled]

theorem of_subset (h : AllSettled cs) (hsub : ds ⊆ cs) : AllSettled ds := fun d hd => h d (hsub hd)

/-- Taking such a text apart changes nothing. -/
theorem flatMap_eq (h : AllSettled cs) : cs.flatMap canonicalExpansion = cs := by
  induction cs with
  | nil => rfl
  | cons d cs ih =>
      obtain ⟨⟨c, hc⟩, hcs⟩ := List.forall_mem_cons.1 h
      rw [List.flatMap_cons, canonicalExpansion_of_mem hc, ih hcs]
      rfl

theorem flatMap_append (h : AllSettled cs) (ds : List Char) :
    (cs ++ ds).flatMap canonicalExpansion = cs ++ ds.flatMap canonicalExpansion := by
  rw [List.flatMap_append, h.flatMap_eq]

end AllSettled

end Interlinear.Text
