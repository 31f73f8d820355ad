import Interlinear.Proofs.Text.Bisection
import Interlinear.Text.Headword

set_option autoImplicit false

/-! # Lowering and decomposing a character

A character can be put into lower case and then taken apart, or the other way round. For most
characters the result is the same (`LowersAlike`). Every character that has a lowercase form itself
is among them, apart from the lunate capital sigma (`lowersAlike_of_lowerChar_ne`): the two ways
differ for styled capitals only, which have no lowercase form but are written with letters that
have one (`lowersAlike_iff`).

Neither way touches marks: a character that has a combining class has no lowercase form, and is not
the lowercase form of another one (`classIn_of_mem_lowerings`).

What can be told from the tables is checked for all their rows. So that this does not take too long,
the tables are asked by halves. -/

namespace Interlinear.Text

open Reading

/-! ## Lowercase forms -/

/-- The code point of the lowercase form of a code point. -/
def lowerCode (n : Nat) : Nat := (imageInRuns? loweringRuns n).getD n

/-- The code points that have a lowercase form, each with that form. -/
def lowerings : List (Nat × Nat) :=
  loweringRuns.flatMap fun r => r.codes.map fun n => (n, r.image + (n - r.lo))

theorem lowerCode_eq_or_mem (n : Nat) : lowerCode n = n ∨ (n, lowerCode n) ∈ lowerings := by
  rw [lowerCode, imageInRuns?_eq_scan]
  cases h : runs.scan loweringRuns n with
  | none => exact .inl rfl
  | some m =>
      obtain ⟨r, hr, htells⟩ := runs.exists_of_scan_eq_some h
      obtain ⟨hcovers, rfl⟩ := tells_runs_eq_some_iff.1 htells
      exact .inr (List.mem_flatMap.2 ⟨r, hr, List.mem_map_of_mem (CodeRun.mem_codes hcovers)⟩)

theorem lowerChar_eq {c : Char} (h : c ≠ 'İ') : lowerChar c = [Char.ofNat (lowerCode c.toNat)] :=
  if_neg h

/-! ## Code points of marks -/

theorem exists_of_classIn_ne_zero {rows : List ClassRange} {n : Nat} (h : classIn rows n ≠ 0) :
    ∃ r ∈ rows, r.lo ≤ n ∧ n ≤ r.hi := by
  induction rows with
  | nil => exact absurd rfl h
  | cons r rows ih =>
      rw [classIn] at h
      split at h
      · exact absurd rfl h
      next hlo =>
        split at h
        next hhi => exact ⟨r, List.mem_cons_self, Nat.not_lt.1 hlo, hhi⟩
        next =>
          obtain ⟨s, hs, hn⟩ := ih h
          exact ⟨s, List.mem_cons_of_mem _ hs, hn⟩

/-- The code points that have a combining class. -/
def markCodes : List Nat := combiningClasses.flatMap fun r => List.range' r.lo (r.hi + 1 - r.lo)

theorem mem_markCodes {n : Nat} (h : classIn combiningClasses n ≠ 0) : n ∈ markCodes := by
  obtain ⟨r, hr, hlo, hhi⟩ := exists_of_classIn_ne_zero h
  exact List.mem_flatMap.2 ⟨r, hr, List.mem_range'_1.2 ⟨hlo, by omega⟩⟩

theorem classIn_eq_zero {n : Nat} (h : inCodeSet (codeSet markCodes) n = false) :
    classIn combiningClasses n = 0 := by
  by_contra hne
  rw [inCodeSet_codeSet.2 (mem_markCodes hne)] at h
  cases h

/-- A lowercase form is a plain character. Neither it nor what it is the form of is a mark. -/
theorem lowerings_checked : ∀ p ∈ lowerings, IsPlain p.2 ∧
    inCodeSet (codeSet markCodes) p.1 = false ∧ inCodeSet (codeSet markCodes) p.2 = false := by
  decide +kernel

theorem isPlain_of_mem_lowerings {n m : Nat} (h : (n, m) ∈ lowerings) : IsPlain m :=
  (lowerings_checked _ h).1

theorem classIn_of_mem_lowerings {n m : Nat} (h : (n, m) ∈ lowerings) :
    classIn combiningClasses n = 0 ∧ classIn combiningClasses m = 0 :=
  ⟨classIn_eq_zero (lowerings_checked _ h).2.1, classIn_eq_zero (lowerings_checked _ h).2.2⟩

/-! ## What characters are written with -/

/-- The lunate capital sigma. Its lowercase form and its plain form are of different sigmas. -/
def lunateSigma : Char := 'Ϲ'

theorem compatibilityRuns_images : ∀ r ∈ compatibilityRuns, ∀ n ∈ r.codes,
    IsPlain (r.image + (n - r.lo)) ∧ r.image + (n - r.lo) ≠ 'İ'.toNat ∧
      (r.image + (n - r.lo) = 'Σ'.toNat → n = lunateSigma.toNat ∨ lowerCode n = n) := by
  decide +kernel

theorem compatibilityExpansions_images : ∀ e ∈ compatibilityExpansions, ∀ m ∈ e.expansion,
    IsPlain m ∧ m ≠ 'İ'.toNat ∧ m ≠ 'Σ'.toNat := by
  decide +kernel

/-- Nothing is taken apart into the capital sigma. -/
theorem tables_avoid_sigma : (∀ step ∈ steps, step.2 ≠ 'Σ'.toNat) ∧
    ∀ p ∈ primaryPairings ++ excludedPairings, p.mark ≠ 'Σ'.toNat := by
  decide +kernel

theorem sigma_of_mem_expandCode {depth n : Nat} (h : 'Σ'.toNat ∈ expandCode depth n) :
    n = 'Σ'.toNat := by
  -- A step that ended in the capital sigma would be a row of the tables.
  induction depth generalizing n with
  | zero => exact (List.mem_singleton.1 h).symm
  | succ depth ih =>
      rw [expandCode] at h
      split at h
      next target htarget =>
        exact absurd (ih h) (tables_avoid_sigma.1 _ (mem_steps_of_alias htarget))
      next =>
        split at h
        next base mark hpair =>
          rcases List.mem_append.1 h with h | h
          · exact absurd (ih h) (tables_avoid_sigma.1 _ (mem_steps_of_pairing hpair))
          · exact absurd (List.mem_singleton.1 h).symm
              (tables_avoid_sigma.2 _ (mem_of_pairing?_eq_some hpair))
        next => exact (List.mem_singleton.1 h).symm

theorem sigma_of_mem_canonicalCodes {n : Nat} (h : 'Σ'.toNat ∈ canonicalCodes n) :
    n = 'Σ'.toNat := by
  rw [canonicalCodes] at h
  cases hjamo : Hangul.jamo? n with
  | none =>
      rw [hjamo] at h
      exact sigma_of_mem_expandCode h
  | some codes =>
      rw [hjamo] at h
      exact absurd (bounds_of_mem_jamo? hjamo h).1 (by decide)

/-- The dotted capital I is taken apart itself. -/
theorem dottedI_not_mem_canonicalCodes (n : Nat) : 'İ'.toNat ∉ canonicalCodes n := by
  intro h
  have hpairing : pairing? 'İ'.toNat ≠ none := by decide
  exact hpairing (settled_of_mem_canonicalCodes h).no_pairing

/-- What a code point is written with stands in one of the tables. -/
theorem mem_compatCodes {n m : Nat} (h : m ∈ compatCodes n) :
    (∃ r ∈ compatibilityRuns, n ∈ r.codes ∧ m = r.image + (n - r.lo) ∧ compatCodes n = [m]) ∨
      (∃ e ∈ compatibilityExpansions, m ∈ e.expansion) ∨
      (m ∈ canonicalCodes n ∧ compatCodes n = canonicalCodes n) := by
  rw [compatCodes, imageInRuns?_eq_scan, expansionIn?_eq_scan] at h ⊢
  cases hrun : runs.scan compatibilityRuns n with
  | some target =>
      rw [hrun] at h
      obtain ⟨r, hr, htells⟩ := runs.exists_of_scan_eq_some hrun
      obtain ⟨hcovers, himage⟩ := tells_runs_eq_some_iff.1 htells
      obtain rfl := List.mem_singleton.1 h
      exact .inl ⟨r, hr, CodeRun.mem_codes hcovers, himage, rfl⟩
  | none =>
      rw [hrun] at h
      cases hexp : (points Expansion.source Expansion.expansion).scan compatibilityExpansions n with
      | some codes =>
          rw [hexp] at h
          obtain ⟨e, he, htells⟩ := exists_of_scan_eq_some _ hexp
          rw [tells_points] at htells
          obtain ⟨-, hcodes⟩ := Option.ite_none_right_eq_some.1 htells
          obtain rfl := Option.some.inj hcodes
          exact .inr (.inl ⟨e, he, h⟩)
      | none =>
          rw [hexp] at h
          exact .inr (.inr ⟨h, rfl⟩)

theorem eq_or_isPlain_of_mem_compatCodes {n m : Nat} (h : m ∈ compatCodes n) :
    m = n ∨ IsPlain m := by
  rcases mem_compatCodes h with ⟨r, hr, hn, rfl, -⟩ | ⟨e, he, hm⟩ | ⟨hm, -⟩
  · exact .inr (compatibilityRuns_images r hr n hn).1
  · exact .inr (compatibilityExpansions_images e he m hm).1
  · exact eq_or_isPlain_of_mem_canonicalCodes hm

theorem isValidChar_of_mem_compatCodes {n m : Nat} (hn : n.isValidChar) (h : m ∈ compatCodes n) :
    m.isValidChar := by
  rcases eq_or_isPlain_of_mem_compatCodes h with rfl | hplain
  · exact hn
  · exact hplain.1

theorem dottedI_not_mem_compatCodes (n : Nat) : 'İ'.toNat ∉ compatCodes n := by
  intro h
  rcases mem_compatCodes h with ⟨r, hr, hn, himage, -⟩ | ⟨e, he, hm⟩ | ⟨hm, -⟩
  · exact (compatibilityRuns_images r hr n hn).2.1 himage.symm
  · exact (compatibilityExpansions_images e he _ hm).2.1 rfl
  · exact dottedI_not_mem_canonicalCodes n hm

/-- Only a sigma is written with the capital sigma: itself, the lunate one, or a styled one, which
has no lowercase form. -/
theorem sigma_of_mem_compatCodes {n : Nat} (h : 'Σ'.toNat ∈ compatCodes n) :
    compatCodes n = ['Σ'.toNat] ∧
      (n = 'Σ'.toNat ∨ n = lunateSigma.toNat ∨ lowerCode n = n) := by
  rcases mem_compatCodes h with ⟨r, hr, hn, himage, heq⟩ | ⟨e, he, hm⟩ | ⟨hm, heq⟩
  · exact ⟨heq, .inr ((compatibilityRuns_images r hr n hn).2.2 himage.symm)⟩
  · exact absurd rfl (compatibilityExpansions_images e he _ hm).2.2
  · obtain rfl := sigma_of_mem_canonicalCodes hm
    rw [heq, canonicalCodes_of_settled (settled_of_mem_canonicalCodes hm)]
    exact ⟨rfl, .inl rfl⟩

/-! ## Characters -/

theorem exists_of_mem_compatExpansion {c d : Char} (h : d ∈ compatExpansion c) :
    d.toNat ∈ compatCodes c.toNat := by
  obtain ⟨m, hm, rfl⟩ := List.mem_map.1 h
  rwa [toNat_ofNat (isValidChar_of_mem_compatCodes c.valid hm)]

theorem ne_dottedI_of_mem_compatExpansion {c d : Char} (h : d ∈ compatExpansion c) : d ≠ 'İ' := by
  rintro rfl
  exact dottedI_not_mem_compatCodes _ (exists_of_mem_compatExpansion h)

theorem lowerChar_eq_self {c : Char} (hc : c ≠ 'İ') (h : lowerCode c.toNat = c.toNat) :
    lowerChar c = [c] := by
  rw [lowerChar_eq hc, h, Char.ofNat_toNat]

/-- Only a sigma is written with the capital sigma. -/
theorem compatExpansion_of_sigma_mem {c : Char} (h : 'Σ' ∈ compatExpansion c) :
    compatExpansion c = ['Σ'] ∧ (c = 'Σ' ∨ c = lunateSigma ∨ lowerChar c = [c]) := by
  obtain ⟨hcodes, hc⟩ := sigma_of_mem_compatCodes (exists_of_mem_compatExpansion h)
  refine ⟨by rw [compatExpansion, hcodes]; rfl, ?_⟩
  have hdotted : c ≠ 'İ' := by
    rintro rfl
    have hnot : 'Σ' ∉ compatExpansion 'İ' := by decide
    exact hnot h
  rcases hc with hc | hc | hc
  · exact .inl (Char.toNat_inj.1 hc)
  · exact .inr (.inl (Char.toNat_inj.1 hc))
  · exact .inr (.inr (lowerChar_eq_self hdotted hc))

/-! ## Sigmas -/

theorem lowerChar_sigma : lowerChar 'Σ' = ['σ'] := by decide

theorem lowerChar_lunateSigma : lowerChar lunateSigma = ['ϲ'] := by decide

set_option maxRecDepth 1500 in
/-- Apart from the lunate ones, sigmas are written with themselves. -/
theorem compatExpansion_sigmas :
    compatExpansion 'Σ' = ['Σ'] ∧ compatExpansion 'σ' = ['σ'] ∧ compatExpansion 'ς' = ['ς'] := by
  decide

theorem compatExpansion_lunateSigmas :
    compatExpansion lunateSigma = ['Σ'] ∧ compatExpansion 'ϲ' = ['ς'] := by
  decide

theorem combiningClass_sigmas :
    combiningClass 'Σ' = 0 ∧ combiningClass 'σ' = 0 ∧ combiningClass 'ς' = 0 := by
  decide

/-! ## Marks -/

theorem exists_of_inRanges {rows : List CodeRange} {n : Nat} (h : inRanges rows n = true) :
    ∃ r ∈ rows, r.lo ≤ n ∧ n ≤ r.hi := by
  induction rows with
  | nil => cases h
  | cons r rows ih =>
      rw [inRanges] at h
      split at h
      · cases h
      next hlo =>
        split at h
        next hhi => exact ⟨r, List.mem_cons_self, Nat.not_lt.1 hlo, hhi⟩
        next =>
          obtain ⟨s, hs, hn⟩ := ih h
          exact ⟨s, List.mem_cons_of_mem _ hs, hn⟩

theorem casedRanges_marks : casedRanges.all (fun r =>
    (List.range' r.lo (r.hi + 1 - r.lo)).all fun n =>
      !inCodeSet (codeSet markCodes) n || inRanges caseIgnorableRanges n) = true := by
  decide +kernel

/-- The lowercase form has the class of the character. -/
theorem map_combiningClass_lowerChar {c : Char} (hc : c ≠ 'İ') :
    (lowerChar c).map combiningClass = [combiningClass c] := by
  rcases lowerCode_eq_or_mem c.toNat with heq | hmem
  · rw [lowerChar_eq_self hc heq, List.map_singleton]
  · obtain ⟨hfrom, hto⟩ := classIn_of_mem_lowerings hmem
    rw [lowerChar_eq hc, List.map_singleton, combiningClass, combiningClass,
      toNat_ofNat (isPlain_of_mem_lowerings hmem).1, hfrom, hto]

theorem lowerChar_of_mark {c : Char} (h : combiningClass c ≠ 0) : lowerChar c = [c] := by
  have hc : c ≠ 'İ' := by
    rintro rfl
    exact h (by decide)
  rcases lowerCode_eq_or_mem c.toNat with heq | hmem
  · exact lowerChar_eq_self hc heq
  · exact absurd (classIn_of_mem_lowerings hmem).1 h

/-- A mark that has case is passed over when case is asked for. -/
theorem isCaseIgnorable_of_mark {c : Char} (h : combiningClass c ≠ 0) (hc : isCased c = true) :
    isCaseIgnorable c = true := by
  obtain ⟨r, hr, hlo, hhi⟩ := exists_of_inRanges hc
  have hmem : c.toNat ∈ List.range' r.lo (r.hi + 1 - r.lo) :=
    List.mem_range'_1.2 ⟨hlo, by omega⟩
  have hall := List.all_eq_true.1 (List.all_eq_true.1 casedRanges_marks r hr) _ hmem
  rw [inCodeSet_codeSet.2 (mem_markCodes h), Bool.not_true, Bool.false_or] at hall
  exact hall

theorem map_combiningClass_flatMap_lowerChar (c : Char) :
    ((compatExpansion c).flatMap lowerChar).map combiningClass
      = (compatExpansion c).map combiningClass := by
  have hclasses : ∀ d ∈ compatExpansion c, (lowerChar d).map combiningClass = [combiningClass d] :=
    fun d hd => map_combiningClass_lowerChar (ne_dottedI_of_mem_compatExpansion hd)
  rw [List.map_flatMap, List.flatMap_congr hclasses, ← List.map_eq_flatMap]

/-! ## Either order -/

/-- Lowering a character and taking it apart has the same result in either order. -/
def LowersAlike (c : Char) : Prop :=
  (lowerChar c).flatMap compatExpansion = (compatExpansion c).flatMap lowerChar

instance : DecidablePred LowersAlike := fun c =>
  inferInstanceAs (Decidable
    ((lowerChar c).flatMap compatExpansion = (compatExpansion c).flatMap lowerChar))

theorem flatMap_lowerChar_compatExpansion (c : Char) :
    (compatExpansion c).flatMap lowerChar
      = ((compatCodes c.toNat).map lowerCode).map Char.ofNat := by
  have hlower : ∀ m ∈ compatCodes c.toNat,
      lowerChar (Char.ofNat m) = [Char.ofNat (lowerCode m)] := by
    intro m hm
    have hne := ne_dottedI_of_mem_compatExpansion (List.mem_map_of_mem hm)
    rw [lowerChar_eq hne, toNat_ofNat (isValidChar_of_mem_compatCodes c.valid hm)]
  rw [compatExpansion, List.flatMap_map, List.flatMap_congr hlower, ← List.map_eq_flatMap,
    List.map_map]
  rfl

set_option maxRecDepth 1500 in
theorem lowersAlike_dottedI : LowersAlike 'İ' := by decide

/-- `lowerCode`, by halves. -/
def askLower (n : Nat) : Nat := (runs.ask 8 loweringRuns n).getD n

theorem askLower_eq (n : Nat) : askLower n = lowerCode n := by
  obtain ⟨-, -, -, -, -, hruns⟩ := isChain_tables
  rw [askLower, lowerCode, imageInRuns?_eq_scan, ask_eq_scan _ _ hruns]

theorem askCompat_lowerings : lowerings.all (fun p =>
    p.1 == lunateSigma.toNat || askCompat p.2 == (askCompat p.1).map askLower) = true := by
  decide +kernel

/-- What the lowercase form of a character is written with are the lowercase forms of what the
character is written with. -/
theorem compatCodes_of_mem_lowerings {n m : Nat} (h : (n, m) ∈ lowerings)
    (hn : n ≠ lunateSigma.toNat) : compatCodes m = (compatCodes n).map lowerCode := by
  have hall := List.all_eq_true.1 askCompat_lowerings _ h
  have hlower : askLower = lowerCode := funext askLower_eq
  rw [hlower, askCompat_eq, askCompat_eq, Bool.or_eq_true, beq_iff_eq, beq_iff_eq] at hall
  exact hall.resolve_left hn

/-- Every character with a lowercase form, but for the lunate sigma, is lowered and taken apart
alike in either order. -/
theorem lowersAlike_of_lowerChar_ne {c : Char} (hc : c ≠ lunateSigma) (h : lowerChar c ≠ [c]) :
    LowersAlike c := by
  by_cases hdotted : c = 'İ'
  · subst hdotted
    exact lowersAlike_dottedI
  · have hcode : lowerCode c.toNat ≠ c.toNat := fun heq => h (lowerChar_eq_self hdotted heq)
    have hmem := (lowerCode_eq_or_mem c.toNat).resolve_left hcode
    have hne : c.toNat ≠ lunateSigma.toNat := fun heq => hc (Char.toNat_inj.1 heq)
    calc (lowerChar c).flatMap compatExpansion
        = (compatCodes (lowerCode c.toNat)).map Char.ofNat := by
          rw [lowerChar_eq hdotted, List.flatMap_singleton, compatExpansion,
            toNat_ofNat (isPlain_of_mem_lowerings hmem).1]
      _ = ((compatCodes c.toNat).map lowerCode).map Char.ofNat := by
          rw [compatCodes_of_mem_lowerings hmem hne]
      _ = (compatExpansion c).flatMap lowerChar := (flatMap_lowerChar_compatExpansion c).symm

/-- A character has a lowercase form itself, or is written with characters that have none. -/
def LowersByItself (c : Char) : Prop :=
  lowerChar c ≠ [c] ∨ ∀ d ∈ compatExpansion c, lowerChar d = [d]

theorem eq_flatMap_lowerChar_iff {cs : List Char} (h : ∀ c ∈ cs, c ≠ 'İ') :
    cs = cs.flatMap lowerChar ↔ ∀ c ∈ cs, lowerChar c = [c] := by
  induction cs with
  | nil => simp
  | cons c cs ih =>
      obtain ⟨hc, hcs⟩ := List.forall_mem_cons.1 h
      rw [List.flatMap_cons, lowerChar_eq hc, List.singleton_append, List.cons.injEq, ih hcs,
        List.forall_mem_cons, lowerChar_eq hc, List.cons.injEq, and_iff_left rfl, eq_comm (a := c)]

theorem lowersAlike_iff {c : Char} (hc : c ≠ lunateSigma) : LowersAlike c ↔ LowersByItself c := by
  rw [LowersByItself]
  by_cases hself : lowerChar c = [c]
  · -- Lowering the character first does nothing, so lowering last must do nothing either.
    have hne : ∀ d ∈ compatExpansion c, d ≠ 'İ' := fun d hd => ne_dottedI_of_mem_compatExpansion hd
    rw [LowersAlike, hself, List.flatMap_singleton, eq_flatMap_lowerChar_iff hne,
      or_iff_right (not_not.2 rfl)]
  · exact ⟨fun _ => .inl hself, fun _ => lowersAlike_of_lowerChar_ne hc hself⟩

/-- What the lowercase form is written with has the classes of what the character is written
with. -/
theorem map_combiningClass_expansion (c : Char) :
    ((lowerChar c).flatMap compatExpansion).map combiningClass
      = (compatExpansion c).map combiningClass := by
  by_cases hself : lowerChar c = [c]
  · rw [hself, List.flatMap_singleton]
  · by_cases hc : c = lunateSigma
    · subst hc
      rw [lowerChar_lunateSigma, List.flatMap_singleton, compatExpansion_lunateSigmas.2,
        compatExpansion_lunateSigmas.1, List.map_singleton, List.map_singleton,
        combiningClass_sigmas.2.2, combiningClass_sigmas.1]
    · rw [lowersAlike_of_lowerChar_ne hc hself, map_combiningClass_flatMap_lowerChar]

end Interlinear.Text
