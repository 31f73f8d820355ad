import Interlinear.Proofs.Text.Bisection
import Interlinear.Proofs.Text.MarkOrder

set_option autoImplicit false

/-! # Composition is undone by decomposition

Two characters compose to one that is taken apart into what they are taken apart into
(`canonicalExpansion_of_composePair?`). For the pairs of the tables this is so because the composed
character has a row of its own and the depth of the decomposition is enough for it, and for the
syllables by arithmetic.

A composition goes over a text with a starter and the marks that did not compose with it. What
composes next stands behind these marks, but has a higher class than all of them
(`KeptBefore.class_lt`), so it could have been written right behind the starter. Hence a decomposed
text is found again by decomposing the composed one (`decomposeChars_composeAll`). -/

namespace Interlinear.Text

/-! ## Pairs in the tables -/

theorem mem_of_composedIn?_eq_some {ps : List Pairing} {base mark n : Nat}
    (h : composedIn? ps base mark = some n) : ⟨n, base, mark⟩ ∈ ps := by
  induction ps with
  | nil => simp [composedIn?] at h
  | cons p ps ih =>
      rw [composedIn?] at h
      split at h
      next hp =>
        obtain rfl := Option.some.inj h
        obtain ⟨rfl, rfl⟩ := hp
        exact List.mem_cons_self
      · exact List.mem_cons_of_mem p (ih h)

theorem pairing?_of_mem {p : Pairing} (h : p ∈ primaryPairings) :
    pairing? p.composed = some (p.base, p.mark) := by
  have hchain := List.isChain_iff_pairwise.1 isChain_tables.2.1
  have hfound : pairIn? primaryPairings p.composed = some (p.base, p.mark) := by
    rw [Reading.pairIn?_eq_scan]
    refine Reading.scan_eq_some_of_mem _ hchain h (Nat.le_refl _) ?_
    rw [Reading.tells_points, if_pos rfl]
  rw [pairing?, hfound]
  rfl

/-- A composed character of the tables is taken apart by its pair and in no other way. -/
theorem primaryPairings_not_aliases : ∀ p ∈ primaryPairings,
    inCodeSet (codeSet (aliases.map (·.source))) p.composed = false ∧
      Hangul.jamo? p.composed = none := by
  decide +kernel

theorem aliasIn?_of_mem_primaryPairings {p : Pairing} (h : p ∈ primaryPairings) :
    aliasIn? aliases p.composed = none := by
  refine Option.eq_none_iff_forall_ne_some.2 fun target htarget => ?_
  have hmem := inCodeSet_codeSet.2 (List.mem_map_of_mem (f := (·.source))
    (mem_of_aliasIn?_eq_some htarget))
  rw [(primaryPairings_not_aliases p h).1] at hmem
  cases hmem

/-- Where no more steps can follow than the depth says, a greater depth makes no difference. -/
theorem expandCode_succ {k n : Nat} (h : n ∉ (stepsLeading k).map (·.1))
    (hjamo : Hangul.jamo? n = none) : expandCode (k + 1) n = expandCode k n := by
  -- On the depth: behind each step there are fewer steps to follow, as there is less depth.
  induction k generalizing n with
  | zero =>
      have hsettled := settled_of_not_mem_steps h hjamo
      rw [expandCode_of_settled hsettled, expandCode_of_settled hsettled]
  | succ k ih =>
      rw [expandCode, expandCode]
      cases halias : aliasIn? aliases n with
      | some target =>
          have hstep := mem_steps_of_alias halias
          exact ih (not_mem_stepsLeading h hstep) (steps_avoid_hangul _ hstep).2
      | none =>
          cases hpair : pairing? n with
          | none => rfl
          | some pair =>
              have hstep := mem_steps_of_pairing hpair
              have hbase := ih (not_mem_stepsLeading h hstep) (steps_avoid_hangul _ hstep).2
              exact congrArg (· ++ [pair.2]) hbase

theorem canonicalCodes_of_mem_primaryPairings {p : Pairing} (h : p ∈ primaryPairings) :
    canonicalCodes p.composed = canonicalCodes p.base ++ [p.mark] := by
  have hpair := pairing?_of_mem h
  have hstep := mem_steps_of_pairing hpair
  have hjamo := (steps_avoid_hangul _ hstep).2
  -- No code point has as many steps before it as the depth says, so the base has fewer.
  have hleading : p.composed ∉ (stepsLeading 4).map (·.1) := by
    have hnone : stepsLeading 4 = [] := stepsLeading_expansionDepth
    rw [hnone]
    exact List.not_mem_nil
  have hbase : expandCode 4 p.base = expandCode 3 p.base :=
    expandCode_succ (not_mem_stepsLeading hleading hstep) hjamo
  calc canonicalCodes p.composed
      = expandCode 4 p.composed := by
        rw [canonicalCodes, (primaryPairings_not_aliases p h).2]
        rfl
    _ = expandCode 3 p.base ++ [p.mark] := by
        rw [expandCode, aliasIn?_of_mem_primaryPairings h, hpair]
    _ = canonicalCodes p.base ++ [p.mark] := by
        rw [← hbase, canonicalCodes, hjamo]
        rfl

/-! ## Syllables -/

/-- The syllables stand in a block of their own. -/
theorem isPlain_of_syllable? {a b n : Nat} (h : Hangul.syllable? a b = some n) : IsPlain n := by
  have hlead : Hangul.leadBase = 0x1100 := rfl
  have hvowel : Hangul.vowelBase = 0x1161 := rfl
  have htail : Hangul.tailBase = 0x11A7 := rfl
  have hsyllable : Hangul.syllableBase = 0xAC00 := rfl
  have hcount : Hangul.syllableCount = 11172 := rfl
  have htails : Hangul.tailCount = 28 := rfl
  simp only [Hangul.syllable?, hlead, hvowel, htail, hsyllable, hcount, htails] at h
  split at h
  next hpair =>
    obtain rfl := Option.some.inj h
    exact ⟨Or.inl (by omega), by omega⟩
  next =>
    split at h
    next hopen =>
      obtain rfl := Option.some.inj h
      exact ⟨Or.inl (by omega), by omega⟩
    next => contradiction

/-- A syllable is taken apart into the jamo by whose numbers it is counted. -/
theorem jamo?_syllable (lead vowel tail : Nat) (hlead : lead < 19) (hvowel : vowel < 21)
    (htail : tail < 28) :
    Hangul.jamo? (0xAC00 + (lead * 21 + vowel) * 28 + tail)
      = some ([0x1100 + lead, 0x1161 + vowel] ++ if tail = 0 then [] else [0x11A7 + tail]) := by
  have hcount : Hangul.syllableCount = 11172 := rfl
  have hper : Hangul.perLead = 588 := rfl
  have hindex : 0xAC00 + (lead * 21 + vowel) * 28 + tail - 0xAC00
      = lead * 588 + vowel * 28 + tail := by
    omega
  have hleads : (lead * 588 + vowel * 28 + tail) / 588 = lead := by omega
  have hvowels : (lead * 588 + vowel * 28 + tail) % 588 / 28 = vowel := by omega
  have htails : (lead * 588 + vowel * 28 + tail) % 28 = tail := by omega
  simp only [Hangul.jamo?, Hangul.leadBase, Hangul.vowelBase, Hangul.tailBase, Hangul.syllableBase,
    Hangul.tailCount, hcount, hper, hindex, hleads, hvowels, htails]
  rw [if_pos (by omega)]
  split <;> simp

theorem canonicalCodes_of_syllable? {a b n : Nat} (h : Hangul.syllable? a b = some n) :
    canonicalCodes n = canonicalCodes a ++ [b] := by
  have hcount : Hangul.syllableCount = 11172 := rfl
  simp only [Hangul.syllable?, Hangul.leadBase, Hangul.vowelBase, Hangul.tailBase,
    Hangul.syllableBase, Hangul.tailCount, hcount] at h
  split at h
  next hpair =>
    -- A lead and a vowel. They are jamo, which are not taken apart.
    obtain rfl := Option.some.inj h
    have hjamo := jamo?_syllable (a - 0x1100) (b - 0x1161) 0 (by omega) (by omega) (by omega)
    rw [Nat.add_zero, if_pos rfl, Nat.add_sub_cancel' (by omega), Nat.add_sub_cancel' (by omega)]
      at hjamo
    rw [canonicalCodes_of_settled (settled_of_bounds (n := a) (by omega) (by omega)),
      canonicalCodes, hjamo]
    rfl
  next =>
    split at h
    next hopen =>
      -- An open syllable and a tail. The syllable with the tail has the same lead and vowel.
      obtain rfl := Option.some.inj h
      obtain ⟨lead, vowel, hlead, hvowel, rfl⟩ : ∃ lead vowel, lead < 19 ∧ vowel < 21 ∧
          a = 0xAC00 + (lead * 21 + vowel) * 28 :=
        ⟨(a - 0xAC00) / 588, (a - 0xAC00) % 588 / 28, by omega, by omega, by omega⟩
      have hclosed := jamo?_syllable lead vowel (b - 0x11A7) hlead hvowel (by omega)
      have hopened := jamo?_syllable lead vowel 0 hlead hvowel (by omega)
      rw [if_neg (by omega), Nat.add_sub_cancel' (by omega)] at hclosed
      rw [Nat.add_zero, if_pos rfl] at hopened
      rw [canonicalCodes, canonicalCodes, hclosed, hopened]
      rfl
    next => contradiction

/-! ## Composed characters -/

/-- What two characters compose to, a syllable or the composed character of a pair of the table, is
taken apart into what the first one is, and the second one. -/
theorem exists_of_composePair? {a b c : Char} (h : composePair? a b = some c) :
    ∃ n, Char.ofNat n = c ∧ IsPlain n ∧
      canonicalCodes n = canonicalCodes a.toNat ++ [b.toNat] := by
  obtain ⟨n, hn, hc⟩ := Option.map_eq_some_iff.1 h
  refine ⟨n, hc, ?_⟩
  cases hsyllable : Hangul.syllable? a.toNat b.toNat with
  | some m =>
      rw [hsyllable] at hn
      obtain rfl := Option.some.inj hn
      exact ⟨isPlain_of_syllable? hsyllable, canonicalCodes_of_syllable? hsyllable⟩
  | none =>
      rw [hsyllable] at hn
      have hpair := mem_of_composedIn?_eq_some hn
      exact ⟨(isPlain_primaryPairings _ hpair).1, canonicalCodes_of_mem_primaryPairings hpair⟩

theorem canonicalExpansion_of_composePair? {a b c : Char} (h : composePair? a b = some c) :
    canonicalExpansion c = canonicalExpansion a ++ [b] := by
  obtain ⟨n, rfl, hplain, hcodes⟩ := exists_of_composePair? h
  rw [canonicalExpansion, toNat_ofNat hplain.1, hcodes, List.map_append, List.map_singleton,
    Char.ofNat_toNat]
  rfl

/-! ## A step of a composition -/

/-- A character is not kept from the starter by the marks in between. -/
def Reaches (kept : List Char) (c : Char) : Prop :=
  ∀ k ∈ kept.head?, combiningClass k < combiningClass c

/-- The next character composes with the starter, or it is a starter itself, or it is kept. -/
theorem composeOnto_cons (starter : Char) (kept : List Char) (c : Char) (cs : List Char) :
    (∃ joined, Reaches kept c ∧ composePair? starter c = some joined ∧
      composeOnto starter kept (c :: cs) = composeOnto joined kept cs) ∨
    (combiningClass c = 0 ∧ composeOnto starter kept (c :: cs)
      = starter :: (kept.reverse ++ composeOnto c [] cs)) ∨
    (combiningClass c ≠ 0 ∧ composeOnto starter kept (c :: cs)
      = composeOnto starter (c :: kept) cs) := by
  generalize hout : composeOnto starter kept (c :: cs) = out
  unfold composeOnto at hout
  dsimp only at hout
  split at hout
  next joined hjoined =>
    obtain ⟨hreaches, hpair⟩ := Option.ite_none_right_eq_some.1 hjoined
    refine .inl ⟨joined, ?_, hpair, hout.symm⟩
    cases kept with
    | nil => simp [Reaches]
    | cons k kept => simpa [Reaches] using hreaches
  next =>
    split at hout
    next hzero => exact .inr (.inl ⟨hzero, hout.symm⟩)
    next hzero => exact .inr (.inr ⟨hzero, hout.symm⟩)

/-! ## The marks that are kept -/

/-- What is kept between a starter and the rest of a text in order: marks, the last one first, each
of which may stand before the rest. -/
structure KeptBefore (kept rest : List Char) : Prop where
  marks : ∀ k ∈ kept, combiningClass k ≠ 0
  descending : kept.Pairwise fun k j => combiningClass j ≤ combiningClass k
  next : ∀ k ∈ kept, ∀ d ∈ rest.head?, MayPrecede k d
  rest : Ordered rest

theorem keptBefore_nil {rest : List Char} (h : Ordered rest) : KeptBefore [] rest where
  marks := by simp
  descending := .nil
  next := by simp
  rest := h

namespace KeptBefore

variable {kept cs : List Char} {c : Char} (h : KeptBefore kept (c :: cs))

include h

/-- What reaches the starter has a higher class than all marks that are kept. -/
theorem class_lt (hreaches : Reaches kept c) : ∀ k ∈ kept, combiningClass k < combiningClass c := by
  cases kept with
  | nil => simp
  | cons last kept =>
      have hlast := hreaches last rfl
      have hdescending := (List.pairwise_cons.1 h.descending).1
      refine List.forall_mem_cons.2 ⟨hlast, fun k hk => ?_⟩
      exact Nat.lt_of_le_of_lt (hdescending k hk) hlast

/-- The next character is taken out of the text. -/
theorem skip (hreaches : Reaches kept c) : KeptBefore kept cs where
  marks := h.marks
  descending := h.descending
  next := by
    intro k hk d hd
    have hlt := h.class_lt hreaches k hk
    have hcd := List.IsChain.rel_head? h.rest hd
    simp only [MayPrecede] at hcd ⊢
    omega
  rest := h.rest.tail

/-- The next character is kept. -/
theorem keep (hc : combiningClass c ≠ 0) : KeptBefore (c :: kept) cs where
  marks := List.forall_mem_cons.2 ⟨hc, h.marks⟩
  descending := by
    refine List.pairwise_cons.2 ⟨fun k hk => ?_, h.descending⟩
    exact (h.next k hk c rfl).resolve_left hc
  next := by
    have hcd := List.IsChain.rel_head? h.rest
    refine List.forall_mem_cons.2 ⟨fun d hd => hcd hd, fun k hk d hd => ?_⟩
    have hkc := (h.next k hk c rfl).resolve_left hc
    have hcd := hcd hd
    simp only [MayPrecede] at hcd ⊢
    omega
  rest := h.rest.tail

end KeptBefore

/-! ## Decomposing what was composed -/

theorem decomposeChars_composeOnto {starter : Char} {kept cs : List Char}
    (hkept : AllSettled kept) (hcs : AllSettled cs) (h : KeptBefore kept cs) :
    decomposeChars (composeOnto starter kept cs)
      = orderMarks (canonicalExpansion starter ++ (kept.reverse ++ cs)) := by
  -- On the rest of the text, for any starter and for all marks that may be kept before the rest.
  induction cs generalizing starter kept with
  | nil =>
      have hreverse := hkept.of_subset (List.reverse_subset.2 (List.Subset.refl kept))
      rw [composeOnto, decomposeChars, List.flatMap_cons, List.append_nil, hreverse.flatMap_eq]
  | cons c cs ih =>
      obtain ⟨hc, hrest⟩ := List.forall_mem_cons.1 hcs
      rcases composeOnto_cons starter kept c cs with
        ⟨joined, hreaches, hpair, heq⟩ | ⟨hzero, heq⟩ | ⟨hmark, heq⟩
      · -- The character is written right behind the starter, before the marks of lower classes.
        have hlower : ∀ k ∈ kept.reverse, combiningClass k ≠ 0 ∧
            combiningClass k < combiningClass c := fun k hk =>
          ⟨h.marks k (List.mem_reverse.1 hk), h.class_lt hreaches k (List.mem_reverse.1 hk)⟩
        rw [heq, ih hkept hrest (h.skip hreaches), canonicalExpansion_of_composePair? hpair,
          List.append_assoc]
        exact orderMarks_append_congr _ (orderMarks_append_cons hlower cs).symm
      · -- What is before the new starter is written down, and the composition begins anew with it.
        have hreverse := hkept.of_subset (List.reverse_subset.2 (List.Subset.refl kept))
        obtain ⟨c', hc'⟩ := hc
        have hnext : decomposeChars (composeOnto c [] cs) = orderMarks (c :: cs) := by
          rw [ih .nil hrest (keptBefore_nil h.rest.tail), canonicalExpansion_of_mem hc']
          rfl
        rw [heq, decomposeChars, List.flatMap_cons, hreverse.flatMap_append]
        exact orderMarks_append_congr _ (orderMarks_append_congr _ hnext)
      · have hkept' : AllSettled (c :: kept) := List.forall_mem_cons.2 ⟨hc, hkept⟩
        rw [heq, ih hkept' hrest (h.keep hmark), List.reverse_cons, List.append_assoc]
        rfl

theorem decomposeChars_composeAll {cs : List Char} (hcs : AllSettled cs) (h : Ordered cs) :
    decomposeChars (composeAll cs) = cs := by
  induction cs with
  | nil => rfl
  | cons c cs ih =>
      obtain ⟨⟨c', hc'⟩, hrest⟩ := List.forall_mem_cons.1 hcs
      have hc := canonicalExpansion_of_mem hc'
      rw [composeAll]
      split
      · rw [decomposeChars_composeOnto .nil hrest (keptBefore_nil h.tail), hc]
        exact orderMarks_of_ordered h
      · -- A mark before the first starter stays where it is.
        rw [decomposeChars, List.flatMap_cons, hc]
        show placeMark c (decomposeChars (composeAll cs)) = _
        rw [ih hrest h.tail, placeMark_of_ordered h]

end Interlinear.Text
