import Interlinear.Lists
import Interlinear.Proofs.Text.Lowering
import Interlinear.Proofs.Text.MarkOrder

set_option autoImplicit false

/-! # Keys of headwords and forms of words

A headword is put into lower case and then taken apart to make its key (`headwordKey`). A word of a
text is taken apart and then put into lower case to be looked up. The two are the same just if every
character of the word agrees with its place (`headwordKey_eq_iff`): a character other than a sigma
must have a lowercase form itself or be written with characters that have none, and a sigma must end
a word before the text is taken apart just if it does so afterwards.

The order of marks does not matter to this: it can be established before or after lowering
(`lowerFrom_orderMarks`), and the two ways give the same classes of characters, so that the order
hides no difference (`orderMarks_inj`).

A styled capital, such as the black-letter H, does not agree: its key is the plain capital, which no
word of a text is ever looked up under (`not_forall_headwordKey_eq`). -/

namespace Interlinear.Text

/-! ## Neighbours with case -/

/-- Two marks can change places before what is asked for case. -/
theorem casedAhead_swap {c d : Char} (hc : combiningClass c ≠ 0) (hd : combiningClass d ≠ 0)
    (cs : List Char) : casedAhead (c :: d :: cs) = casedAhead (d :: c :: cs) := by
  -- A mark that is not passed over has no case.
  have hmark : ∀ {m : Char}, combiningClass m ≠ 0 → isCaseIgnorable m = false →
      isCased m = false := by
    intro m hm hnot
    cases hcased : isCased m with
    | false => rfl
    | true => rw [isCaseIgnorable_of_mark hm hcased] at hnot; cases hnot
  simp only [casedAhead]
  cases hci : isCaseIgnorable c with
  | true => simp
  | false =>
      cases hdi : isCaseIgnorable d with
      | true => simp
      | false => simp [hmark hc hci, hmark hd hdi]

theorem casedAhead_cons_congr {cs ds : List Char} (h : casedAhead cs = casedAhead ds) (c : Char) :
    casedAhead (c :: cs) = casedAhead (c :: ds) := by
  rw [casedAhead, casedAhead, h]

theorem combiningClass_ne_zero_of_not_mayPrecede {c d : Char} (h : ¬ MayPrecede c d) :
    combiningClass c ≠ 0 ∧ combiningClass d ≠ 0 := by
  rw [MayPrecede] at h
  omega

theorem casedAhead_placeMark (c : Char) (cs : List Char) :
    casedAhead (placeMark c cs) = casedAhead (c :: cs) := by
  induction cs with
  | nil => rfl
  | cons d ds ih =>
      by_cases hcd : MayPrecede c d
      · rw [placeMark_of_mayPrecede hcd]
      · obtain ⟨hc, hd⟩ := combiningClass_ne_zero_of_not_mayPrecede hcd
        rw [placeMark_of_not_mayPrecede hcd, casedAhead_cons_congr ih, casedAhead_swap hc hd]

theorem casedAhead_orderMarks (cs : List Char) : casedAhead (orderMarks cs) = casedAhead cs := by
  induction cs with
  | nil => rfl
  | cons c cs ih => exact (casedAhead_placeMark c _).trans (casedAhead_cons_congr ih c)

/-! ## Lowering in context -/

/-- The lowercase form of a character between two texts; the one before it is given with its last
character first. -/
def lowerIn (before : List Char) (c : Char) (after : List Char) : List Char :=
  if c = 'Σ' then if casedAhead before && !casedAhead after then ['ς'] else ['σ']
  else lowerChar c

theorem lowerFrom_cons (before : List Char) (c : Char) (cs : List Char) :
    lowerFrom before (c :: cs) = lowerIn before c cs ++ lowerFrom (c :: before) cs := rfl

theorem lowerFrom_congr {before before' : List Char} (h : casedAhead before = casedAhead before')
    (cs : List Char) : lowerFrom before cs = lowerFrom before' cs := by
  induction cs generalizing before before' with
  | nil => rfl
  | cons c cs ih =>
      rw [lowerFrom_cons, lowerFrom_cons, ih (casedAhead_cons_congr h c), lowerIn, lowerIn, h]

theorem exists_lowerIn_eq {c : Char} (hc : c ≠ 'İ') (before after : List Char) :
    ∃ x, lowerIn before c after = [x] ∧ combiningClass x = combiningClass c := by
  rw [lowerIn]
  split
  next hsigma =>
    subst hsigma
    split
    · exact ⟨'ς', rfl, combiningClass_sigmas.2.2.trans combiningClass_sigmas.1.symm⟩
    · exact ⟨'σ', rfl, combiningClass_sigmas.2.1.trans combiningClass_sigmas.1.symm⟩
  next =>
    have hclass := map_combiningClass_lowerChar hc
    rw [lowerChar_eq hc] at hclass ⊢
    exact ⟨_, rfl, List.cons.inj hclass |>.1⟩

theorem lowerIn_of_mark {c : Char} (hc : combiningClass c ≠ 0) (before after : List Char) :
    lowerIn before c after = [c] := by
  rw [lowerIn, if_neg, lowerChar_of_mark hc]
  rintro rfl
  exact hc combiningClass_sigmas.1

/-! ## Ordering before and after lowering -/

theorem lowerFrom_placeMark {c : Char} {cs : List Char} (hc : c ≠ 'İ') (hcs : 'İ' ∉ cs)
    (before : List Char) : lowerFrom before (placeMark c cs)
      = (lowerIn before c cs).foldr placeMark (lowerFrom (c :: before) cs) := by
  induction cs generalizing before with
  | nil =>
      obtain ⟨x, hx, -⟩ := exists_lowerIn_eq hc before []
      rw [placeMark, lowerFrom_cons, hx]
      rfl
  | cons d ds ih =>
      obtain ⟨hd, hds⟩ := not_or.1 (List.mem_cons.not.1 hcs)
      by_cases hcd : MayPrecede c d
      · obtain ⟨x, hx, hclassx⟩ := exists_lowerIn_eq hc before (d :: ds)
        obtain ⟨y, hy, hclassy⟩ := exists_lowerIn_eq (Ne.symm hd) (c :: before) ds
        have hxy : MayPrecede x y := by rwa [MayPrecede, hclassx, hclassy]
        rw [placeMark_of_mayPrecede hcd, lowerFrom_cons, lowerFrom_cons, hx, hy]
        exact (placeMark_of_mayPrecede hxy _).symm
      · -- Both are marks: neither has a lowercase form, and either may stand first for the others.
        obtain ⟨hcmark, hdmark⟩ := combiningClass_ne_zero_of_not_mayPrecede hcd
        have hswap := lowerFrom_congr (casedAhead_swap hcmark hdmark before) ds
        rw [placeMark_of_not_mayPrecede hcd, lowerFrom_cons, lowerFrom_cons, ih hds,
          lowerIn_of_mark hcmark, lowerIn_of_mark hcmark, lowerIn_of_mark hdmark,
          lowerIn_of_mark hdmark, hswap]
        exact (placeMark_of_not_mayPrecede hcd _).symm

/-- Marks are ordered before or after lowering. -/
theorem lowerFrom_orderMarks {cs : List Char} (h : 'İ' ∉ cs) (before : List Char) :
    lowerFrom before (orderMarks cs) = orderMarks (lowerFrom before cs) := by
  induction cs generalizing before with
  | nil => rfl
  | cons c cs ih =>
      obtain ⟨hc, hcs⟩ := not_or.1 (List.mem_cons.not.1 h)
      have hordered : 'İ' ∉ orderMarks cs := mt mem_orderMarks.1 hcs
      calc lowerFrom before (placeMark c (orderMarks cs))
          = (lowerIn before c (orderMarks cs)).foldr placeMark
              (lowerFrom (c :: before) (orderMarks cs)) :=
            lowerFrom_placeMark (Ne.symm hc) hordered before
        _ = (lowerIn before c cs).foldr placeMark (orderMarks (lowerFrom (c :: before) cs)) := by
            rw [ih hcs, lowerIn, casedAhead_orderMarks, lowerIn]
        _ = orderMarks (lowerFrom before (c :: cs)) := by
            rw [lowerFrom_cons, orderMarks, orderMarks, List.foldr_append]

/-! ## Order hides no difference -/

theorem map_combiningClass_placeMark {c d : Char} (hcd : combiningClass c = combiningClass d)
    {cs ds : List Char} (h : cs.map combiningClass = ds.map combiningClass) :
    (placeMark c cs).map combiningClass = (placeMark d ds).map combiningClass := by
  induction cs generalizing ds with
  | nil =>
      obtain rfl := List.map_eq_nil_iff.1 h.symm
      simp [placeMark, hcd]
  | cons a as ih =>
      cases ds with
      | nil => cases h
      | cons b bs =>
          obtain ⟨hab, habs⟩ := List.cons.inj h
          by_cases hca : MayPrecede c a
          · have hdb : MayPrecede d b := by rwa [MayPrecede, ← hcd, ← hab]
            rw [placeMark_of_mayPrecede hca, placeMark_of_mayPrecede hdb]
            simp [hcd, hab, habs]
          · have hdb : ¬ MayPrecede d b := by rwa [MayPrecede, ← hcd, ← hab]
            rw [placeMark_of_not_mayPrecede hca, placeMark_of_not_mayPrecede hdb]
            simp [hab, ih habs]

theorem map_combiningClass_orderMarks {cs ds : List Char}
    (h : cs.map combiningClass = ds.map combiningClass) :
    (orderMarks cs).map combiningClass = (orderMarks ds).map combiningClass := by
  induction cs generalizing ds with
  | nil =>
      obtain rfl := List.map_eq_nil_iff.1 h.symm
      rfl
  | cons c cs ih =>
      cases ds with
      | nil => cases h
      | cons d ds =>
          obtain ⟨hcd, h⟩ := List.cons.inj h
          exact map_combiningClass_placeMark hcd (ih h)

theorem placeMark_inj {c d : Char} (hcd : combiningClass c = combiningClass d) {cs ds : List Char}
    (h : cs.map combiningClass = ds.map combiningClass) (heq : placeMark c cs = placeMark d ds) :
    c = d ∧ cs = ds := by
  -- The classes decide the place of a mark, so both marks are placed at the same one.
  induction cs generalizing ds with
  | nil =>
      obtain rfl := List.map_eq_nil_iff.1 h.symm
      exact ⟨(List.cons.inj heq).1, rfl⟩
  | cons a as ih =>
      cases ds with
      | nil => cases h
      | cons b bs =>
          obtain ⟨hab, habs⟩ := List.cons.inj h
          by_cases hca : MayPrecede c a
          · have hdb : MayPrecede d b := by rwa [MayPrecede, ← hcd, ← hab]
            rw [placeMark_of_mayPrecede hca, placeMark_of_mayPrecede hdb] at heq
            exact List.cons.inj heq
          · have hdb : ¬ MayPrecede d b := by rwa [MayPrecede, ← hcd, ← hab]
            rw [placeMark_of_not_mayPrecede hca, placeMark_of_not_mayPrecede hdb] at heq
            obtain ⟨rfl, htail⟩ := List.cons.inj heq
            obtain ⟨rfl, rfl⟩ := ih habs htail
            exact ⟨rfl, rfl⟩

/-- Texts of the same classes are told apart after ordering just as before. -/
theorem orderMarks_inj {cs ds : List Char} (h : cs.map combiningClass = ds.map combiningClass) :
    orderMarks cs = orderMarks ds ↔ cs = ds := by
  refine ⟨fun heq => ?_, congrArg orderMarks⟩
  induction cs generalizing ds with
  | nil => exact (List.map_eq_nil_iff.1 h.symm).symm
  | cons c cs ih =>
      cases ds with
      | nil => cases h
      | cons d ds =>
          obtain ⟨hcd, htail⟩ := List.cons.inj h
          obtain ⟨rfl, hrest⟩ := placeMark_inj hcd (map_combiningClass_orderMarks htail) heq
          rw [ih htail hrest]

/-! ## Places of characters -/

/-- Whether a capital sigma between two texts ends a word. -/
def isFinal (before after : List Char) : Bool := casedAhead before.reverse && !casedAhead after

/-- A character agrees with its place between two texts: a capital sigma ends a word before the
texts are taken apart just if it does so afterwards, a lunate one ends a word afterwards, and any
other character has a lowercase form itself or is written with characters that have none. -/
def AgreesAt (before : List Char) (c : Char) (after : List Char) : Prop :=
  if c = 'Σ' then isFinal (before.flatMap compatExpansion) (after.flatMap compatExpansion)
    = isFinal before after
  else if c = lunateSigma then
    isFinal (before.flatMap compatExpansion) (after.flatMap compatExpansion) = true
  else LowersByItself c

theorem lowerIn_sigma (before after : List Char) :
    lowerIn before.reverse 'Σ' after = if isFinal before after then ['ς'] else ['σ'] :=
  if_pos rfl

theorem flatMap_lowerIn_sigma (before after : List Char) :
    (lowerIn before 'Σ' after).flatMap compatExpansion = lowerIn before 'Σ' after := by
  obtain ⟨-, hsmall, hfinal⟩ := compatExpansion_sigmas
  rw [lowerIn, if_pos rfl]
  split
  · rw [List.flatMap_singleton, hfinal]
  · rw [List.flatMap_singleton, hsmall]

/-- Without a capital sigma, characters are lowered without regard to their neighbours. -/
theorem lowerFrom_append_of_not_mem {cs : List Char} (h : 'Σ' ∉ cs) (before after : List Char) :
    lowerFrom before (cs ++ after)
      = cs.flatMap lowerChar ++ lowerFrom (cs.reverse ++ before) after := by
  induction cs generalizing before with
  | nil => rfl
  | cons c cs ih =>
      obtain ⟨hc, hcs⟩ := not_or.1 (List.mem_cons.not.1 h)
      rw [List.cons_append, lowerFrom_cons, ih hcs, lowerIn, if_neg (Ne.symm hc),
        List.flatMap_cons, List.reverse_cons, List.append_assoc, List.append_assoc]
      rfl

/-- The lowercase form, between two texts, of what a character is written with. -/
def lowerExpansionIn (before : List Char) (c : Char) (after : List Char) : List Char :=
  if 'Σ' ∈ compatExpansion c then lowerIn before 'Σ' after
  else (compatExpansion c).flatMap lowerChar

theorem lowerFrom_expansion_append (before : List Char) (c : Char) (after : List Char) :
    lowerFrom before (compatExpansion c ++ after)
      = lowerExpansionIn before c after
        ++ lowerFrom ((compatExpansion c).reverse ++ before) after := by
  rw [lowerExpansionIn]
  split
  next hsigma =>
    rw [(compatExpansion_of_sigma_mem hsigma).1]
    exact lowerFrom_cons before 'Σ' after
  next hsigma => exact lowerFrom_append_of_not_mem hsigma before after

theorem map_combiningClass_lowerIn (before : List Char) (c : Char) (after : List Char) :
    ((lowerIn before c after).flatMap compatExpansion).map combiningClass
      = (compatExpansion c).map combiningClass := by
  by_cases hsigma : c = 'Σ'
  · subst hsigma
    obtain ⟨x, hx, hclass⟩ := exists_lowerIn_eq (by decide : 'Σ' ≠ 'İ') before after
    rw [flatMap_lowerIn_sigma, hx, compatExpansion_sigmas.1, List.map_singleton, hclass,
      List.map_singleton]
  · rw [lowerIn, if_neg hsigma, map_combiningClass_expansion]

theorem map_combiningClass_lowerExpansionIn (before : List Char) (c : Char) (after : List Char) :
    (lowerExpansionIn before c after).map combiningClass
      = (compatExpansion c).map combiningClass := by
  rw [lowerExpansionIn]
  split
  next hsigma =>
    obtain ⟨x, hx, hclass⟩ := exists_lowerIn_eq (by decide : 'Σ' ≠ 'İ') before after
    rw [hx, (compatExpansion_of_sigma_mem hsigma).1, List.map_singleton, hclass, List.map_singleton]
  next => exact map_combiningClass_flatMap_lowerChar c

theorem lowerIn_expansion_eq_iff (before : List Char) (c : Char) (after : List Char) :
    (lowerIn before.reverse c after).flatMap compatExpansion
        = lowerExpansionIn (before.flatMap compatExpansion).reverse c
            (after.flatMap compatExpansion) ↔
      AgreesAt before c after := by
  rw [AgreesAt]
  by_cases hsigma : c = 'Σ'
  · subst hsigma
    rw [if_pos rfl, flatMap_lowerIn_sigma, lowerExpansionIn, compatExpansion_sigmas.1,
      if_pos (List.mem_singleton_self _), lowerIn_sigma, lowerIn_sigma]
    generalize isFinal before after = final
    generalize isFinal (before.flatMap compatExpansion) (after.flatMap compatExpansion) = finalApart
    cases final <;> cases finalApart <;> decide
  · rw [if_neg hsigma, lowerIn, if_neg hsigma]
    by_cases hlunate : c = lunateSigma
    · subst hlunate
      obtain ⟨hcapital, hsmall⟩ := compatExpansion_lunateSigmas
      rw [if_pos rfl, lowerChar_lunateSigma, List.flatMap_singleton, hsmall, lowerExpansionIn,
        hcapital, if_pos (List.mem_singleton_self _), lowerIn_sigma]
      cases isFinal (before.flatMap compatExpansion) (after.flatMap compatExpansion) <;> decide
    · rw [if_neg hlunate, ← lowersAlike_iff hlunate, lowerExpansionIn]
      by_cases hmem : 'Σ' ∈ compatExpansion c
      · -- A styled capital sigma stays a capital if it is lowered first.
        obtain ⟨hplain, hc⟩ := compatExpansion_of_sigma_mem hmem
        have hself := (hc.resolve_left hsigma).resolve_left hlunate
        rw [if_pos hmem, LowersAlike, hself, List.flatMap_singleton, hplain, lowerIn_sigma,
          List.flatMap_singleton, lowerChar_sigma]
        split <;> decide
      · rw [if_neg hmem, LowersAlike]

/-! ## Words -/

/-- A text is lowered and taken apart alike in either order just if each character agrees with its
place. -/
theorem flatMap_lowerFrom_eq_iff (before cs : List Char) :
    (lowerFrom before.reverse cs).flatMap compatExpansion
        = lowerFrom (before.flatMap compatExpansion).reverse (cs.flatMap compatExpansion) ↔
      ∀ u c v, cs = u ++ c :: v → AgreesAt (before ++ u) c v := by
  induction cs generalizing before with
  | nil => simp [lowerFrom]
  | cons c cs ih =>
      have hrest := ih (before ++ [c])
      rw [List.reverse_append, List.flatMap_append, List.reverse_append, List.flatMap_singleton]
        at hrest
      -- Both texts begin with the forms of `c`, which are equally long, so the rests can be compared.
      have hlength : ((lowerIn before.reverse c cs).flatMap compatExpansion).length
          = (lowerExpansionIn (before.flatMap compatExpansion).reverse c
              (cs.flatMap compatExpansion)).length := by
        have hclasses := (map_combiningClass_lowerIn before.reverse c cs).trans
          (map_combiningClass_lowerExpansionIn (before.flatMap compatExpansion).reverse c
            (cs.flatMap compatExpansion)).symm
        simpa using congrArg List.length hclasses
      rw [List.forall_places_cons, lowerFrom_cons, List.flatMap_append, List.flatMap_cons,
        lowerFrom_expansion_append, List.append_nil, ← lowerIn_expansion_eq_iff]
      simp only [List.append_assoc, List.singleton_append] at hrest
      rw [← hrest]
      constructor
      · exact fun h => List.append_inj h hlength
      · rintro ⟨hfirst, htail⟩
        rw [hfirst]
        exact congrArg _ htail

theorem map_combiningClass_lowerFrom (before before' cs : List Char) :
    ((lowerFrom before cs).flatMap compatExpansion).map combiningClass
      = (lowerFrom before' (cs.flatMap compatExpansion)).map combiningClass := by
  induction cs generalizing before before' with
  | nil => rfl
  | cons c cs ih =>
      rw [lowerFrom_cons, List.flatMap_append, List.map_append, List.flatMap_cons,
        lowerFrom_expansion_append, List.map_append, map_combiningClass_lowerIn,
        map_combiningClass_lowerExpansionIn, ih]

/-- **Headwords and words of a text are spelled alike.** The key of a headword without dots and
hyphens is the form under which it is looked up in a text just if each of its characters agrees with
its place. -/
theorem headwordKey_eq_iff {word : String} (h : ∀ c ∈ word.toList, isPartMark c = false) :
    headwordKey word = lowered (decomposedCompat word) ↔
      ∀ before c after, word.toList = before ++ c :: after → AgreesAt before c after := by
  have hkept : word.toList.filter (!isPartMark ·) = word.toList :=
    List.filter_eq_self.2 fun c hc => by rw [h c hc, Bool.not_false]
  have hdotted : 'İ' ∉ word.toList.flatMap compatExpansion := by
    intro hmem
    obtain ⟨c, -, hc⟩ := List.mem_flatMap.1 hmem
    exact ne_dottedI_of_mem_compatExpansion hc rfl
  calc headwordKey word = lowered (decomposedCompat word)
      ↔ orderMarks ((lowerChars word.toList).flatMap compatExpansion)
          = lowerChars (orderMarks (word.toList.flatMap compatExpansion)) := by
        rw [headwordKey, hkept, lowered, decomposedCompat, String.toList_ofList,
          String.ofList_inj]
        rfl
    _ ↔ orderMarks ((lowerFrom [] word.toList).flatMap compatExpansion)
          = orderMarks (lowerFrom [] (word.toList.flatMap compatExpansion)) := by
        rw [lowerChars, lowerChars, lowerFrom_orderMarks hdotted]
    _ ↔ (lowerFrom [] word.toList).flatMap compatExpansion
          = lowerFrom [] (word.toList.flatMap compatExpansion) :=
        orderMarks_inj (map_combiningClass_lowerFrom [] [] word.toList)
    _ ↔ ∀ before c after, word.toList = before ++ c :: after → AgreesAt before c after :=
        flatMap_lowerFrom_eq_iff [] word.toList

/-- A headword with composed letters and a final sigma. -/
theorem headwordKey_eq_odos :
    headwordKey "ὉΔΌΣ" = lowered (decomposedCompat "ὉΔΌΣ") ∧
      ∀ before c after, "ὉΔΌΣ".toList = before ++ c :: after → AgreesAt before c after := by
  have hkey : headwordKey "ὉΔΌΣ" = lowered (decomposedCompat "ὉΔΌΣ") := by decide +kernel
  exact ⟨hkey, (headwordKey_eq_iff (by simp [isPartMark])).1 hkey⟩

/-- The black-letter H is a headword whose key differs from what it is looked up under. -/
theorem not_forall_headwordKey_eq : ¬ ∀ word : String, (∀ c ∈ word.toList, isPartMark c = false) →
    headwordKey word = lowered (decomposedCompat word) := by
  intro h
  have hkey : headwordKey "ℌ" = "H" := by decide +kernel
  have hform : lowered (decomposedCompat "ℌ") = "h" := by decide +kernel
  have heq := h "ℌ" (by simp [isPartMark])
  rw [hkey, hform] at heq
  exact absurd heq (by decide)

end Interlinear.Text
