import Interlinear.Lists
import Interlinear.Proofs.Text.CodeRanges
import Interlinear.Proofs.Text.HeadwordKey

set_option autoImplicit false

/-! # Title case of decomposed words

A word is in title case if each of its letters with case is uppercase, unless it comes right after
another one, after which it is lowercase (`TitleCase`, `isTitle_iff`). A mark has no case. So a letter
that comes right after a letter with a mark is lowercase as long as the two are composed, but would
have to be uppercase once the mark stands between them (`isTitle_decomposed_iff`): decomposition
takes `Fàn` out of title case. Words in which no such letter follows stay as they are
(`isTitle_decomposed`).

The iota subscript is the one mark that has case. It is lowercase, and stands last among the marks of
a letter, so what is written with it follows no rule of this kind, and is left out here. -/

namespace Interlinear.Text

/-! ## The rule of title case -/

/-- A character is uppercase or lowercase. -/
def HasCase (c : Char) : Prop := isUppercase c = true ∨ isLowercase c = true

instance : DecidablePred HasCase := fun c =>
  inferInstanceAs (Decidable (isUppercase c = true ∨ isLowercase c = true))

/-- A text is in title case, if a letter goes on with a run of letters only after a letter that
`joins` what follows it. -/
structure TitleCase (joins : Char → Prop) (cs : List Char) : Prop where
  cased : ∃ c ∈ cs, HasCase c
  /-- A letter with case is uppercase unless it goes on with a run. -/
  places : ∀ before c after, cs = before ++ c :: after → HasCase c →
    (isUppercase c = true ↔ ¬ ∃ d ∈ before.getLast?, HasCase d ∧ joins d)

/-- A letter comes right after another one and goes on with its run; `afterCased` tells this of a
letter that the text begins with. -/
def GoesOn (joins : Char → Prop) (afterCased : Bool) (before : List Char) : Prop :=
  before.getLast?.elim (afterCased = true) fun d => HasCase d ∧ joins d

/-- Whether all letters of a text are in title case, as in `titleFrom`. -/
def titleJoining (joins : Char → Prop) [DecidablePred joins] (afterCased : Bool) : List Char → Bool
  | [] => true
  | c :: cs =>
    (HasCase c → (isUppercase c = true ↔ afterCased = false)) &&
      titleJoining joins (HasCase c ∧ joins c) cs

theorem titleFrom_eq (afterCased : Bool) (cs : List Char) :
    titleFrom afterCased cs = titleJoining (fun _ => True) afterCased cs := by
  induction cs generalizing afterCased with
  | nil => rfl
  | cons c cs ih =>
      rw [titleFrom, titleJoining, ih, ih]
      cases hupper : isUppercase c with
      | true => simp [HasCase, hupper]
      | false =>
          cases hlower : isLowercase c with
          | true => simp [HasCase, hupper, hlower]
          | false => simp [HasCase, hupper, hlower]

section

variable {joins : Char → Prop} [DecidablePred joins]

theorem goesOn_cons {c : Char} {afterCased : Bool} {before : List Char} :
    GoesOn joins afterCased (c :: before) ↔ GoesOn joins (HasCase c ∧ joins c) before := by
  rw [GoesOn, GoesOn, List.getLast?_cons]
  cases before.getLast? with
  | none => simp
  | some d => rfl

theorem titleJoining_iff {afterCased : Bool} {cs : List Char} :
    titleJoining joins afterCased cs = true ↔
      ∀ before c after, cs = before ++ c :: after → HasCase c →
        (isUppercase c = true ↔ ¬ GoesOn joins afterCased before) := by
  induction cs generalizing afterCased with
  | nil => simp [titleJoining]
  | cons c cs ih =>
      rw [List.forall_places_cons, titleJoining, Bool.and_eq_true, ih, decide_eq_true_iff]
      simp only [goesOn_cons]
      rw [GoesOn, List.getLast?_nil, Option.elim_none, Bool.not_eq_true]

theorem titleCase_iff {cs : List Char} :
    TitleCase joins cs ↔ (∃ c ∈ cs, HasCase c) ∧ titleJoining joins false cs = true := by
  rw [titleJoining_iff]
  have hnone : ∀ {before : List Char}, GoesOn joins false before ↔
      ∃ d ∈ before.getLast?, HasCase d ∧ joins d := by
    intro before
    rw [GoesOn]
    cases before.getLast? with
    | none => simp
    | some d => simp
  simp only [hnone]
  exact ⟨fun h => ⟨h.cased, h.places⟩, fun h => ⟨h.1, h.2⟩⟩

end

/-- What is asked of a word is the rule of title case, where every letter joins the next one. -/
theorem isTitle_iff {word : String} :
    isTitle word = true ↔ TitleCase (fun _ => True) word.toList := by
  rw [titleCase_iff, isTitle, Bool.and_eq_true, titleFrom_eq, List.any_eq_true]
  simp only [HasCase, Bool.or_eq_true]

/-! ## Case in the tables -/

/-- The mark that is lowercase. -/
def iotaSubscript : Char := '\u0345'

/-- Whether a code point is uppercase, and whether it is lowercase. -/
def caseOf (n : Nat) : Bool × Bool := (inRanges uppercaseRanges n, inRanges lowercaseRanges n)

/-- `caseOf`, by sets of code points. -/
def askCase (n : Nat) : Bool × Bool :=
  (inCodeSet (rangeSet uppercaseRanges) n, inCodeSet (rangeSet lowercaseRanges) n)

/-- The tables of case are in ascending order. -/
theorem isChain_caseRanges :
    uppercaseRanges.IsChain CodeRange.Before ∧ lowercaseRanges.IsChain CodeRange.Before := by
  decide +kernel

theorem askCase_eq (n : Nat) : askCase n = caseOf n := by
  rw [askCase, caseOf, inRanges_eq_inCodeSet isChain_caseRanges.1,
    inRanges_eq_inCodeSet isChain_caseRanges.2]

theorem askCase_aliases : ∀ a ∈ aliases, askCase a.source = askCase a.target := by decide +kernel

theorem askCase_pairings : ∀ p ∈ primaryPairings ++ excludedPairings, p.mark ≠ iotaSubscript.toNat →
    askCase p.composed = askCase p.base ∧ askCase p.mark = (false, false) := by
  decide +kernel

/-- Neither jamo nor syllables made of them have case. -/
theorem caseRanges_avoid_hangul : ∀ r ∈ uppercaseRanges ++ lowercaseRanges,
    (r.hi < 0x1100 ∨ 0x11FF < r.lo) ∧ (r.hi < 0xAC00 ∨ 0xAC00 + 11172 ≤ r.lo) := by
  decide +kernel

/-- The iota subscript is the only mark that has case. -/
theorem caseRanges_marks :
    Nat.land (rangeSet (uppercaseRanges ++ lowercaseRanges)) (codeSet markCodes) =
      codeSet [iotaSubscript.toNat] := by
  decide +kernel

theorem hasCase_iff {c : Char} : HasCase c ↔ caseOf c.toNat ≠ (false, false) := by
  rw [HasCase, caseOf, isUppercase, isLowercase]
  cases inRanges uppercaseRanges c.toNat <;> cases inRanges lowercaseRanges c.toNat <;> decide

theorem testBit_of_caseOf {n : Nat} (h : caseOf n ≠ (false, false)) :
    (rangeSet (uppercaseRanges ++ lowercaseRanges)).testBit n = true := by
  rw [testBit_rangeSet]
  cases hupper : inRanges uppercaseRanges n with
  | true =>
      obtain ⟨r, hr, hn⟩ := exists_of_inRanges hupper
      exact ⟨r, List.mem_append_left _ hr, hn⟩
  | false =>
      cases hlower : inRanges lowercaseRanges n with
      | true =>
          obtain ⟨r, hr, hn⟩ := exists_of_inRanges hlower
          exact ⟨r, List.mem_append_right _ hr, hn⟩
      | false => exact absurd (by rw [caseOf, hupper, hlower]) h

theorem not_hasCase_of_mark {c : Char} (h : combiningClass c ≠ 0) (hc : c ≠ iotaSubscript) :
    ¬ HasCase c := by
  intro hcase
  have hmark : (codeSet markCodes).testBit c.toNat = true := by
    rw [← inCodeSet_iff_testBit, inCodeSet_codeSet]
    exact mem_markCodes h
  have hboth := testBit_of_land_eq caseRanges_marks (testBit_of_caseOf (hasCase_iff.1 hcase)) hmark
  rw [← inCodeSet_iff_testBit, inCodeSet_codeSet, List.mem_singleton] at hboth
  exact hc (Char.toNat_inj.1 hboth)

/-! ## Case in decompositions -/

/-- Code points are a letter of the given case, and marks without case. -/
def IsCasedBy (case : Bool × Bool) (codes : List Nat) : Prop :=
  ∃ base marks, codes = base :: marks ∧ caseOf base = case ∧ ∀ m ∈ marks, caseOf m = (false, false)

theorem isCasedBy_singleton (n : Nat) : IsCasedBy (caseOf n) [n] := ⟨n, [], rfl, rfl, by simp⟩

theorem IsCasedBy.append {case : Bool × Bool} {codes : List Nat} (h : IsCasedBy case codes)
    {m : Nat} (hm : caseOf m = (false, false)) : IsCasedBy case (codes ++ [m]) := by
  obtain ⟨base, marks, rfl, hbase, hmarks⟩ := h
  exact ⟨base, marks ++ [m], rfl, hbase, by simpa [or_imp, forall_and] using ⟨hmarks, hm⟩⟩

theorem isCasedBy_expandCode {depth n : Nat} (h : iotaSubscript.toNat ∉ expandCode depth n) :
    IsCasedBy (caseOf n) (expandCode depth n) := by
  induction depth generalizing n with
  | zero => exact isCasedBy_singleton n
  | succ depth ih =>
      rw [expandCode] at h ⊢
      split at h
      next target htarget =>
        have hcase := askCase_aliases _ (mem_of_aliasIn?_eq_some htarget)
        rw [askCase_eq, askCase_eq] at hcase
        simp only [hcase]
        exact ih h
      next =>
        split at h
        next base mark hpair =>
          -- The mark is not the iota subscript, so it has no case, and the base has that of `n`.
          rw [List.mem_append, List.mem_singleton, not_or] at h
          obtain ⟨hcase, hmark⟩ := askCase_pairings _ (mem_of_pairing?_eq_some hpair) (Ne.symm h.2)
          rw [askCase_eq, askCase_eq] at hcase
          rw [askCase_eq] at hmark
          simp only [hcase]
          exact (ih h.1).append hmark
        next => exact isCasedBy_singleton n

theorem isCasedBy_of_jamo? {n : Nat} {codes : List Nat} (h : Hangul.jamo? n = some codes) :
    IsCasedBy (caseOf n) codes := by
  have hplain : ∀ {m}, 0x1100 ≤ m ∧ m ≤ 0x11FF ∨ 0xAC00 ≤ m ∧ m < 0xAC00 + 11172 →
      caseOf m = (false, false) := by
    intro m hm
    by_contra hcase
    obtain ⟨r, hr, hlo, hhi⟩ := testBit_rangeSet.1 (testBit_of_caseOf hcase)
    have := caseRanges_avoid_hangul r hr
    omega
  have hmarks : ∀ m ∈ codes, caseOf m = (false, false) := fun m hm =>
    hplain (.inl (bounds_of_mem_jamo? h hm))
  rw [Hangul.jamo?] at h
  split at h
  next hn =>
    rw [hplain (.inr hn)]
    cases codes with
    | nil =>
        simp only [Option.some.injEq] at h
        split at h <;> simp at h
    | cons base marks =>
        exact ⟨base, marks, rfl, hmarks base List.mem_cons_self,
          fun m hm => hmarks m (List.mem_cons_of_mem _ hm)⟩
  next => contradiction

theorem isCasedBy_canonicalCodes {n : Nat} (h : iotaSubscript.toNat ∉ canonicalCodes n) :
    IsCasedBy (caseOf n) (canonicalCodes n) := by
  rw [canonicalCodes] at h ⊢
  cases hjamo : Hangul.jamo? n with
  | some codes => exact isCasedBy_of_jamo? hjamo
  | none =>
      rw [hjamo] at h
      exact isCasedBy_expandCode h

/-- A character is taken apart into a letter of the same case and marks without case. -/
theorem exists_canonicalExpansion_eq {c : Char} (h : iotaSubscript ∉ canonicalExpansion c) :
    ∃ base marks, canonicalExpansion c = base :: marks ∧ caseOf base.toNat = caseOf c.toNat ∧
      ∀ m ∈ marks, ¬ HasCase m := by
  have hcodes : iotaSubscript.toNat ∉ canonicalCodes c.toNat := fun hmem =>
    h (List.mem_map.2 ⟨_, hmem, Char.ofNat_toNat _⟩)
  obtain ⟨base, marks, heq, hbase, hmarks⟩ := isCasedBy_canonicalCodes hcodes
  have hvalid : ∀ m ∈ base :: marks, (Char.ofNat m).toNat = m := fun m hm =>
    toNat_ofNat (isValidChar_of_mem_canonicalCodes c.valid (heq ▸ hm))
  refine ⟨Char.ofNat base, marks.map Char.ofNat, by rw [canonicalExpansion, heq, List.map_cons],
    by rw [hvalid base List.mem_cons_self, hbase], ?_⟩
  intro d hd
  obtain ⟨m, hm, rfl⟩ := List.mem_map.1 hd
  rw [hasCase_iff, hvalid m (List.mem_cons_of_mem _ hm), not_not]
  exact hmarks m hm

/-! ## Title case of what is decomposed -/

section

variable {joins : Char → Prop} [DecidablePred joins]

theorem titleJoining_uncased {c : Char} (h : ¬ HasCase c) (afterCased : Bool) (cs : List Char) :
    titleJoining joins afterCased (c :: cs) = titleJoining joins false cs := by
  simp [titleJoining, h]

/-- Marks without case only interrupt a run of letters. -/
theorem titleJoining_append {marks : List Char} (h : ∀ m ∈ marks, ¬ HasCase m) (afterCased : Bool)
    (cs : List Char) :
    titleJoining joins afterCased (marks ++ cs) =
      titleJoining joins (afterCased && marks.isEmpty) cs := by
  induction marks generalizing afterCased with
  | nil => simp
  | cons m marks ih =>
      rw [List.cons_append, titleJoining_uncased (h m List.mem_cons_self),
        ih fun d hd => h d (List.mem_cons_of_mem _ hd)]
      simp

theorem titleJoining_cons_congr {cs ds : List Char}
    (h : ∀ afterCased, titleJoining joins afterCased cs = titleJoining joins afterCased ds)
    (afterCased : Bool) (c : Char) :
    titleJoining joins afterCased (c :: cs) = titleJoining joins afterCased (c :: ds) := by
  rw [titleJoining, titleJoining, h]

/-- A mark that is put in its place interrupts the same run of letters. -/
theorem titleJoining_placeMark {c : Char} {cs : List Char} (h : ∀ d ∈ c :: cs, d ≠ iotaSubscript)
    (afterCased : Bool) :
    titleJoining joins afterCased (placeMark c cs) = titleJoining joins afterCased (c :: cs) := by
  induction cs generalizing afterCased with
  | nil => rfl
  | cons d ds ih =>
      obtain ⟨hc, hd, hds⟩ : c ≠ iotaSubscript ∧ d ≠ iotaSubscript ∧
          ∀ x ∈ ds, x ≠ iotaSubscript := by simpa using h
      rw [placeMark]
      split
      next hlower =>
        -- Of the two that change places neither has case, so no run goes on in either order.
        have hcPlain : ¬ HasCase c := not_hasCase_of_mark (by omega) hc
        have hdPlain : ¬ HasCase d := not_hasCase_of_mark (by omega) hd
        rw [titleJoining_uncased hdPlain, ih (by simpa using ⟨hc, hds⟩),
          titleJoining_uncased hcPlain, titleJoining_uncased hcPlain, titleJoining_uncased hdPlain]
      next => rfl

theorem titleJoining_orderMarks {cs : List Char} (h : ∀ c ∈ cs, c ≠ iotaSubscript)
    (afterCased : Bool) :
    titleJoining joins afterCased (orderMarks cs) = titleJoining joins afterCased cs := by
  induction cs generalizing afterCased with
  | nil => rfl
  | cons c cs ih =>
      obtain ⟨hc, hcs⟩ := List.forall_mem_cons.1 h
      show titleJoining joins afterCased (placeMark c (orderMarks cs)) = _
      rw [titleJoining_placeMark (by simpa [mem_orderMarks] using ⟨hc, hcs⟩)]
      exact titleJoining_cons_congr (ih hcs) afterCased c

end

/-- A character is taken apart into several. -/
def IsComposite (c : Char) : Prop := 1 < (canonicalExpansion c).length

instance : DecidablePred IsComposite := fun c =>
  inferInstanceAs (Decidable (1 < (canonicalExpansion c).length))

/-- Once taken apart, a letter with marks does not join what follows it. -/
theorem titleJoining_flatMap {cs : List Char} (h : ∀ c ∈ cs, iotaSubscript ∉ canonicalExpansion c)
    (afterCased : Bool) :
    titleJoining (fun _ => True) afterCased (cs.flatMap canonicalExpansion) =
      titleJoining (fun c => ¬ IsComposite c) afterCased cs := by
  induction cs generalizing afterCased with
  | nil => rfl
  | cons c cs ih =>
      obtain ⟨hc, hcs⟩ := List.forall_mem_cons.1 h
      obtain ⟨base, marks, heq, hbase, hmarks⟩ := exists_canonicalExpansion_eq hc
      have hcase : HasCase base ↔ HasCase c := by rw [hasCase_iff, hasCase_iff, hbase]
      have hupper : isUppercase base = isUppercase c := congrArg Prod.fst hbase
      -- What follows goes on with the run of `c` only if no marks stand between.
      have hjoins : ¬ IsComposite c ↔ marks = [] := by
        rw [IsComposite, heq]
        cases marks <;> simp
      rw [List.flatMap_cons, heq, List.cons_append, titleJoining, titleJoining_append hmarks, ih hcs,
        titleJoining, hupper]
      simp only [hcase, hjoins]
      congr 2
      cases marks <;> simp

theorem exists_hasCase_decomposeChars {cs : List Char}
    (h : ∀ c ∈ cs, iotaSubscript ∉ canonicalExpansion c) :
    (∃ d ∈ decomposeChars cs, HasCase d) ↔ ∃ c ∈ cs, HasCase c := by
  simp only [decomposeChars, mem_orderMarks, List.mem_flatMap]
  constructor
  · rintro ⟨d, ⟨c, hc, hd⟩, hcase⟩
    obtain ⟨base, marks, heq, hbase, hmarks⟩ := exists_canonicalExpansion_eq (h c hc)
    rw [heq] at hd
    rcases List.mem_cons.1 hd with rfl | hd
    · exact ⟨c, hc, by rwa [hasCase_iff, ← hbase, ← hasCase_iff]⟩
    · exact absurd hcase (hmarks d hd)
  · rintro ⟨c, hc, hcase⟩
    obtain ⟨base, marks, heq, hbase, -⟩ := exists_canonicalExpansion_eq (h c hc)
    exact ⟨base, ⟨c, hc, heq ▸ List.mem_cons_self⟩, by rwa [hasCase_iff, hbase, ← hasCase_iff]⟩

theorem titleCase_decomposeChars {cs : List Char}
    (h : ∀ c ∈ cs, iotaSubscript ∉ canonicalExpansion c) :
    TitleCase (fun _ => True) (decomposeChars cs) ↔ TitleCase (fun c => ¬ IsComposite c) cs := by
  have hmarks : ∀ d ∈ cs.flatMap canonicalExpansion, d ≠ iotaSubscript := by
    rintro d hd rfl
    obtain ⟨c, hc, hmem⟩ := List.mem_flatMap.1 hd
    exact h c hc hmem
  rw [titleCase_iff, titleCase_iff, exists_hasCase_decomposeChars h, decomposeChars,
    titleJoining_orderMarks hmarks, titleJoining_flatMap h]

/-- It only matters which letters join a letter with case that comes right after them. -/
theorem TitleCase.congr {joins joins' : Char → Prop} {cs : List Char} (h : TitleCase joins cs)
    (halike : ∀ before c d after, cs = before ++ c :: d :: after → HasCase c → HasCase d →
      (joins c ↔ joins' c)) : TitleCase joins' cs where
  cased := h.cased
  places before d after hcs hd := by
    rw [h.places before d after hcs hd]
    refine not_congr (exists_congr fun c => and_congr_right fun hc => and_congr_right fun hcase => ?_)
    obtain ⟨before, rfl⟩ := List.getLast?_eq_some_iff.1 hc
    exact halike before c d after (by rw [hcs, List.append_assoc, List.singleton_append]) hcase hd

/-- A letter that is taken apart stands right before another letter with case. -/
def HasCompositeRun (cs : List Char) : Prop :=
  ∃ before c d after, cs = before ++ c :: d :: after ∧ HasCase c ∧ IsComposite c ∧ HasCase d

theorem titleCase_not_isComposite {cs : List Char} (h : ¬ HasCompositeRun cs) :
    TitleCase (fun c => ¬ IsComposite c) cs ↔ TitleCase (fun _ => True) cs := by
  have halike : ∀ before c d after, cs = before ++ c :: d :: after → HasCase c → HasCase d →
      (¬ IsComposite c ↔ True) := fun before c d after hcs hc hd =>
    iff_true_intro fun hcomposite => h ⟨before, c, d, after, hcs, hc, hcomposite, hd⟩
  constructor
  · intro hdecomposed
    exact hdecomposed.congr halike
  · intro hcomposed
    exact hcomposed.congr fun before c d after hcs hc hd =>
      (halike before c d after hcs hc hd).symm

/-- No text is in title case both with its letters composed and with them taken apart, if the
second of two letters is to be lowercase for the one, and uppercase for the other. -/
theorem not_hasCompositeRun {cs : List Char} (h : TitleCase (fun _ => True) cs)
    (h' : TitleCase (fun c => ¬ IsComposite c) cs) : ¬ HasCompositeRun cs := by
  rintro ⟨before, c, d, after, rfl, hc, hcomposite, hd⟩
  have hcs : before ++ c :: d :: after = (before ++ [c]) ++ d :: after := by simp
  have hlower : ¬ isUppercase d = true := by simpa [hc] using h.places _ d after hcs hd
  have hupper : isUppercase d = true := by simpa [hc, hcomposite] using h'.places _ d after hcs hd
  exact hlower hupper

section

variable {word : String} (h : ∀ c ∈ word.toList, iotaSubscript ∉ canonicalExpansion c)

include h

/-- A decomposed word is in title case if each letter with case is uppercase unless it comes right
after one that is not taken apart. -/
theorem isTitle_decomposed_iff :
    isTitle (decomposed word) = true ↔ TitleCase (fun c => ¬ IsComposite c) word.toList := by
  rw [isTitle_iff, decomposed, String.toList_ofList, titleCase_decomposeChars h]

/-- Decomposition changes nothing, as long as no letter that is taken apart stands right before
another one. -/
theorem isTitle_decomposed (hrun : ¬ HasCompositeRun word.toList) :
    isTitle (decomposed word) = isTitle word := by
  rw [Bool.eq_iff_iff, isTitle_decomposed_iff h, titleCase_not_isComposite hrun, isTitle_iff]

/-- Where one does, decomposition takes the word out of title case. -/
theorem isTitle_decomposed_iff_of_isTitle (htitle : isTitle word = true) :
    isTitle (decomposed word) = true ↔ ¬ HasCompositeRun word.toList := by
  constructor
  · intro hdecomposed
    exact not_hasCompositeRun (isTitle_iff.1 htitle) ((isTitle_decomposed_iff h).1 hdecomposed)
  · intro hrun
    rwa [isTitle_decomposed h hrun]

end

end Interlinear.Text
