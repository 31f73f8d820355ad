import Interlinear.Proofs.Text.Composition
import Mathlib.Logic.Relation

set_option autoImplicit false

/-! # Texts that differ in tones only

Two texts are alike up to tones if one becomes the other by changes that do not matter: replacing
characters by canonically equivalent ones, and putting in or leaving out tone marks (`ToneAlike`).
Texts are alike just if they are the same without tones (`toneAlike_iff`). So a text without tones
stands for all those that are like it, and leaving out tones a second time changes nothing
(`toneless_normalForm`). -/

namespace Interlinear.Text

/-! ## Decomposed texts -/

theorem allSettled_decomposeChars (cs : List Char) : AllSettled (decomposeChars cs) := by
  intro d h
  rw [decomposeChars, mem_orderMarks] at h
  obtain ⟨c, -, hd⟩ := List.mem_flatMap.1 h
  exact ⟨c, hd⟩

/-- A text of settled characters in order is decomposed. -/
theorem decomposeChars_eq_self {cs : List Char} (h : AllSettled cs)
    (hordered : orderMarks cs = cs) : decomposeChars cs = cs := by
  rw [decomposeChars, h.flatMap_eq, hordered]

theorem decomposeChars_decomposeChars (cs : List Char) :
    decomposeChars (decomposeChars cs) = decomposeChars cs :=
  decomposeChars_eq_self (allSettled_decomposeChars cs) (orderMarks_orderMarks _)

theorem decomposed_decomposed (s : String) : decomposed (decomposed s) = decomposed s := by
  rw [decomposed, decomposed, String.toList_ofList, decomposeChars_decomposeChars]

/-- A composed text is canonically equivalent to the text it was made of. -/
theorem decomposed_composed (s : String) : decomposed (composed s) = decomposed s := by
  have hordered : Ordered (decomposeChars s.toList) := ordered_orderMarks _
  rw [decomposed, composed, String.toList_ofList,
    decomposeChars_composeAll (allSettled_decomposeChars s.toList) hordered, decomposed]

/-! ## Leaving out tone marks -/

/-- Whether a character is not a tone mark. -/
def isToneless (c : Char) : Bool := !toneMarks.contains c

theorem isToneless_eq_false_iff {c : Char} : isToneless c = false ↔ c ∈ toneMarks := by
  rw [isToneless, Bool.not_eq_false', List.contains_iff_mem]

theorem combiningClass_toneMarks : ∀ m ∈ toneMarks, combiningClass m ≠ 0 := by
  have hall : toneMarks.all (combiningClass · != 0) = true := by decide
  exact fun m hm => bne_iff_ne.1 (List.all_eq_true.1 hall m hm)

set_option maxRecDepth 1500 in
theorem canonicalExpansion_toneMarks : ∀ m ∈ toneMarks, canonicalExpansion m = [m] := by
  have hall : toneMarks.all (fun m => canonicalExpansion m == [m]) = true := by decide
  exact fun m hm => eq_of_beq (List.all_eq_true.1 hall m hm)

theorem passesStarters_isToneless : PassesStarters isToneless :=
  fun m hm => combiningClass_toneMarks m (isToneless_eq_false_iff.1 hm)

/-- A text without tones: tone marks are left out before the marks are ordered. -/
theorem toneless_eq (s : String) : toneless s =
    String.ofList (orderMarks ((s.toList.flatMap canonicalExpansion).filter isToneless)) := by
  rw [← filter_orderMarks passesStarters_isToneless]
  rfl

theorem decomposeChars_toneless (s : String) :
    decomposeChars (toneless s).toList = (toneless s).toList := by
  refine decomposeChars_eq_self ?_ ?_
  · rw [toneless, String.toList_ofList]
    exact (allSettled_decomposeChars s.toList).of_subset (List.filter_subset_self _)
  · rw [toneless_eq, String.toList_ofList, orderMarks_orderMarks]

/-- No tones are left to be left out. -/
theorem toneless_toneless (s : String) : toneless (toneless s) = toneless s := by
  have hfilter : (toneless s).toList.filter isToneless = (toneless s).toList := by
    rw [toneless, String.toList_ofList]
    exact List.filter_eq_self.2 fun c hc => (List.mem_filter.1 hc).2
  calc toneless (toneless s)
      = String.ofList ((decomposeChars (toneless s).toList).filter isToneless) := rfl
    _ = String.ofList (toneless s).toList := by rw [decomposeChars_toneless, hfilter]
    _ = toneless s := String.ofList_toList

theorem not_mem_toneMarks_of_mem_toneless {s : String} {c : Char} (hc : c ∈ (toneless s).toList) :
    c ∉ toneMarks := by
  rw [toneless, String.toList_ofList] at hc
  have htoneless : isToneless c = true := (List.mem_filter.1 hc).2
  rwa [isToneless, Bool.not_eq_true', ← Bool.not_eq_true, List.contains_iff_mem] at htoneless

/-- Canonically equivalent texts are the same without tones. -/
theorem toneless_congr {s t : String} (h : decomposed s = decomposed t) :
    toneless s = toneless t := by
  have hchars : decomposeChars s.toList = decomposeChars t.toList := String.ofList_injective h
  rw [toneless, toneless, hchars]

/-! ## Being alike up to tones -/

/-- A change of a text that tones do not tell. -/
inductive ToneChange : String → String → Prop
  /-- The texts are canonically equivalent. -/
  | equivalent {s t : String} (h : decomposed s = decomposed t) : ToneChange s t
  /-- A tone mark is left out. -/
  | leaveOut (before after : List Char) {m : Char} (hm : m ∈ toneMarks) :
      ToneChange (String.ofList (before ++ m :: after)) (String.ofList (before ++ after))

/-- One text becomes the other by changes, forth and back, that tones do not tell. -/
def ToneAlike : String → String → Prop := Relation.EqvGen ToneChange

theorem toneless_eq_of_toneChange {s t : String} (h : ToneChange s t) :
    toneless s = toneless t := by
  cases h with
  | equivalent h => exact toneless_congr h
  | @leaveOut before after m hm =>
      have hmark : (canonicalExpansion m).filter isToneless = [] := by
        rw [canonicalExpansion_toneMarks _ hm,
          List.filter_cons_of_neg (by simp [isToneless_eq_false_iff.2 hm]), List.filter_nil]
      rw [toneless_eq, toneless_eq, String.toList_ofList, String.toList_ofList,
        List.flatMap_append, List.flatMap_append, List.flatMap_cons, List.filter_append,
        List.filter_append, List.filter_append, hmark, List.nil_append]

/-- Tone marks may be left out of the rest of a text one by one. -/
theorem toneAlike_filter (before after : List Char) :
    ToneAlike (String.ofList (before ++ after))
      (String.ofList (before ++ after.filter isToneless)) := by
  induction after generalizing before with
  | nil => exact Relation.EqvGen.refl _
  | cons c after ih =>
      cases hc : isToneless c with
      | true =>
          rw [List.filter_cons_of_pos hc]
          simpa using ih (before ++ [c])
      | false =>
          rw [List.filter_cons_of_neg (by simp [hc])]
          refine (Relation.EqvGen.rel _ _ ?_).trans _ _ _ (ih before)
          exact .leaveOut before after (isToneless_eq_false_iff.1 hc)

/-- A text is like itself without tones. -/
theorem toneAlike_toneless (s : String) : ToneAlike s (toneless s) := by
  refine (Relation.EqvGen.rel _ _ ?_).trans _ (decomposed s) _ ?_
  · exact .equivalent (decomposed_decomposed s).symm
  · exact toneAlike_filter [] (decomposeChars s.toList)

/-- Texts are alike up to tones just if they are the same without tones. -/
theorem toneAlike_iff {s t : String} : ToneAlike s t ↔ toneless s = toneless t := by
  constructor
  · intro h
    induction h with
    | rel s t h => exact toneless_eq_of_toneChange h
    | refl s => rfl
    | symm s t _ ih => exact ih.symm
    | trans r s t _ _ ihrs ihst => exact ihrs.trans ihst
  · intro h
    refine (toneAlike_toneless s).trans _ _ _ ?_
    rw [h]
    exact (toneAlike_toneless t).symm

instance (s t : String) : Decidable (ToneAlike s t) := decidable_of_iff _ toneAlike_iff.symm

/-- **A text without tones is a normal form.** It has no tone marks, it is decomposed, and leaving
out tones a second time changes nothing. It is the same for all canonically equivalent texts, among
them the composed and the decomposed form, and the texts that share it are those that are alike up
to tones. -/
theorem toneless_normalForm (s : String) :
    (∀ c ∈ (toneless s).toList, c ∉ toneMarks) ∧
    decomposed (toneless s) = toneless s ∧
    toneless (toneless s) = toneless s ∧
    toneless (composed s) = toneless s ∧
    toneless (decomposed s) = toneless s ∧
    (∀ t, decomposed t = decomposed s → toneless t = toneless s) ∧
    (∀ t, toneless t = toneless s ↔ ToneAlike t s) := by
  refine ⟨fun c hc => not_mem_toneMarks_of_mem_toneless hc, ?_, toneless_toneless s, ?_, ?_,
    fun t h => toneless_congr h, fun t => toneAlike_iff.symm⟩
  · rw [decomposed, decomposeChars_toneless, String.ofList_toList]
  · exact toneless_congr (decomposed_composed s)
  · exact toneless_congr (decomposed_decomposed s)

/-- A word in three spellings: composed, decomposed, and without its tone. -/
example : ToneAlike "b\u00E1" "ba\u0301" ∧ ToneAlike "ba\u0301" "ba" ∧ ¬ ToneAlike "ba" "bo" := by
  decide +kernel

end Interlinear.Text
