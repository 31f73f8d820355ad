import Interlinear.Orthography.Converter
import Interlinear.Proofs.Text.Composition
import Interlinear.Proofs.Text.Lowering

set_option autoImplicit false

/-! # Control characters

Words are lowered, decomposed, composed and respelled before they are looked up. All of this puts
plain characters in the place of others, so a control character, such as a line feed, is in the
result only if it is in the word itself: it is in the lowered word (`control_mem_of_mem_lowered`),
and in every spelling that converters give (`Converter.control_mem_of_mem_spellings`). -/

namespace Interlinear

namespace Text

variable {x : Char}

/-! ## Decomposition and lowering -/

theorem control_mem_of_mem_decomposeCompatChars {cs : List Char} (hx : IsControl x)
    (h : x ∈ decomposeCompatChars cs) : x ∈ cs := by
  rw [decomposeCompatChars, mem_orderMarks] at h
  exact control_mem_of_mem_flatMap eq_or_isPlain_of_mem_compatCodes hx h

theorem eq_of_mem_lowerChar {c : Char} (hx : IsControl x) (h : x ∈ lowerChar c) : x = c := by
  by_cases hc : c = 'İ'
  · have hplain : (lowerChar 'İ').all (fun d => !decide (IsControl d)) = true := by decide
    rw [hc] at h
    have hnot := List.all_eq_true.1 hplain x h
    exact absurd hx (by simpa using hnot)
  · rw [lowerChar_eq hc, List.mem_singleton] at h
    rcases lowerCode_eq_or_mem c.toNat with heq | hmem
    · rwa [heq, Char.ofNat_toNat] at h
    · rw [h] at hx
      exact absurd hx (not_isControl_ofNat (isPlain_of_mem_lowerings hmem))

theorem control_mem_of_mem_lowerFrom {before cs : List Char} (hx : IsControl x)
    (h : x ∈ lowerFrom before cs) : x ∈ cs := by
  induction cs generalizing before with
  | nil => exact h
  | cons c cs ih =>
      rw [lowerFrom] at h
      rcases List.mem_append.1 h with h | h
      · split at h
        · -- Both small sigmas are plain.
          have hplain : ¬ IsControl 'ς' ∧ ¬ IsControl 'σ' := by decide
          split at h
          · rw [List.mem_singleton.1 h] at hx
            exact absurd hx hplain.1
          · rw [List.mem_singleton.1 h] at hx
            exact absurd hx hplain.2
        · rw [eq_of_mem_lowerChar hx h]
          exact List.mem_cons_self
      · exact List.mem_cons_of_mem c (ih h)

theorem control_mem_of_mem_lowered {s : String} (hx : IsControl x) (h : x ∈ (lowered s).toList) :
    x ∈ s.toList := by
  rw [lowered, String.toList_ofList] at h
  exact control_mem_of_mem_lowerFrom hx h

/-! ## Composition -/

/-- Two characters compose to a plain one. -/
theorem not_isControl_of_composePair? {a b c : Char} (h : composePair? a b = some c) :
    ¬ IsControl c := by
  obtain ⟨n, rfl, hplain, -⟩ := exists_of_composePair? h
  exact not_isControl_ofNat hplain

theorem control_mem_of_mem_composeOnto {starter : Char} {kept cs : List Char} (hx : IsControl x)
    (h : x ∈ composeOnto starter kept cs) : x = starter ∨ x ∈ kept ∨ x ∈ cs := by
  induction cs generalizing starter kept with
  | nil => simpa [composeOnto] using h
  | cons c cs ih =>
      rcases composeOnto_cons starter kept c cs with
        ⟨joined, -, hpair, heq⟩ | ⟨-, heq⟩ | ⟨-, heq⟩
      · rw [heq] at h
        rcases ih h with rfl | hkept | hcs
        · exact absurd hx (not_isControl_of_composePair? hpair)
        · exact .inr (.inl hkept)
        · exact .inr (.inr (List.mem_cons_of_mem c hcs))
      · simp only [heq, List.mem_cons, List.mem_append, List.mem_reverse] at h
        rcases h with rfl | hkept | h
        · exact .inl rfl
        · exact .inr (.inl hkept)
        · rcases ih h with rfl | hnil | hcs
          · exact .inr (.inr List.mem_cons_self)
          · cases hnil
          · exact .inr (.inr (List.mem_cons_of_mem c hcs))
      · rw [heq] at h
        rcases ih h with hstarter | hkept | hcs
        · exact .inl hstarter
        · rcases List.mem_cons.1 hkept with rfl | hkept
          · exact .inr (.inr List.mem_cons_self)
          · exact .inr (.inl hkept)
        · exact .inr (.inr (List.mem_cons_of_mem c hcs))

theorem control_mem_of_mem_composeAll {cs : List Char} (hx : IsControl x)
    (h : x ∈ composeAll cs) : x ∈ cs := by
  induction cs with
  | nil => exact h
  | cons c cs ih =>
      rw [composeAll] at h
      split at h
      · rcases control_mem_of_mem_composeOnto hx h with rfl | hnil | hcs
        · exact List.mem_cons_self
        · cases hnil
        · exact List.mem_cons_of_mem c hcs
      · rcases List.mem_cons.1 h with rfl | h
        · exact List.mem_cons_self
        · exact List.mem_cons_of_mem c (ih h)

theorem control_mem_of_mem_composedCompat {s : String} (hx : IsControl x)
    (h : x ∈ (composedCompat s).toList) : x ∈ s.toList := by
  rw [composedCompat, String.toList_ofList] at h
  exact control_mem_of_mem_decomposeCompatChars hx (control_mem_of_mem_composeAll hx h)

end Text

open Text

/-! ## Converters -/

namespace Maninka

/-- The graphemes of a text make up the text. -/
theorem flatten_graphemes (cs : List Char) : (graphemes cs).flatten = cs := by
  fun_induction graphemes cs with
  | case1 => rfl
  | case2 c => rfl
  | case3 a b rest hdigraph ih => rw [List.flatten_cons, ih]; rfl
  | case4 a b rest hdigraph ih => rw [List.flatten_cons, ih]; rfl

/-- The graphemes of the new orthography that are written in the place of others. -/
def newGraphemes : List (List Char) :=
  [['ɛ'], ['ɔ'], ['ɛ', 'ɛ'], ['ɔ', 'ɔ'], ['n', 'y'], ['ɲ'], ['j'], ['c']]

theorem eq_or_mem_newGraphemes {g spelling : List Char} (h : spelling ∈ respellings g) :
    spelling = g ∨ spelling ∈ newGraphemes := by
  unfold respellings at h
  split at h
  case h_8 => exact .inl (List.mem_singleton.1 h)
  all_goals
    simp only [List.mem_cons, List.not_mem_nil, or_false, newGraphemes] at h ⊢
    tauto

theorem control_mem_of_mem_respellings {x : Char} (hx : IsControl x) {g spelling : List Char}
    (hspelling : spelling ∈ respellings g) (h : x ∈ spelling) : x ∈ g := by
  have hplain : ∀ new ∈ newGraphemes, new.all (fun d => !decide (IsControl d)) = true := by decide
  rcases eq_or_mem_newGraphemes hspelling with rfl | hmem
  · exact h
  · have hnot := List.all_eq_true.1 (hplain spelling hmem) x h
    exact absurd hx (by simpa using hnot)

theorem control_mem_of_mem_spellings {x : Char} (hx : IsControl x) {cs spelling : List Char}
    (hspelling : spelling ∈ spellings cs) (h : x ∈ spelling) : x ∈ cs := by
  obtain ⟨parts, hparts, rfl⟩ := List.mem_map.1 hspelling
  obtain ⟨part, hpart, hx'⟩ := List.mem_flatten.1 h
  obtain ⟨news, hnews, hpart⟩ := mem_of_mem_choices hparts hpart
  obtain ⟨g, hg, rfl⟩ := List.mem_map.1 hnews
  rw [← flatten_graphemes cs]
  exact List.mem_flatten.2 ⟨g, hg, control_mem_of_mem_respellings hx hpart hx'⟩

theorem control_mem_of_mem_convert {x : Char} (hx : IsControl x) {word spelling : String}
    (hspelling : spelling ∈ convert word) (h : x ∈ spelling.toList) : x ∈ word.toList := by
  obtain ⟨cs, hcs, rfl⟩ := List.mem_map.1 hspelling
  rw [decomposed, String.toList_ofList, String.toList_ofList] at h
  have hmem := control_mem_of_mem_spellings hx hcs (control_mem_of_mem_decomposeChars hx h)
  exact control_mem_of_mem_composedCompat hx hmem

end Maninka

namespace Converter

/-- A converter brings in no control characters. -/
def Conservative (c : Converter) : Prop :=
  ∀ {x : Char} {word spelling : String}, IsControl x → spelling ∈ c.convert word →
    x ∈ spelling.toList → x ∈ word.toList

theorem conservative_of_named? {name : String} {c : Converter} (h : named? name = .ok c) :
    c.Conservative := by
  unfold named? at h
  split at h
  next c' hfind =>
    obtain rfl := Except.ok.inj h
    have hc : c' = maninkaOld := by
      have hmem := List.mem_of_find?_eq_some hfind
      rwa [all, List.mem_singleton] at hmem
    intro x word spelling hx hspelling hmem
    rw [hc, maninkaOld] at hspelling
    dsimp only at hspelling
    exact Maninka.control_mem_of_mem_convert hx hspelling hmem
  next => cases h

theorem control_mem_of_mem_applyTo {c : Converter} (hc : c.Conservative) {x : Char}
    (hx : IsControl x) {spellings : List String} {s : String} (hs : s ∈ c.applyTo spellings)
    (h : x ∈ s.toList) : ∃ t ∈ spellings, x ∈ t.toList := by
  obtain ⟨t, ht, hs⟩ := List.mem_flatMap.1 hs
  refine ⟨t, ht, ?_⟩
  dsimp only at hs
  split at hs
  · rwa [List.mem_singleton.1 hs] at h
  · exact hc hx hs h

/-- **Spellings bring in nothing.** No spelling of a word has a control character that the word does
not have. -/
theorem control_mem_of_mem_spellings {cs : List Converter} (hcs : ∀ c ∈ cs, c.Conservative)
    {x : Char} (hx : IsControl x) {word spelling : String} (hspelling : spelling ∈ spellings cs word)
    (h : x ∈ spelling.toList) : x ∈ word.toList := by
  -- Each converter is applied to spellings that have nothing new.
  have hall : ∀ s ∈ spellings cs word, x ∈ s.toList → x ∈ word.toList := by
    refine List.foldlRecOn
      (motive := fun found : List String => ∀ s ∈ found, x ∈ s.toList → x ∈ word.toList) _ _ ?_ ?_
    · intro s hs hmem
      rwa [List.mem_singleton.1 hs] at hmem
    · intro found hfound c hc s hs hmem
      obtain ⟨t, ht, hmem⟩ := control_mem_of_mem_applyTo (hcs c hc) hx hs hmem
      exact hfound t ht hmem
  exact hall spelling hspelling h

end Converter

end Interlinear
