import Interlinear.Gloss.Print

set_option autoImplicit false

/-! # Glosses on one line

A gloss is printed on one line if its texts, and those of its morphemes, are on one line
(`Gloss.OneLine.text`). -/

namespace Interlinear

/-! ## Texts on one line -/

/-- A text is on one line. -/
def Text.OneLine (s : String) : Prop := '\n' ∉ s.toList

namespace Text

instance (s : String) : Decidable (OneLine s) := inferInstanceAs (Decidable (_ ∉ _))

theorem oneLine_append {s t : String} : OneLine (s ++ t) ↔ OneLine s ∧ OneLine t := by
  rw [OneLine, String.toList_append, List.mem_append, not_or]
  rfl

theorem oneLine_intercalate {sep : String} (hsep : OneLine sep) {l : List String}
    (h : ∀ s ∈ l, OneLine s) : OneLine (String.intercalate sep l) := by
  induction l with
  | nil =>
      rw [String.intercalate_nil]
      decide
  | cons s l ih =>
      obtain ⟨hs, hl⟩ := List.forall_mem_cons.1 h
      cases l with
      | nil => rwa [String.intercalate_singleton]
      | cons t l =>
          rw [String.intercalate_cons_cons, oneLine_append, oneLine_append]
          exact ⟨⟨hs, hsep⟩, ih hl⟩

end Text

open Text

/-! ## Glosses on one line -/

/-- All texts of a gloss and of its morphemes are on one line. -/
inductive Gloss.OneLine : Gloss → Prop where
  | mk {form : String} {tags : TagSet} {meaning : String} {morphemes : List Gloss}
      (hform : Text.OneLine form) (htags : ∀ tag ∈ tags.toList, Text.OneLine tag)
      (hmeaning : Text.OneLine meaning) (hmorphemes : ∀ m ∈ morphemes, OneLine m) :
      OneLine ⟨form, tags, meaning, morphemes⟩

namespace Gloss

theorem texts_eq_map (gs : List Gloss) : texts gs = gs.map text := by
  induction gs with
  | nil => rfl
  | cons g gs ih => rw [texts, ih, List.map_cons]

theorem oneLine_heading {form meaning : String} {tags : TagSet} (hform : Text.OneLine form)
    (htags : ∀ tag ∈ tags.toList, Text.OneLine tag) (hmeaning : Text.OneLine meaning) :
    Text.OneLine (heading form tags meaning) := by
  have hsep : Text.OneLine "/" ∧ Text.OneLine ":" := by decide
  simp only [heading, oneLine_append]
  exact ⟨⟨⟨⟨hform, hsep.2⟩, oneLine_intercalate hsep.1 htags⟩, hsep.2⟩, hmeaning⟩

/-- A gloss that is on one line is printed on one line. -/
theorem OneLine.text {g : Gloss} (h : g.OneLine) : Text.OneLine g.text := by
  induction h with
  | @mk form tags meaning morphemes hform htags hmeaning _ ih =>
      have hheading := oneLine_heading hform htags hmeaning
      have hbrackets : Text.OneLine " [" ∧ Text.OneLine " " ∧ Text.OneLine "]" := by decide
      rw [Gloss.text]
      split
      · exact hheading
      · simp only [texts_eq_map, oneLine_append]
        refine ⟨⟨⟨hheading, hbrackets.1⟩, ?_⟩, hbrackets.2.2⟩
        exact oneLine_intercalate hbrackets.2.1 (List.forall_mem_map.2 ih)

theorem OneLine.ofForm {form : String} (h : Text.OneLine form) : (ofForm form).OneLine :=
  .mk h (by simp [TagSet.empty]) (by decide) (by simp)

theorem OneLine.withMorphemes {g : Gloss} (h : g.OneLine) {morphemes : List Gloss}
    (hmorphemes : ∀ m ∈ morphemes, m.OneLine) : (g.withMorphemes morphemes).OneLine := by
  cases h with
  | mk hform htags hmeaning _ => exact .mk hform htags hmeaning hmorphemes

theorem OneLine.of_mem_morphemes {g m : Gloss} (h : g.OneLine) (hm : m ∈ g.morphemes) :
    m.OneLine := by
  cases h with
  | mk _ _ _ hmorphemes => exact hmorphemes m hm

end Gloss

end Interlinear
