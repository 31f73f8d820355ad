import Interlinear.Gloss.Basic

set_option autoImplicit false

/-! # Marks and resolution

A mark may give a gloss another meaning, but it takes none away, and it neither adds nor removes
morphemes. So what is resolved stays resolved (`Gloss.isResolved_overlay`). The proof follows the
nesting of morphemes, as the two definitions do. -/

namespace Interlinear.Gloss

theorem isResolved_ofForm (form : String) : (ofForm form).isResolved = false := by
  simp [ofForm, isResolved]

theorem isResolved_cons (form : String) (tags : TagSet) (meaning : String) (m : Gloss)
    (ms : List Gloss) : isResolved ⟨form, tags, meaning, m :: ms⟩ = allResolved (m :: ms) := by
  rw [isResolved]
  rfl

theorem withMorphemes_self (g : Gloss) : g.withMorphemes g.morphemes = g := by
  cases g
  rfl

theorem isResolved_withMorphemes (g : Gloss) {ms : List Gloss} (h : ms ≠ []) :
    (g.withMorphemes ms).isResolved = ms.all isResolved := by
  rw [isResolved_eq]
  simp [withMorphemes, h]

theorem length_overlayAll (gs ms : List Gloss) : (overlayAll gs ms).length = gs.length := by
  induction gs generalizing ms with
  | nil => cases ms <;> rfl
  | cons g gs ih =>
      cases ms with
      | nil => rfl
      | cons m ms => rw [overlayAll, List.length_cons, List.length_cons, ih]

theorem length_morphemes_overlay (g m : Gloss) :
    (g.overlay m).morphemes.length = g.morphemes.length := by
  obtain ⟨form, tags, meaning, morphemes⟩ := g
  by_cases h : m.morphemes.length = morphemes.length
  · simp [overlay, h, length_overlayAll]
  · simp [overlay, h]

mutual

theorem isResolved_overlay : (g m : Gloss) → g.isResolved = true → (g.overlay m).isResolved = true
  | ⟨_, _, meaning, []⟩, m, h => by
      -- The meaning may be written over, but by none that is empty.
      have hmeaning : meaning ≠ "" := by simpa [isResolved] using h
      by_cases hm : m.meaning = ""
      · simp [overlay, overlayAll, isResolved, hm, hmeaning]
      · simp [overlay, overlayAll, isResolved, hm]
  | ⟨form, tags, meaning, d :: ds⟩, m, h => by
      rw [isResolved_cons] at h
      rw [overlay]
      by_cases hlen : m.morphemes.length = (d :: ds).length
      · have hmarked := allResolved_overlayAll (d :: ds) m.morphemes h
        rw [if_pos hlen]
        cases hms : m.morphemes with
        | nil => simp [hms] at hlen
        | cons e es =>
            rw [hms, overlayAll] at hmarked
            rw [overlayAll, isResolved_cons]
            exact hmarked
      · rw [if_neg hlen, isResolved_cons]
        exact h

theorem allResolved_overlayAll : (gs ms : List Gloss) → allResolved gs = true →
    allResolved (overlayAll gs ms) = true
  | [], [], _ | [], _ :: _, _ => rfl
  | _ :: _, [], h => h
  | g :: gs, m :: ms, h => by
      obtain ⟨hg, hgs⟩ := Bool.and_eq_true_iff.1 h
      exact Bool.and_eq_true_iff.2 ⟨isResolved_overlay g m hg, allResolved_overlayAll gs ms hgs⟩

end

end Interlinear.Gloss
