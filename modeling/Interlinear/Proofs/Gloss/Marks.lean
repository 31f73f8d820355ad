import Interlinear.Proofs.Gloss.Resolution

set_option autoImplicit false

/-! # Marks at every level

The glosses that a gloss is nested of are told by their places (`Gloss.part?`). A mark reaches a
place if it has as many morphemes as the gloss at each level above (`Gloss.markAt?`). There it
writes its tags and its meaning. Nowhere does it change the form or the number of morphemes, or make
a resolved gloss an unresolved one (`Gloss.Marked`). What is written a second time is there already
(`Gloss.overlay_marks_every_level`). -/

namespace Interlinear.Gloss

/-! ## Writing a mark -/

/-- The morphemes of a gloss after marks were written over them: marks count only if there are as
many. -/
def overlayMorphemes (gs ms : List Gloss) : List Gloss :=
  if ms.length = gs.length then overlayAll gs ms else gs

theorem overlay_eq (g m : Gloss) :
    g.overlay m = ⟨g.form, if m.tags.isEmpty then g.tags else m.tags,
      if m.meaning.isEmpty then g.meaning else m.meaning,
      overlayMorphemes g.morphemes m.morphemes⟩ := by
  obtain ⟨form, tags, meaning, morphemes⟩ := g
  rw [overlay, overlayMorphemes]

theorem overlayAll_eq_zipWith {gs ms : List Gloss} (h : ms.length = gs.length) :
    overlayAll gs ms = List.zipWith overlay gs ms := by
  induction gs generalizing ms with
  | nil => cases ms <;> rfl
  | cons g gs ih =>
      cases ms with
      | nil => cases h
      | cons m ms => rw [overlayAll, List.zipWith_cons_cons, ih (Nat.succ.inj h)]

theorem length_overlayMorphemes (gs ms : List Gloss) :
    (overlayMorphemes gs ms).length = gs.length := by
  rw [overlayMorphemes]
  split
  · exact length_overlayAll gs ms
  · rfl

theorem overlayMorphemes_again {gs ms : List Gloss}
    (h : overlayAll (overlayAll gs ms) ms = overlayAll gs ms) :
    overlayMorphemes (overlayMorphemes gs ms) ms = overlayMorphemes gs ms := by
  by_cases hlen : ms.length = gs.length
  · rw [overlayMorphemes, length_overlayMorphemes, if_pos hlen, overlayMorphemes, if_pos hlen, h]
  · rw [overlayMorphemes, length_overlayMorphemes, if_neg hlen]

mutual

/-- Marks that are written twice are written once. -/
theorem overlay_overlay : (g m : Gloss) → (g.overlay m).overlay m = g.overlay m
  | ⟨form, tags, meaning, morphemes⟩, m => by
      rw [overlay_eq _ m, overlay_eq _ m,
        overlayMorphemes_again (overlayAll_overlayAll morphemes m.morphemes)]
      split <;> split <;> rfl

theorem overlayAll_overlayAll : (gs ms : List Gloss) →
    overlayAll (overlayAll gs ms) ms = overlayAll gs ms
  | [], [] | [], _ :: _ | _ :: _, [] => rfl
  | g :: gs, m :: ms => by
      rw [overlayAll, overlayAll, overlay_overlay g m, overlayAll_overlayAll gs ms]

end

/-! ## Places -/

/-- The gloss at a place: the number of a morpheme, that of one of its morphemes, and so on. -/
def part? (g : Gloss) : List Nat → Option Gloss
  | [] => some g
  | i :: place => g.morphemes[i]?.bind (·.part? place)

/-- The part of a mark that reaches a place of a gloss. -/
def markAt? (g mark : Gloss) : List Nat → Option Gloss
  | [] => some mark
  | i :: place =>
    if mark.morphemes.length = g.morphemes.length then
      g.morphemes[i]?.bind fun part => mark.morphemes[i]?.bind fun m => part.markAt? m place
    else none

/-! ## What a mark keeps -/

/-- What has become of a gloss over which a mark was written. -/
structure Marked (mark before after : Gloss) : Prop where
  form : after.form = before.form
  length : after.morphemes.length = before.morphemes.length
  tags : after.tags = if mark.tags.isEmpty then before.tags else mark.tags
  meaning : after.meaning = if mark.meaning.isEmpty then before.meaning else mark.meaning
  resolved : before.isResolved = true → after.isResolved = true

/-- The empty mark changes nothing. -/
theorem marked_empty (g : Gloss) : Marked empty g g where
  form := rfl
  length := rfl
  tags := rfl
  meaning := rfl
  resolved := id

theorem marked_overlay (g mark : Gloss) : Marked mark g (g.overlay mark) where
  form := by rw [overlay_eq]
  length := length_morphemes_overlay g mark
  tags := by rw [overlay_eq]
  meaning := by rw [overlay_eq]
  resolved := isResolved_overlay g mark

/-- A gloss has the same places after it is marked, and what stands at one of them is marked by the
part of the mark that reaches it. -/
theorem marked_part? (g mark : Gloss) (place : List Nat) :
    Option.Rel (Marked ((g.markAt? mark place).getD empty)) (g.part? place)
      ((g.overlay mark).part? place) := by
  induction place generalizing g mark with
  | nil => exact .some (marked_overlay g mark)
  | cons i place ih =>
      have hmorphemes : (g.overlay mark).morphemes
          = overlayMorphemes g.morphemes mark.morphemes := by rw [overlay_eq]
      rw [part?, part?, markAt?, hmorphemes, overlayMorphemes]
      by_cases hlen : mark.morphemes.length = g.morphemes.length
      · rw [if_pos hlen, if_pos hlen, overlayAll_eq_zipWith hlen, List.getElem?_zipWith]
        cases hpart : g.morphemes[i]? with
        | none => exact .none
        | some part =>
            obtain ⟨hi, -⟩ := List.getElem?_eq_some_iff.1 hpart
            obtain ⟨m, hm⟩ : ∃ m, mark.morphemes[i]? = some m :=
              ⟨_, List.getElem?_eq_getElem (by omega)⟩
            rw [hm]
            exact ih part m
      · -- The mark does not reach the morphemes, so all that is below stays as it is.
        rw [if_neg hlen, if_neg hlen]
        cases g.morphemes[i]?.bind (·.part? place) with
        | none => exact .none
        | some part => exact .some (marked_empty part)

/-- **Marks keep what they do not write, at every level.** After it is marked, a gloss has the
places that it had before. At each of them the form and the number of morphemes are the same, the
tags and the meaning are those of the part of the mark that reaches the place, where it has any, and
what was resolved is resolved. To write the mark a second time changes nothing. -/
theorem overlay_marks_every_level (g mark : Gloss) :
    (∀ place, Option.Rel (Marked ((g.markAt? mark place).getD empty)) (g.part? place)
      ((g.overlay mark).part? place)) ∧
    (g.overlay mark).overlay mark = g.overlay mark :=
  ⟨marked_part? g mark, overlay_overlay g mark⟩

/-- The ending of a plural gets its tag and its meaning, and the stem stays unresolved. -/
example : overlay ⟨"kanw", .ofList ["n"], "", [.ofForm "kan", .ofForm "w"]⟩
      ⟨"", .ofList ["n"], "", [.ofForm "", ⟨"", .ofList ["mrph"], "PL", []⟩]⟩
    = ⟨"kanw", .ofList ["n"], "", [.ofForm "kan", ⟨"w", .ofList ["mrph"], "PL", []⟩]⟩ := by
  decide

end Interlinear.Gloss
