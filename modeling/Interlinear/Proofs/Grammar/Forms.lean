import Interlinear.Grammar.Matcher
import Interlinear.Lists
import Interlinear.Proofs.Regex.Positions

set_option autoImplicit false

/-! # The forms of what a pattern makes

A pattern changes tags and meanings, and it takes forms apart; it does not make up any text. The
form of a candidate stays what it is, and the forms of its morphemes are pieces of it, or what they
were before (`CompiledPattern.formsWithin_of_result?`). -/

namespace Interlinear

namespace Gloss

/-- The form of a gloss and those of its morphemes. -/
def forms (g : Gloss) : List String := g.form :: g.morphemes.map (·.form)

/-- The forms of a gloss are written with the characters of the forms of another. -/
def FormsWithin (g h : Gloss) : Prop := ∀ s ∈ g.forms, ∃ t ∈ h.forms, s.toList ⊆ t.toList

theorem formsWithin_of_forms_eq {g h : Gloss} (heq : g.forms = h.forms) : g.FormsWithin h := by
  intro s hs
  rw [heq] at hs
  exact ⟨s, hs, List.Subset.refl _⟩

theorem forms_withMorphemes (g : Gloss) (ms : List Gloss) :
    (g.withMorphemes ms).forms = g.form :: ms.map (·.form) := rfl

/-! ## Marks -/

theorem form_overlay (g m : Gloss) : (g.overlay m).form = g.form := by
  obtain ⟨form, tags, meaning, morphemes⟩ := g
  rw [overlay]

theorem map_form_overlayAll (gs ms : List Gloss) :
    (overlayAll gs ms).map (·.form) = gs.map (·.form) := by
  induction gs generalizing ms with
  | nil => cases ms <;> rfl
  | cons g gs ih =>
      cases ms with
      | nil => rfl
      | cons m ms => rw [overlayAll, List.map_cons, List.map_cons, form_overlay, ih]

/-- Marks do not change forms. -/
theorem forms_overlay (g m : Gloss) : (g.overlay m).forms = g.forms := by
  obtain ⟨form, tags, meaning, morphemes⟩ := g
  rw [overlay, forms, forms]
  show form :: (if m.morphemes.length = morphemes.length then overlayAll morphemes m.morphemes
    else morphemes).map (·.form) = form :: morphemes.map (·.form)
  split
  · rw [map_form_overlayAll]
  · rfl

/-! ## Unification -/

theorem unifyText?_empty (s : String) : unifyText? s "" = some s := by
  rw [unifyText?]
  split
  next h => rw [String.isEmpty_iff.1 h]
  next => exact if_pos rfl

theorem unifyText?_self (s : String) : unifyText? s s = some s := by
  rw [unifyText?]
  split
  · rfl
  · exact if_pos rfl

/-- A gloss unified with one that has no other form and no morphemes keeps its form and its
morphemes. -/
theorem forms_of_unify? {g other h : Gloss} (hform : other.form = "" ∨ other.form = g.form)
    (hmorphemes : other.morphemes = []) (hu : g.unify? other = some h) : h.forms = g.forms := by
  obtain ⟨form, tags, meaning, morphemes⟩ := g
  have htext : unifyText? form other.form = some form := by
    rcases hform with hform | hform
    · rw [hform, unifyText?_empty]
    · rw [hform, unifyText?_self]
  have hsame : (if morphemes.isEmpty then some other.morphemes
      else if other.morphemes.isEmpty then some morphemes
      else unifyAll? morphemes other.morphemes) = some morphemes := by
    rw [hmorphemes]
    split
    next hnil => rw [List.isEmpty_iff.1 hnil]
    next => rfl
  rw [unify?, htext, Option.bind_eq_bind, Option.bind_some] at hu
  obtain ⟨meaning', -, hu⟩ := Option.bind_eq_some_iff.1 hu
  obtain ⟨tags', -, hu⟩ := Option.bind_eq_some_iff.1 hu
  rw [hsame] at hu
  obtain rfl := Option.some.inj hu
  rfl

end Gloss

namespace CompiledPattern

/-! ## Candidates narrowed down -/

theorem forms_of_restrict? {p : CompiledPattern} {g h : Gloss} (hr : p.restrict? g = some h) :
    h.forms = g.forms := by
  rw [restrict?] at hr
  obtain ⟨m, -, hr⟩ := Option.bind_eq_some_iff.1 hr
  split at hr
  · exact Gloss.forms_of_unify? (Or.inl rfl) rfl hr
  · contradiction

theorem forms_marked (p : CompiledPattern) (g : Gloss) : (p.marked g).forms = g.forms :=
  g.forms_overlay p.pattern.mark

/-! ## Morphemes -/

theorem form_of_morpheme? {p : CompiledPattern} {i : Nat} {piece : String} {m : Gloss}
    (h : p.morpheme? i piece = some m) : m.form = piece ∧ m.morphemes = [] := by
  rw [morpheme?] at h
  obtain ⟨matcher, -, h⟩ := Option.bind_eq_some_iff.1 h
  obtain ⟨template, -, h⟩ := Option.bind_eq_some_iff.1 h
  obtain ⟨r, -, h⟩ := Option.bind_eq_some_iff.1 h
  split at h
  · obtain rfl := Option.some.inj h
    exact ⟨rfl, rfl⟩
  · contradiction

/-- The morphemes made of pieces have the pieces as their forms. -/
theorem map_form_of_morphemes? {p : CompiledPattern} {pieces : List String} {ms : List Gloss}
    (h : p.morphemes? pieces = some ms) : ms.map (·.form) = pieces := by
  have hmap := List.map_eq_of_mapIdx_mapM_id h (p := id) (q := (·.form)) fun _ _ _ hm =>
    (form_of_morpheme? hm).1
  rwa [List.map_id] at hmap

theorem map_form_of_presplit? {p : CompiledPattern} {ms ms' : List Gloss}
    (h : p.presplit? ms = some ms') : ms'.map (·.form) = ms.map (·.form) := by
  refine List.map_eq_of_mapIdx_mapM_id h fun i m m' hm => ?_
  obtain ⟨piece, hpiece, hu⟩ := Option.bind_eq_some_iff.1 hm
  obtain ⟨hform, hnil⟩ := form_of_morpheme? hpiece
  exact (List.cons.inj (Gloss.forms_of_unify? (Or.inr hform) hnil hu)).1

/-- The pieces that a pattern cuts a form into are written with its characters. -/
theorem subset_of_mem_pieces? {p : CompiledPattern} {split : Regex} {form : String}
    {pieces : List String} (h : p.pieces? split form = some pieces) :
    ∀ piece ∈ pieces, piece.toList ⊆ form.toList := by
  rw [pieces?] at h
  obtain ⟨found, hfound, h⟩ := Option.bind_eq_some_iff.1 h
  intro piece hpiece
  have hsome : some piece ∈ pieces.map some := List.mem_map_of_mem hpiece
  rw [← List.mapM_eq_some_iff.1 h] at hsome
  obtain ⟨i, -, hi⟩ := List.mem_map.1 hsome
  obtain ⟨group, hgroup, rfl⟩ := Option.map_eq_some_iff.1 hi
  obtain ⟨g, hg, rfl⟩ := Option.map_eq_some_iff.1 hgroup
  rw [String.toList_ofList]
  exact (Regex.within_of_find? hfound).2 g (List.mem_of_find?_eq_some hg)

/-! ## Results -/

/-- **A pattern makes up no text.** The forms of its result are written with the characters of the
forms of the candidate. -/
theorem formsWithin_of_result? {p : CompiledPattern} {g r : Gloss} (h : p.result? g = some r) :
    r.FormsWithin g := by
  rw [result?] at h
  obtain ⟨m, -, h⟩ := Option.bind_eq_some_iff.1 h
  obtain ⟨narrowed, hnarrowed, h⟩ := Option.bind_eq_some_iff.1 h
  have hforms := forms_of_restrict? hnarrowed
  have hform : narrowed.form = g.form := (List.cons.inj hforms).1
  split at h
  · obtain rfl := Option.some.inj h
    refine Gloss.formsWithin_of_forms_eq ?_
    rw [forms_marked, hforms]
  next split hsplit =>
    split at h
    · obtain ⟨pieces, hpieces, h⟩ := Option.bind_eq_some_iff.1 h
      obtain ⟨ms, hms, h⟩ := Option.bind_eq_some_iff.1 h
      obtain rfl := Option.some.inj h
      intro s hs
      refine ⟨g.form, List.mem_cons_self, ?_⟩
      rw [forms_marked, Gloss.forms_withMorphemes, map_form_of_morphemes? hms, hform] at hs
      rcases List.mem_cons.1 hs with rfl | hs
      · exact List.Subset.refl _
      · exact subset_of_mem_pieces? hpieces s hs
    · split at h
      · obtain ⟨ms, hms, h⟩ := Option.bind_eq_some_iff.1 h
        obtain rfl := Option.some.inj h
        refine Gloss.formsWithin_of_forms_eq ?_
        rw [forms_marked, Gloss.forms_withMorphemes, map_form_of_presplit? hms, hform]
        rfl
      · contradiction

end CompiledPattern

end Interlinear
