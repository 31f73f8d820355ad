import Interlinear.Proofs.Gloss.Unification

set_option autoImplicit false

/-! # Templates and unification

A template is satisfied by asking, and two glosses are unified by merging. The first treats the two
glosses differently, the second does not. They meet where the merged gloss is nested like the gloss
itself and has its forms (`Gloss.formTree`): a template may add tags and a meaning, but no form and
no morphemes.

Forms and morphemes are unified by the scheme of what is given (`whereGiven`). So one lemma tells
for both when a template adds nothing (`whereGiven_keeps_iff`). -/

namespace Interlinear

/-! ## Agreement that adds nothing -/

section WhereGiven

variable {α β : Type} {isEmpty : α → Bool} {agree? : α → α → Option α} {a b : α} {f : α → β}

theorem isSome_whereGiven :
    (whereGiven isEmpty agree? a b).isSome = (isEmpty b || isEmpty a || (agree? a b).isSome) := by
  by_cases ha : isEmpty a = true
  · rw [whereGiven_of_isEmpty ha]
    simp [ha]
  · by_cases hb : isEmpty b = true
    · simp [whereGiven, ha, hb]
    · simp [whereGiven, ha, hb]

/-- What is agreed on looks like the first value just if the second value is empty or given values
agree on something that looks like it. The look `f` has to tell what is empty. -/
theorem whereGiven_keeps_iff (hone : ∀ x y, isEmpty x = true → isEmpty y = true → x = y)
    (hgiven : ∀ x y z, agree? x y = some z → isEmpty x = false → isEmpty z = false)
    (hcomm : ∀ x y, agree? x y = agree? y x)
    (hlook : ∀ x y, isEmpty x = true → f y = f x → isEmpty y = true) :
    (∃ r, whereGiven isEmpty agree? a b = some r ∧ f r = f a) ↔
      isEmpty b = true ∨ ∃ r, agree? a b = some r ∧ f r = f a := by
  cases ha : isEmpty a with
  | true =>
      rw [whereGiven_of_isEmpty ha]
      constructor
      · rintro ⟨r, hr, hfr⟩
        obtain rfl := Option.some.inj hr
        exact Or.inl (hlook a b ha hfr)
      · intro h
        have hb : isEmpty b = true := by
          rcases h with hb | ⟨r, hr, hfr⟩
          · exact hb
          · -- If the second value were given, so would be what is agreed on.
            rw [hcomm] at hr
            cases hb : isEmpty b with
            | true => rfl
            | false =>
                have hrgiven := hgiven b a r hr hb
                rw [hlook a r ha hfr] at hrgiven
                exact Bool.noConfusion hrgiven
        exact ⟨b, rfl, congrArg f (hone b a hb ha)⟩
  | false =>
      cases hb : isEmpty b with
      | true =>
          have hkept : whereGiven isEmpty agree? a b = some a := whereGiven_empty hone hb
          exact ⟨fun _ => Or.inl rfl, fun _ => ⟨a, hkept, rfl⟩⟩
      | false =>
          rw [whereGiven_of_given ha hb]
          exact ⟨Or.inr, fun h => h.resolve_left Bool.false_ne_true⟩

end WhereGiven

/-! ## Tags -/

theorem TagSet.isSome_unify? (s t : TagSet) : (s.unify? t).isSome = s.compatible t := by
  have hshared : (shared? s t).isSome = s.toList.any t.contains := by
    show (if (s.inter t).isEmpty then none else some (s.inter t)).isSome = _
    have hinter : (s.inter t).isEmpty = !s.toList.any t.contains := by
      show (s.toList.filter t.contains).isEmpty = _
      rw [Bool.eq_iff_iff]
      simp [List.filter_eq_nil_iff]
    rw [hinter]
    cases s.toList.any t.contains with
    | true => rfl
    | false => rfl
  rw [unify?_eq_whereGiven, isSome_whereGiven, hshared, compatible, Bool.or_comm t.isEmpty]

/-! ## Nested forms -/

/-- Forms, nested as words and their morphemes are. -/
inductive FormTree where
  | node (form : String) (parts : List FormTree)

namespace Gloss

mutual

/-- The form of a gloss and the trees of its morphemes. -/
def formTree : Gloss → FormTree
  | ⟨form, _, _, morphemes⟩ => .node form (formTrees morphemes)

/-- The trees of the glosses of a list. -/
def formTrees : List Gloss → List FormTree
  | [] => []
  | g :: gs => g.formTree :: formTrees gs

end

theorem formTree_eq_iff {g h : Gloss} :
    g.formTree = h.formTree ↔ g.form = h.form ∧ formTrees g.morphemes = formTrees h.morphemes := by
  obtain ⟨form, tags, meaning, morphemes⟩ := g
  obtain ⟨form', tags', meaning', morphemes'⟩ := h
  rw [formTree, formTree, FormTree.node.injEq]

theorem formTrees_cons_eq_iff {g h : Gloss} {gs hs : List Gloss} :
    formTrees (g :: gs) = formTrees (h :: hs) ↔
      g.formTree = h.formTree ∧ formTrees gs = formTrees hs := by
  rw [formTrees, formTrees, List.cons.injEq]

/-- A list of morphemes is empty if its trees are those of an empty list. -/
theorem isEmpty_of_formTrees_eq (gs hs : List Gloss) (hgs : gs.isEmpty = true)
    (h : formTrees hs = formTrees gs) : hs.isEmpty = true := by
  obtain rfl := List.isEmpty_iff.1 hgs
  cases hs with
  | nil => rfl
  | cons g hs => simp [formTrees] at h

/-- What holds of a gloss whenever it holds of its morphemes holds of every gloss. -/
@[elab_as_elim]
theorem morphemeInduction {motive : Gloss → Prop}
    (node : ∀ g : Gloss, (∀ m ∈ g.morphemes, motive m) → motive g) (g : Gloss) : motive g :=
  node g fun m _hm => morphemeInduction node m
termination_by sizeOf g
decreasing_by
  obtain ⟨form, tags, meaning, morphemes⟩ := g
  have hlt : sizeOf m < sizeOf morphemes := List.sizeOf_lt_of_mem _hm
  rw [Gloss.mk.sizeOf_spec]
  omega

/-! ## Satisfying a template -/

/-- A template keeps a form if it has none, or the same one. -/
theorem unifyText?_keeps_iff {a b : String} :
    (∃ s, unifyText? a b = some s ∧ s = a) ↔ (b.isEmpty || a == b) = true := by
  have hlook : ∀ x y : String, x.isEmpty = true → id y = id x → y.isEmpty = true := by
    rintro x y hx rfl
    exact hx
  have hsame : (∃ s, sameText? a b = some s ∧ s = a) ↔ a = b := by
    simp [sameText?]
  rw [unifyText?_eq_whereGiven]
  refine (whereGiven_keeps_iff text_eq_of_isEmpty given_of_sameText? sameText?_comm hlook).trans ?_
  rw [Bool.or_eq_true, beq_iff_eq]
  exact or_congr_right hsame

theorem isSome_unifyText? (a b : String) :
    (unifyText? a b).isSome = (b.isEmpty || a.isEmpty || a == b) := by
  have hsame : (sameText? a b).isSome = (a == b) := by
    by_cases h : a = b <;> simp [sameText?, h]
  rw [unifyText?_eq_whereGiven, isSome_whereGiven, hsame]

/-- A template can be unified so that the nested forms are kept just if its form and its morphemes
are kept, and its tags and its meaning do not contradict. -/
theorem unify?_keeps_iff {a t : Gloss} :
    (∃ g, a.unify? t = some g ∧ g.formTree = a.formTree) ↔
      (∃ s, unifyText? a.form t.form = some s ∧ s = a.form) ∧
        (unifyText? a.meaning t.meaning).isSome ∧ (a.tags.unify? t.tags).isSome ∧
          ∃ ms, unifyMorphemes? a.morphemes t.morphemes = some ms ∧
            formTrees ms = formTrees a.morphemes := by
  constructor
  · rintro ⟨g, hg, htree⟩
    obtain ⟨hform, hmeaning, htags, hmorphemes⟩ := unify?_eq_some_iff.1 hg
    obtain ⟨hsame, htrees⟩ := formTree_eq_iff.1 htree
    exact ⟨⟨_, hform, hsame⟩, Option.isSome_of_eq_some hmeaning, Option.isSome_of_eq_some htags,
      _, hmorphemes, htrees⟩
  · rintro ⟨⟨form, hform, hsame⟩, hmeaning, htags, ms, hmorphemes, htrees⟩
    obtain ⟨meaning, hmeaning⟩ := Option.isSome_iff_exists.1 hmeaning
    obtain ⟨tags, htags⟩ := Option.isSome_iff_exists.1 htags
    exact ⟨⟨form, tags, meaning, ms⟩, unify?_eq_some_iff.2 ⟨hform, hmeaning, htags, hmorphemes⟩,
      formTree_eq_iff.2 ⟨hsame, htrees⟩⟩

/-- Lists of morphemes satisfy lists of templates as their members do. -/
theorem allSatisfy_iff {as ts : List Gloss}
    (h : ∀ a ∈ as, ∀ t : Gloss, a.satisfies t = true ↔
      ∃ g, a.unify? t = some g ∧ g.formTree = a.formTree) :
    allSatisfy as ts = true ↔ ∃ gs, unifyAll? as ts = some gs ∧ formTrees gs = formTrees as := by
  induction as generalizing ts with
  | nil =>
      cases ts with
      | nil => exact ⟨fun _ => ⟨[], rfl, rfl⟩, fun _ => rfl⟩
      | cons t ts => simp [allSatisfy, unifyAll?]
  | cons a as ih =>
      obtain ⟨ha, has⟩ := List.forall_mem_cons.1 h
      cases ts with
      | nil => simp [allSatisfy, unifyAll?]
      | cons t ts =>
          rw [allSatisfy, Bool.and_eq_true, ha t, ih has]
          constructor
          · rintro ⟨⟨g, hg, htree⟩, gs, hgs, htrees⟩
            exact ⟨g :: gs, unifyAll?_cons_eq_some_iff.2 ⟨g, gs, hg, hgs, rfl⟩,
              formTrees_cons_eq_iff.2 ⟨htree, htrees⟩⟩
          · rintro ⟨r, hr, htrees⟩
            obtain ⟨g, gs, hg, hgs, rfl⟩ := unifyAll?_cons_eq_some_iff.1 hr
            obtain ⟨htree, htrees⟩ := formTrees_cons_eq_iff.1 htrees
            exact ⟨⟨g, hg, htree⟩, gs, hgs, htrees⟩

/-- **Satisfying a template is unification that adds no forms.** A gloss satisfies a template just
if the two can be unified and the result has the forms of the gloss, and as many morphemes, at every
level. -/
theorem satisfies_iff_unify?_keeps_formTree (a t : Gloss) :
    a.satisfies t = true ↔ ∃ g, a.unify? t = some g ∧ g.formTree = a.formTree := by
  induction a using morphemeInduction generalizing t with
  | node a ih =>
      obtain ⟨form, tags, meaning, morphemes⟩ := a
      have hmorphemes : (∃ ms, unifyMorphemes? morphemes t.morphemes = some ms ∧
            formTrees ms = formTrees morphemes) ↔
          (t.morphemes.isEmpty || allSatisfy morphemes t.morphemes) = true := by
        rw [Bool.or_eq_true, allSatisfy_iff ih]
        exact whereGiven_keeps_iff morphemes_eq_of_isEmpty given_of_unifyAll? unifyAll?_comm
          isEmpty_of_formTrees_eq
      rw [unify?_keeps_iff]
      dsimp only
      rw [unifyText?_keeps_iff, isSome_unifyText?, tags.isSome_unify?, hmorphemes, satisfies]
      simp only [Bool.and_eq_true]
      constructor
      · rintro ⟨⟨⟨hform, htags⟩, hmeaning⟩, hparts⟩
        exact ⟨hform, hmeaning, htags, hparts⟩
      · rintro ⟨hform, hmeaning, htags, hparts⟩
        exact ⟨⟨⟨hform, htags⟩, hmeaning⟩, hparts⟩

end Gloss

end Interlinear
