import Interlinear.Proofs.Regex.Remainders

set_option autoImplicit false

/-! # Texts that need what follows them

Of some texts no token can be read, but of the same texts with a parenthesis behind them one can: a
class that is not closed goes on, and a backslash at the end escapes the parenthesis. Whatever is
read then takes the parenthesis with it (`PassesClose`). So the parenthesis closes no group.

There is one exception. A brace after the escape for an edge of words is put off to the next token,
and of this nothing can be read, with or without a parenthesis (`counted_close`). -/

namespace Interlinear.Regex

section

variable {α β γ : Type}

/-- If nothing can be read of a text, but something can with a parenthesis behind it, the
parenthesis is read with it. -/
def PassesClose (read : Reader α) : Prop :=
  ∀ ⦃cs more x rest⦄, '\n' ∉ more → read cs = none → read (cs ++ ')' :: more) = some (x, rest) →
    rest <:+ more

/-- If nothing can be read of a text, but something can with a parenthesis behind it, all is read up
to the parenthesis at least. -/
def ReachesClose (read : Reader α) : Prop :=
  ∀ ⦃cs more x rest⦄, '\n' ∉ more → read cs = none → read (cs ++ ')' :: more) = some (x, rest) →
    rest <:+ ')' :: more

/-- What is read of a text with a parenthesis behind it is read of the text alone, unless nothing is
left or nothing can be read alone. -/
theorem Contained.alone {read : Reader α} (h : Contained read) {cs more rest : List Char} {x : α}
    (hmore : '\n' ∉ more) (hread : read (cs ++ ')' :: more) = some (x, rest)) :
    (∃ left, read cs = some (x, left) ∧ rest = left ++ ')' :: more) ∨ rest = [] ∨
      read cs = none := by
  cases halone : read cs with
  | none => exact Or.inr (Or.inr rfl)
  | some item =>
      obtain ⟨y, left⟩ := item
      rcases h _ _ _ halone with hsame | ⟨-, hgone⟩
      · obtain ⟨rfl, rfl⟩ := Prod.mk.inj (Option.some.inj ((hsame more).symm.trans hread))
        exact Or.inl ⟨left, rfl, rfl⟩
      · obtain ⟨-, rfl⟩ := Prod.mk.inj (Option.some.inj ((hgone more hmore).symm.trans hread))
        exact Or.inr (Or.inl rfl)

theorem PassesClose.alone {read : Reader α} (h : PassesClose read) (hcontained : Contained read)
    {cs more rest : List Char} {x : α} (hmore : '\n' ∉ more)
    (hread : read (cs ++ ')' :: more) = some (x, rest)) :
    (∃ left, read cs = some (x, left) ∧ rest = left ++ ')' :: more) ∨ rest <:+ more := by
  rcases hcontained.alone hmore hread with halone | rfl | hnone
  · exact Or.inl halone
  · exact Or.inr List.nil_suffix
  · exact Or.inr (h hmore hnone hread)

theorem ReachesClose.alone {read : Reader α} (h : ReachesClose read) (hcontained : Contained read)
    {cs more rest : List Char} {x : α} (hmore : '\n' ∉ more)
    (hread : read (cs ++ ')' :: more) = some (x, rest)) :
    (∃ left, read cs = some (x, left) ∧ rest = left ++ ')' :: more) ∨ rest <:+ ')' :: more := by
  rcases hcontained.alone hmore hread with halone | rfl | hnone
  · exact Or.inl halone
  · exact Or.inr List.nil_suffix
  · exact Or.inr (h hmore hnone hread)

theorem PassesClose.reading {read : Reader α} (h : PassesClose read) (hcontained : Contained read)
    (f : α → Option β) (g : β → γ) : PassesClose (reading read f g) := by
  intro cs more z rest hmore hnone hread
  obtain ⟨⟨x, after⟩, hx, hread⟩ := Option.bind_eq_some_iff.1 hread
  obtain ⟨y, hy, hread⟩ := Option.bind_eq_some_iff.1 hread
  obtain ⟨-, rfl⟩ := Prod.mk.inj (Option.some.inj hread)
  rcases h.alone hcontained hmore hx with ⟨left, hleft, -⟩ | hrest
  · rw [Regex.reading, hleft, Option.bind_some, hy] at hnone
    cases hnone
  · exact hrest

end

/-! ## Spacing -/

theorem passesClose_takeTo (stop : Char) (spaced inComment : Bool) :
    PassesClose (takeTo stop spaced inComment) := by
  intro cs more x rest hmore hnone hread
  induction cs generalizing inComment x with
  | nil =>
      rw [List.nil_append, takeTo] at hread
      split at hread
      · exact leavesEnd_takeTo _ _ _ _ _ _ hread
      · split at hread
        · exact leavesEnd_takeTo _ _ _ _ _ _ hread
        · split at hread
          · exact leavesEnd_takeTo _ _ _ _ _ _ hread
          · split at hread
            · exact leavesEnd_rest _ _ _ _ hread
            · obtain ⟨item, hitem, hread⟩ := Option.map_eq_some_iff.1 hread
              obtain ⟨-, rfl⟩ := Prod.mk.inj hread
              exact leavesEnd_takeTo _ _ _ _ _ _ hitem
  | cons c cs ih =>
      rw [takeTo] at hnone
      rw [List.cons_append, takeTo] at hread
      split at hnone
      next hc => exact ih _ hnone (by rwa [if_pos hc] at hread)
      next hc =>
        rw [if_neg hc] at hread
        split at hnone
        next hc => exact ih _ hnone (by rwa [if_pos hc] at hread)
        next hc =>
          rw [if_neg hc] at hread
          split at hnone
          next hc => exact ih _ hnone (by rwa [if_pos hc] at hread)
          next hc =>
            rw [if_neg hc] at hread
            split at hnone
            · cases hnone
            next hc =>
              rw [if_neg hc] at hread
              obtain ⟨item, hitem, hread⟩ := Option.map_eq_some_iff.1 hread
              obtain ⟨-, rfl⟩ := Prod.mk.inj hread
              exact ih _ (Option.map_eq_none_iff.1 hnone) hitem

/-- Spacing at the end of a text ends at the parenthesis, or in a comment with it. -/
theorem skip_close_of_nil {spaced : Bool} {cs more : List Char} (h : skip spaced cs = [])
    (hmore : '\n' ∉ more) :
    skip spaced (cs ++ ')' :: more) = ')' :: more ∨ skip spaced (cs ++ ')' :: more) = [] := by
  rcases skip_close spaced cs with hs | ⟨-, hs⟩
  · exact Or.inl (by rw [hs, h]; rfl)
  · exact Or.inr (hs more hmore)

/-! ## Escapes -/

theorem passesClose_hexDigits (spaced : Bool) (count value : Nat) :
    PassesClose (hexDigits spaced count value) := by
  intro cs more x rest hmore hnone hread
  induction count generalizing value cs with
  | zero => cases hnone
  | succ count ih =>
      cases cs with
      | nil =>
          have hclose : Text.hexValue? ')' = none := by decide
          rw [List.nil_append, hexDigits, hclose] at hread
          cases hread
      | cons c cs =>
          rw [List.cons_append, hexDigits] at hread
          obtain ⟨d, hd, hread⟩ := Option.bind_eq_some_iff.1 hread
          rw [hexDigits, hd] at hnone
          have hnone : hexDigits spaced count (value * 16 + d) (skip spaced cs) = none := hnone
          rcases skip_close spaced cs with hs | ⟨hnil, hs⟩
          · rw [hs] at hread
            exact ih _ hnone hread
          · -- Behind a comment that takes the parenthesis with it, there is nothing to read.
            rw [hnil] at hnone
            rw [hs more hmore, hnone] at hread
            cases hread

theorem passesClose_hexChar (spaced : Bool) (count : Nat) :
    PassesClose (hexChar spaced (count + 1)) := by
  intro cs more x rest hmore hnone hread
  rcases hs : skip spaced cs with _ | ⟨c, ds⟩
  · rcases skip_close_of_nil hs hmore with hclose | hclose
    · have hdigits : hexDigits spaced (count + 1) 0 (')' :: more) = none := rfl
      rw [hexChar_of_ne hclose (by decide), reading, hdigits] at hread
      cases hread
    · rw [hexChar, hclose] at hread
      cases hread
  · have hlong := skip_close_of_cons hs more
    by_cases hc : c = '\x7b'
    · subst hc
      rw [hexChar_of_brace hs] at hnone
      rw [hexChar_of_brace hlong] at hread
      exact (passesClose_takeTo _ _ _).reading (contained_takeTo _ _ _) _ _ hmore hnone hread
    · rw [hexChar_of_ne hs hc] at hnone
      rw [hexChar_of_ne hlong hc, ← List.cons_append] at hread
      exact (passesClose_hexDigits _ _ _).reading (contained_hexDigits _ _ _) _ _ hmore hnone hread

theorem passesClose_propertyEscape (spaced negated : Bool) :
    PassesClose (propertyEscape spaced negated) := by
  intro cs more x rest hmore hnone hread
  rcases hs : skip spaced cs with _ | ⟨c, ds⟩
  · rcases skip_close_of_nil hs hmore with hclose | hclose
    · rw [propertyEscape_of_ne hclose (by decide), if_neg (by decide)] at hread
      exact leavesEnd_rest _ _ _ _ hread
    · rw [propertyEscape, hclose] at hread
      cases hread
  · have hlong := skip_close_of_cons hs more
    by_cases hc : c = '\x7b'
    · subst hc
      rw [propertyEscape_of_brace hs] at hnone
      rw [propertyEscape_of_brace hlong] at hread
      exact (passesClose_takeTo _ _ _).reading (contained_takeTo _ _ _) _ _ hmore hnone hread
    · rw [propertyEscape_of_ne hs hc] at hnone
      rw [propertyEscape_of_ne hlong hc] at hread
      split at hnone
      next hletter =>
        rw [if_pos hletter] at hread
        cases hread
      next => cases hnone

/-- What is left begins with a brace, and nothing but spacing stands between it and the
parenthesis. -/
def AtBrace (spaced : Bool) (more rest : List Char) : Prop :=
  ∃ inside, skip spaced inside = [] ∧ rest = '\x7b' :: (inside ++ ')' :: more)

theorem edgeEscape_close {spaced : Bool} {cs more rest : List Char} {t : Token}
    (hmore : '\n' ∉ more) (hnone : edgeEscape spaced cs = none)
    (hread : edgeEscape spaced (cs ++ ')' :: more) = some (t, rest)) :
    rest <:+ more ∨ t = .place (.word .edge) ∧ AtBrace spaced more rest := by
  have hbrace : cs.head? = some '\x7b' := by
    by_contra hbrace
    rw [edgeEscape_of_ne hbrace] at hnone
    cases hnone
  obtain ⟨inside, rfl⟩ := List.head?_eq_some_iff.1 hbrace
  rw [List.cons_append] at hread
  rcases hs : skip spaced inside with _ | ⟨c, ds⟩
  · -- The brace is left to the next token, for no name begins with the parenthesis.
    rcases skip_close_of_nil hs hmore with hclose | hclose
    · rw [edgeEscape_of_not_name hclose (by decide)] at hread
      obtain ⟨rfl, rfl⟩ := Prod.mk.inj (Option.some.inj hread)
      exact Or.inr ⟨rfl, inside, hs, rfl⟩
    · rw [edgeEscape, hclose] at hread
      cases hread
  · by_cases hc : isEdgeChar c = true
    · rw [edgeEscape_of_name hs hc] at hnone
      rw [edgeEscape_of_name (skip_close_of_cons hs more) hc] at hread
      refine Or.inl ?_
      exact (passesClose_takeTo _ _ _).reading (contained_takeTo _ _ _) _ _ hmore hnone hread
    · rw [edgeEscape_of_not_name hs hc] at hnone
      cases hnone

theorem escape_close {spaced : Bool} {cs more rest : List Char} {t : Token} (hmore : '\n' ∉ more)
    (hnone : escape spaced cs = none) (hread : escape spaced (cs ++ ')' :: more) = some (t, rest)) :
    rest <:+ more ∨ t = .place (.word .edge) ∧ AtBrace spaced more rest := by
  cases cs with
  | nil =>
      have hclose : escape spaced (')' :: more) = some (.char ')' false, more) := by
        rw [escape.eq_def]
        exact if_pos (by decide)
      obtain ⟨-, rfl⟩ := Prod.mk.inj (Option.some.inj (hclose.symm.trans hread))
      exact Or.inl List.suffix_rfl
  | cons c cs =>
      rw [escape.eq_def] at hnone
      rw [List.cons_append, escape.eq_def] at hread
      dsimp only at hnone hread
      split at hnone
      · cases hnone
      next hc =>
        rw [if_neg hc] at hread
        split at hnone
        · exact Or.inl (passesClose_hexChar spaced 1 hmore hnone hread)
        · exact Or.inl (passesClose_hexChar spaced 3 hmore hnone hread)
        · exact Or.inl (passesClose_hexChar spaced 7 hmore hnone hread)
        · exact Or.inl (passesClose_propertyEscape spaced false hmore hnone hread)
        · exact Or.inl (passesClose_propertyEscape spaced true hmore hnone hread)
        all_goals first
          | contradiction
          | exact edgeEscape_close hmore hnone hread
          | simp_all

end Interlinear.Regex
