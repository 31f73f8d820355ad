import Interlinear.Proofs.Regex.Passing.Brackets

set_option autoImplicit false

/-! # Tokens that need what follows them

If no token can be read at the end of a text, but one can with a parenthesis behind it, the
parenthesis is read with it (`token_close`). The exception is a brace after the escape for an edge
of words, at which the next token fails (`counted_close`). -/

namespace Interlinear.Regex

/-! ## Groups -/

theorem flagSettings_ne_nil {seen settings : List FlagSetting} {on dangling : Bool}
    {cs rest : List Char} (h : flagSettings seen on dangling cs = some (settings, rest)) :
    rest ≠ [] := by
  induction cs generalizing seen on dangling with
  | nil => cases h
  | cons c cs ih =>
      rw [flagSettings] at h
      split at h
      · split at h
        · cases h
        · obtain ⟨-, rfl⟩ := Prod.mk.inj (Option.some.inj h)
          exact List.cons_ne_nil _ _
      · split at h
        · split at h
          · exact ih h
          · cases h
        · obtain ⟨f, -, h⟩ := Option.bind_eq_some_iff.1 h
          split at h
          · cases h
          · exact ih h

/-- Flags that nothing ends are ended by the parenthesis. -/
theorem flagSettings_close {seen settings : List FlagSetting} {on dangling : Bool}
    {cs more rest : List Char} (hnone : flagSettings seen on dangling cs = none)
    (hread : flagSettings seen on dangling (cs ++ ')' :: more) = some (settings, rest)) :
    rest = ')' :: more := by
  induction cs generalizing seen on dangling with
  | nil =>
      rw [List.nil_append, flagSettings, if_pos (Or.inr rfl)] at hread
      split at hread
      · cases hread
      · exact (Prod.mk.inj (Option.some.inj hread)).2.symm
  | cons c cs ih =>
      rw [flagSettings] at hnone
      rw [List.cons_append, flagSettings] at hread
      split at hnone
      next hc =>
        rw [if_pos hc] at hread
        split at hnone
        next hd =>
          rw [if_pos hd] at hread
          cases hread
        next => cases hnone
      next hc =>
        rw [if_neg hc] at hread
        split at hnone
        next hhyphen =>
          rw [if_pos hhyphen] at hread
          split at hnone
          next hon =>
            rw [if_pos hon] at hread
            exact ih hnone hread
          next hon =>
            rw [if_neg hon] at hread
            cases hread
        next hhyphen =>
          rw [if_neg hhyphen] at hread
          obtain ⟨f, hf, hread⟩ := Option.bind_eq_some_iff.1 hread
          rw [hf] at hnone
          split at hread
          next => cases hread
          next hseen =>
            have hnone : (if seen.any (·.flag == f) then none
                else flagSettings (⟨f, on⟩ :: seen) on false cs) = none := hnone
            rw [if_neg hseen] at hnone
            exact ih hnone hread

theorem passesClose_groupName : PassesClose groupName := by
  intro cs more x rest hmore hnone hread
  rw [groupName, List.span_eq_takeWhile_dropWhile] at hnone hread
  by_cases hcs : cs.dropWhile (· != '>') = []
  · have hmore : (cs ++ ')' :: more).dropWhile (· != '>') = more.dropWhile (· != '>') := by
      rw [List.dropWhile_append, if_pos (by simpa using hcs)]
      exact List.dropWhile_cons_of_pos (by decide)
    rw [hmore] at hread
    split at hread
    next name rest' heq =>
      obtain ⟨-, hdrop⟩ := Prod.mk.inj heq
      have hall := List.dropWhile_suffix (l := more) (· != '>')
      rw [hdrop] at hall
      split at hread
      · obtain ⟨-, rfl⟩ := Prod.mk.inj (Option.some.inj hread)
        exact (List.suffix_cons _ _).trans hall
      · cases hread
    next => cases hread
  · obtain ⟨c, ds, hdrop⟩ := List.exists_cons_of_ne_nil hcs
    rw [List.dropWhile_append_of_ne_nil hcs, List.takeWhile_append_of_ne_nil hcs, hdrop] at hread
    rw [hdrop] at hnone
    split at hread
    next name rest' heq =>
      obtain ⟨rfl, hcons⟩ := Prod.mk.inj heq
      obtain ⟨rfl, -⟩ := List.cons.inj hcons
      split at hread
      next hname =>
        have halone := (if_pos hname).symm.trans hnone
        cases halone
      next => cases hread
    next => cases hread

theorem passesClose_flagGroup : PassesClose flagGroup := by
  intro cs more x rest hmore hnone hread
  rw [flagGroup] at hnone hread
  cases halone : flagSettings [] true false cs with
  | none =>
      split at hread
      next hset =>
        have := flagSettings_close halone hset
        cases this
      next hset =>
        obtain ⟨-, rfl⟩ := List.cons.inj (flagSettings_close halone hset)
        split at hread
        · cases hread
        · obtain ⟨-, rfl⟩ := Prod.mk.inj (Option.some.inj hread)
          exact List.suffix_rfl
      next => cases hread
  | some item =>
      obtain ⟨settings, left⟩ := item
      obtain ⟨c, ds, rfl⟩ := List.exists_cons_of_ne_nil (flagSettings_ne_nil halone)
      rw [undisturbed_flagSettings halone more] at hread
      rw [halone] at hnone
      split at hread
      next heq =>
        obtain ⟨-, hcons⟩ := Prod.mk.inj (Option.some.inj heq)
        obtain ⟨rfl, -⟩ := List.cons.inj hcons
        cases hnone
      next heq =>
        obtain ⟨rfl, hcons⟩ := Prod.mk.inj (Option.some.inj heq)
        obtain ⟨rfl, -⟩ := List.cons.inj hcons
        split at hread
        next => cases hread
        next hset =>
          have halone := (if_neg hset).symm.trans hnone
          cases halone
      next => cases hread

theorem passesClose_groupStart (spaced : Bool) : PassesClose (groupStart spaced) := by
  intro cs more x rest hmore hnone hread
  have hhead : (skip spaced cs).head? = some '?' := by
    by_contra hhead
    rw [groupStart_of_ne hhead] at hnone
    cases hnone
  obtain ⟨ds, hs⟩ := List.head?_eq_some_iff.1 hhead
  have hlong := skip_close_of_cons hs more
  by_cases hangle : ds.head? = some '<'
  · obtain ⟨es, rfl⟩ := List.head?_eq_some_iff.1 hangle
    rw [groupStart_angle hs] at hnone
    rw [List.cons_append] at hlong
    rw [groupStart_angle hlong] at hread
    split at hread
    next => cases hread
    next hlook =>
      refine passesClose_groupName hmore ?_ hread
      cases es with
      | nil => rfl
      | cons e es =>
          rw [List.cons_append, List.head?_cons] at hlook
          rwa [List.head?_cons, if_neg hlook] at hnone
  by_cases hnamed : ∃ es, ds = 'P' :: '<' :: es
  · obtain ⟨es, rfl⟩ := hnamed
    rw [groupStart_named hs] at hnone
    rw [groupStart_named hlong] at hread
    exact passesClose_groupName hmore hnone hread
  · push Not at hnamed
    rw [groupStart_flags hs hangle hnamed] at hnone
    rw [groupStart_flags_close hs hangle hnamed] at hread
    exact passesClose_flagGroup hmore hnone hread

/-! ## Repetitions -/

theorem count?_close_nil (spaced : Bool) (more : List Char) :
    count? spaced (')' :: more) = none := by
  have hdrop : (')' :: more).dropWhile Text.isBlank = ')' :: more :=
    List.dropWhile_cons_of_neg (by simp [isBlank_close])
  have hdigit : Char.isDigit ')' = false := by decide
  rw [count?, hdrop]
  simp [takeSpaced, isBlank_close, hdigit]

theorem count?_alone {spaced : Bool} {cs more rest : List Char} {n : Nat}
    (hread : count? spaced (cs ++ ')' :: more) = some (n, rest)) :
    (∃ left, left ≠ [] ∧ count? spaced cs = some (n, left) ∧ rest = left ++ ')' :: more) ∨
      rest <:+ ')' :: more := by
  have hclose : (')' :: more).dropWhile Text.isBlank = ')' :: more :=
    List.dropWhile_cons_of_neg (by simp [isBlank_close])
  have hrest := count?_suffix hread
  by_cases hcs : cs.dropWhile Text.isBlank = []
  · rw [List.dropWhile_append, if_pos (by simpa using hcs), hclose] at hrest
    exact Or.inr (hrest.trans (takeSpaced_suffix _ _ _ _))
  · rw [List.dropWhile_append_of_ne_nil hcs] at hrest
    rcases htake : takeSpaced Char.isDigit spaced false (cs.dropWhile Text.isBlank)
      with ⟨digits, after⟩
    by_cases hafter : after = []
    · exact Or.inr (hrest.trans (takeSpaced_close (by rw [htake]; exact hafter) more))
    · rw [count?, List.dropWhile_append_of_ne_nil hcs, takeSpaced_append htake hafter] at hread
      dsimp only at hread
      split at hread
      next => cases hread
      next hn =>
        obtain ⟨rfl, rfl⟩ := Prod.mk.inj (Option.some.inj hread)
        by_cases hdrop : after.dropWhile Text.isBlank = []
        · rw [List.dropWhile_append, if_pos (by simpa using hdrop), hclose]
          exact Or.inr List.suffix_rfl
        · refine Or.inl ⟨after.dropWhile Text.isBlank, hdrop, ?_, ?_⟩
          · rw [count?, htake]
            exact if_neg hn
          · exact List.dropWhile_append_of_ne_nil hdrop _

theorem braceAfter_alone {least n : Nat} {cs more rest : List Char} {most : Option Nat}
    (hread : braceAfter least n (cs ++ ')' :: more) = some (most, rest)) :
    ∃ left, braceAfter least n cs = some (most, left) ∧ rest = left ++ ')' :: more := by
  rcases cs with _ | ⟨c, cs⟩
  · cases hread
  by_cases hbrace : c = '\x7d'
  · subst hbrace
    rw [List.cons_append, braceAfter] at hread
    split at hread
    next hle =>
      obtain ⟨rfl, rfl⟩ := Prod.mk.inj (Option.some.inj hread)
      exact ⟨cs, if_pos hle, rfl⟩
    next => cases hread
  · simp [braceAfter, hbrace] at hread

theorem mostOf_alone {spaced : Bool} {least : Nat} {cs more rest : List Char} {most : Option Nat}
    (hmore : '\n' ∉ more) (hread : mostOf spaced least (cs ++ ')' :: more) = some (most, rest)) :
    (∃ left, mostOf spaced least cs = some (most, left) ∧ rest = left ++ ')' :: more) ∨
      rest <:+ more := by
  rcases cs with _ | ⟨c, cs⟩
  · cases hread
  by_cases hcomma : c = ','
  · subst hcomma
    rw [List.cons_append] at hread
    rcases hs : skip spaced cs with _ | ⟨d, ds⟩
    · -- Neither a number nor a brace follows the comma.
      rcases skip_close_of_nil hs hmore with hclose | hclose
      · rw [mostOf_of_ne (by simp [hclose]), hclose, count?_close_nil] at hread
        cases hread
      · simp [mostOf, hclose, count?_nil] at hread
    · have hlong := skip_close_of_cons hs more
      by_cases hbrace : d = '\x7d'
      · subst hbrace
        rw [mostOf_of_brace hlong] at hread
        obtain ⟨rfl, rfl⟩ := Prod.mk.inj (Option.some.inj hread)
        exact Or.inl ⟨ds, mostOf_of_brace hs least, rfl⟩
      · rw [mostOf_of_ne (by simp [hlong, hbrace]), hlong] at hread
        obtain ⟨⟨n, after⟩, hn, hread⟩ := Option.bind_eq_some_iff.1 hread
        rw [← List.cons_append] at hn
        rcases count?_alone hn with ⟨left, -, hleft, rfl⟩ | hpassed
        · obtain ⟨left', hleft', rfl⟩ := braceAfter_alone hread
          refine Or.inl ⟨left', ?_, rfl⟩
          rw [mostOf_of_ne (by simp [hs, hbrace]), hs, hleft]
          exact hleft'
        · cases after with
          | nil => cases hread
          | cons e es =>
              have hrest := braceAfter_suffix_tail hread
              exact Or.inr (hrest.trans (List.suffix_of_cons_suffix_cons hpassed))
  by_cases hbrace : c = '\x7d'
  · subst hbrace
    obtain ⟨rfl, rfl⟩ := Prod.mk.inj (Option.some.inj hread)
    exact Or.inl ⟨cs, rfl, rfl⟩
  · simp [mostOf, hcomma, hbrace] at hread

theorem passesClose_counted (spaced : Bool) : PassesClose (counted spaced) := by
  intro cs more x rest hmore hnone hread
  rw [counted_eq] at hnone hread
  obtain ⟨⟨least, after⟩, hleast, hread⟩ := Option.bind_eq_some_iff.1 hread
  obtain ⟨⟨most, after'⟩, hmost, hread⟩ := Option.bind_eq_some_iff.1 hread
  have hrest := (leavesEnd_repeated least most _ _ _ hread).trans (skip_suffix spaced after')
  rcases hs : skip spaced cs with _ | ⟨c, ds⟩
  · rcases skip_close_of_nil hs hmore with hclose | hclose
    · rw [hclose, count?_close_nil] at hleast
      cases hleast
    · rw [hclose, count?_nil] at hleast
      cases hleast
  · rw [skip_close_of_cons hs, ← List.cons_append] at hleast
    rcases count?_alone hleast with ⟨left, -, hleft, rfl⟩ | hpassed
    · rcases mostOf_alone hmore hmost with ⟨left', hleft', -⟩ | hpassed
      · simp [hs, hleft, hleft'] at hnone
      · exact hrest.trans hpassed
    · cases after with
      | nil => cases hmost
      | cons e es =>
          have htail := mostOf_suffix_tail hmost
          exact hrest.trans (htail.trans (List.suffix_of_cons_suffix_cons hpassed))

theorem counted_close {spaced : Bool} {cs more : List Char} (hs : skip spaced cs = [])
    (hmore : '\n' ∉ more) : counted spaced (cs ++ ')' :: more) = none := by
  rw [counted_eq]
  rcases skip_close_of_nil hs hmore with hclose | hclose
  · rw [hclose, count?_close_nil]
    rfl
  · rw [hclose, count?_nil]
    rfl

/-! ## Tokens -/

theorem token_close {spaced : Bool} {c : Char} {cs more rest : List Char} {t : Token}
    (hmore : '\n' ∉ more) (hnone : token spaced c cs = none)
    (hread : token spaced c (cs ++ ')' :: more) = some (t, rest)) :
    rest <:+ more ∨ t = .place (.word .edge) ∧ AtBrace spaced more rest := by
  rw [token.eq_def] at hnone
  split at hnone
  case h_1 => exact Or.inl (passesClose_groupStart spaced hmore hnone hread)
  case h_4 => exact Or.inl (passesClose_bracketed spaced hmore hnone hread)
  case h_8 => exact Or.inl (passesClose_counted spaced hmore hnone hread)
  case h_9 => exact escape_close hmore hnone hread
  all_goals cases hnone

theorem hexChar_ne_close {spaced : Bool} {count : Nat} {cs rest : List Char} :
    hexChar spaced count cs ≠ some (.close, rest) := by
  intro h
  have hreading : ∀ {α : Type} {read : Reader α} {f : α → Option Char} {asByte : Bool} {cs},
      reading read f (Token.char · asByte) cs ≠ some (.close, rest) := by
    intro α read f asByte cs h
    obtain ⟨x, -, h⟩ := Option.bind_eq_some_iff.1 h
    obtain ⟨y, -, h⟩ := Option.bind_eq_some_iff.1 h
    cases h
  rcases hs : skip spaced cs with _ | ⟨c, ds⟩
  · rw [hexChar, hs] at h
    cases h
  · by_cases hc : c = '\x7b'
    · subst hc
      rw [hexChar_of_brace hs] at h
      exact hreading h
    · rw [hexChar_of_ne hs hc] at h
      exact hreading h

theorem propertyEscape_ne_close {spaced negated : Bool} {cs rest : List Char} :
    propertyEscape spaced negated cs ≠ some (.close, rest) := by
  intro h
  rw [propertyEscape] at h
  split at h
  next => cases h
  next =>
    obtain ⟨inside, -, h⟩ := Option.bind_eq_some_iff.1 h
    cases h
  next => split at h <;> cases h

theorem edgeEscape_ne_close {spaced : Bool} {cs rest : List Char} :
    edgeEscape spaced cs ≠ some (.close, rest) := by
  intro h
  rw [edgeEscape.eq_def] at h
  split at h
  next =>
    split at h
    next => cases h
    next =>
      split at h
      · obtain ⟨name, -, h⟩ := Option.bind_eq_some_iff.1 h
        obtain ⟨named, -, h⟩ := Option.bind_eq_some_iff.1 h
        cases h
      · cases h
  next => cases h

theorem escape_ne_close {spaced : Bool} {cs rest : List Char} :
    escape spaced cs ≠ some (.close, rest) := by
  intro h
  cases cs with
  | nil => cases h
  | cons c cs =>
      rw [escape.eq_def] at h
      dsimp only at h
      split at h
      next => cases h
      next =>
        split at h
        all_goals first
          | cases h
          | exact hexChar_ne_close h
          | exact propertyEscape_ne_close h
          | exact edgeEscape_ne_close h

theorem groupStart_ne_close {spaced : Bool} {cs rest : List Char} :
    groupStart spaced cs ≠ some (.close, rest) := by
  intro h
  rw [groupStart] at h
  repeat' split at h
  all_goals first
    | cases h
    | (rw [groupName] at h; repeat' split at h) <;> cases h

/-- Only a parenthesis closes a group. -/
theorem eq_of_token_close {spaced : Bool} {c : Char} {cs rest : List Char}
    (h : token spaced c cs = some (.close, rest)) : c = ')' := by
  rw [token.eq_def] at h
  split at h
  case h_1 => exact absurd h groupStart_ne_close
  case h_2 => rfl
  case h_4 =>
    obtain ⟨start, -, h⟩ := Option.bind_eq_some_iff.1 h
    obtain ⟨body, -, h⟩ := Option.bind_eq_some_iff.1 h
    cases h
  case h_8 =>
    rw [counted_eq] at h
    obtain ⟨least, -, h⟩ := Option.bind_eq_some_iff.1 h
    obtain ⟨most, -, h⟩ := Option.bind_eq_some_iff.1 h
    cases h
  case h_9 => exact absurd h escape_ne_close
  all_goals cases h

end Interlinear.Regex
