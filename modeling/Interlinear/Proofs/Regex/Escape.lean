import Interlinear.Regex.Escape
import Interlinear.Proofs.Regex.Spacing

set_option autoImplicit false

/-! # Escapes between parentheses

An escape ends within the pattern in which it stands, but for the spacing after hexadecimal
digits. -/

namespace Interlinear.Regex

theorem contained_hexDigits (spaced : Bool) (count value : Nat) :
    Contained (hexDigits spaced count value) := by
  intro cs n rest h
  induction count generalizing value cs with
  | zero =>
      obtain ⟨rfl, rfl⟩ := Prod.mk.inj (Option.some.inj h)
      exact Or.inl fun more => rfl
  | succ count ih =>
      cases cs with
      | nil => simp [hexDigits] at h
      | cons c cs =>
          rw [hexDigits] at h
          obtain ⟨d, hd, h⟩ := Option.bind_eq_some_iff.1 h
          have hstep : ∀ more, hexDigits spaced (count + 1) value (c :: cs ++ more)
              = hexDigits spaced count (value * 16 + d) (skip spaced (cs ++ more)) := by
            intro more
            rw [List.cons_append, hexDigits, hd]
            rfl
          rw [Undisturbed, Swallows]
          simp only [hstep]
          rcases skip_close spaced cs with hs | ⟨hnil, hs⟩
          · simp only [hs]
            exact ih _ _ h
          · -- The comment after the last digit goes on in the longer text.
            rw [hnil] at h
            have hlast : n = value * 16 + d ∧ rest = [] ∧ count = 0 := by
              cases count with
              | zero => grind [hexDigits]
              | succ count => simp [hexDigits] at h
            obtain ⟨rfl, rfl, rfl⟩ := hlast
            exact Or.inr ⟨rfl, fun more hmore => by rw [hs more hmore]; rfl⟩

/-- The character whose code point is written in braces. -/
def braced? (digits : List Char) : Option Char := do
  let values ← digits.mapM Text.hexValue?
  if values.isEmpty then none
  charOf? (values.foldl (fun n d => n * 16 + d) 0)

theorem hexChar_of_brace {spaced : Bool} {cs ds : List Char} (hs : skip spaced cs = '\x7b' :: ds)
    (count : Nat) :
    hexChar spaced count cs
      = reading (takeTo '\x7d' spaced false) braced? (Token.char · false) ds := by
  rw [hexChar, hs]
  refine Option.bind_congr fun item _ => ?_
  obtain ⟨digits, rest⟩ := item
  rw [braced?]
  show Option.bind _ _ = Option.bind (Option.bind _ _) _
  rw [Option.bind_assoc]
  refine Option.bind_congr fun values _ => ?_
  split <;> rfl

theorem hexChar_of_ne {spaced : Bool} {cs ds : List Char} {c : Char} (hs : skip spaced cs = c :: ds)
    (hc : c ≠ '\x7b') (count : Nat) :
    hexChar spaced count cs
      = reading (hexDigits spaced count 0) charOf? (Token.char · (count == 2)) (c :: ds) := by
  rw [hexChar, hs]
  simp [hc, reading]

theorem contained_hexChar (spaced : Bool) (count : Nat) : Contained (hexChar spaced count) := by
  intro cs t rest h
  rcases hs : skip spaced cs with _ | ⟨c, ds⟩
  · rw [hexChar, hs] at h
    contradiction
  have hlong := skip_close_of_cons hs
  by_cases hc : c = '\x7b'
  · subst hc
    rw [hexChar_of_brace hs] at h
    refine ((contained_takeTo _ _ _).reading braced? _).of_eq (fun more => ?_) h
    exact hexChar_of_brace (hlong more) count
  · rw [hexChar_of_ne hs hc] at h
    refine ((contained_hexDigits spaced count 0).reading charOf? _).of_eq (fun more => ?_) h
    exact hexChar_of_ne (hlong more) hc count

theorem propertyEscape_of_brace {spaced : Bool} {cs ds : List Char}
    (hs : skip spaced cs = '\x7b' :: ds) (negated : Bool) :
    propertyEscape spaced negated cs = reading (takeTo '\x7d' spaced false) some (fun inside =>
      Token.property (propertyIn inside).1 (negated != (propertyIn inside).2)) ds := by
  rw [propertyEscape, hs]
  rfl

theorem propertyEscape_of_ne {spaced : Bool} {cs ds : List Char} {c : Char}
    (hs : skip spaced cs = c :: ds) (hc : c ≠ '\x7b') (negated : Bool) :
    propertyEscape spaced negated cs
      = if c = '\\' then none else some (.property (.plain (String.singleton c)) negated, ds) := by
  rw [propertyEscape, hs]
  split
  next heq => cases heq
  next heq => exact absurd (List.cons.inj heq).1 hc
  next heq =>
    obtain ⟨rfl, rfl⟩ := List.cons.inj heq
    rfl

theorem contained_propertyEscape (spaced negated : Bool) :
    Contained (propertyEscape spaced negated) := by
  intro cs t rest h
  rcases hs : skip spaced cs with _ | ⟨c, ds⟩
  · rw [propertyEscape, hs] at h
    contradiction
  have hlong := skip_close_of_cons hs
  by_cases hc : c = '\x7b'
  · subst hc
    rw [propertyEscape_of_brace hs] at h
    refine ((contained_takeTo _ _ _).reading some _).of_eq (fun more => ?_) h
    exact propertyEscape_of_brace (hlong more) negated
  · rw [propertyEscape_of_ne hs hc] at h
    split at h
    next => contradiction
    next hletter =>
      refine (contained_rest _).of_eq (fun more => ?_) h
      rw [propertyEscape_of_ne (hlong more) hc, if_neg hletter]

theorem edgeEscape_of_name {spaced : Bool} {cs ds : List Char} {c : Char}
    (hs : skip spaced cs = c :: ds) (hc : isEdgeChar c = true) :
    edgeEscape spaced ('\x7b' :: cs)
      = reading (takeTo '\x7d' spaced false) edgeNamed? (Token.place ∘ .word) cs := by
  rw [edgeEscape, hs]
  exact if_pos hc

theorem edgeEscape_of_not_name {spaced : Bool} {cs ds : List Char} {c : Char}
    (hs : skip spaced cs = c :: ds) (hc : ¬isEdgeChar c = true) :
    edgeEscape spaced ('\x7b' :: cs) = some (.place (.word .edge), '\x7b' :: cs) := by
  rw [edgeEscape, hs]
  exact if_neg hc

theorem edgeEscape_of_ne {cs : List Char} (h : cs.head? ≠ some '\x7b') (spaced : Bool) :
    edgeEscape spaced cs = some (.place (.word .edge), cs) := by
  cases cs with
  | nil => rfl
  | cons c cs =>
      have hc : c ≠ '\x7b' := by simpa using h
      simp [edgeEscape, hc]

theorem contained_edgeEscape (spaced : Bool) : Contained (edgeEscape spaced) := by
  intro cs t rest h
  by_cases hbrace : cs.head? = some '\x7b'
  · obtain ⟨inside, rfl⟩ := List.head?_eq_some_iff.1 hbrace
    rcases hs : skip spaced inside with _ | ⟨c, ds⟩
    · rw [edgeEscape, hs] at h
      contradiction
    have hlong := skip_close_of_cons hs
    by_cases hc : isEdgeChar c = true
    · rw [edgeEscape_of_name hs hc] at h
      refine ((contained_takeTo _ _ _).reading edgeNamed? _).of_eq (fun more => ?_) h
      exact edgeEscape_of_name (hlong more) hc
    · rw [edgeEscape_of_not_name hs hc] at h
      refine (contained_rest _).of_eq (fun more => ?_) h
      exact edgeEscape_of_not_name (hlong more) hc
  · rw [edgeEscape_of_ne hbrace] at h
    refine (contained_rest _).of_eq (fun more => edgeEscape_of_ne ?_ spaced) h
    cases cs with
    | nil => simp
    | cons c cs => exact hbrace

theorem contained_escape (spaced : Bool) : Contained (escape spaced) := by
  intro cs t rest h
  cases cs with
  | nil => contradiction
  | cons c cs =>
      rw [escape.eq_def] at h
      dsimp only at h
      split at h
      next hc => exact (contained_rest _).of_eq (fun more => by simp [escape.eq_def, hc]) h
      next hc =>
        split at h
        · exact (contained_hexChar spaced 2).of_eq (fun more => by simp [escape, hc]) h
        · exact (contained_hexChar spaced 4).of_eq (fun more => by simp [escape, hc]) h
        · exact (contained_hexChar spaced 8).of_eq (fun more => by simp [escape, hc]) h
        · exact (contained_propertyEscape spaced false).of_eq (fun more => by simp [escape, hc]) h
        · exact (contained_propertyEscape spaced true).of_eq (fun more => by simp [escape, hc]) h
        all_goals first
          | contradiction
          | exact (contained_edgeEscape spaced).of_eq (fun more => by simp [escape, hc]) h
          | exact (contained_rest _).of_eq (fun more => by simp [escape, hc]) h

end Interlinear.Regex
