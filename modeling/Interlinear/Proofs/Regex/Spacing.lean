import Interlinear.Regex.Spacing
import Mathlib.Data.List.TakeDrop
import Mathlib.Data.List.TakeWhile

set_option autoImplicit false

/-! # Text between parentheses

A pattern may be put between parentheses and be read there as part of a longer one. What is read of
it is then the same, with one exception: a comment at its end goes on, and takes the parenthesis and
what follows with it. This module says what that means for a function that reads from the start of a
text (`Contained`), and how spacing behaves. -/

namespace Interlinear.Regex

/-! ## Spacing -/

theorem isBlank_close : Text.isBlank ')' = false := by decide +kernel

theorem dropSpacing_comment {more : List Char} (h : '\n' ∉ more) : dropSpacing true more = [] := by
  induction more with
  | nil => rfl
  | cons d more ih => grind [dropSpacing]

theorem dropSpacing_close (inComment : Bool) (cs : List Char) :
    (∀ more, dropSpacing inComment (cs ++ ')' :: more) = dropSpacing inComment cs ++ ')' :: more) ∨
      dropSpacing inComment cs = [] ∧
        ∀ more, '\n' ∉ more → dropSpacing inComment (cs ++ ')' :: more) = [] := by
  induction cs generalizing inComment with
  | nil =>
      cases inComment with
      | false => exact Or.inl fun more => by simp [dropSpacing, isBlank_close]
      | true => exact Or.inr ⟨rfl, fun more h => dropSpacing_comment (by simpa using h)⟩
  | cons d cs ih => grind [dropSpacing]

theorem skip_nil (spaced : Bool) : skip spaced [] = [] := by cases spaced <;> rfl

theorem skip_close_nil (spaced : Bool) (more : List Char) :
    skip spaced (')' :: more) = ')' :: more := by
  cases spaced with
  | false => rfl
  | true => simp [skip, dropSpacing, isBlank_close]

/-- Spacing ends at a parenthesis, unless it ends in a comment. -/
theorem skip_close (spaced : Bool) (cs : List Char) :
    (∀ more, skip spaced (cs ++ ')' :: more) = skip spaced cs ++ ')' :: more) ∨
      skip spaced cs = [] ∧ ∀ more, '\n' ∉ more → skip spaced (cs ++ ')' :: more) = [] := by
  cases spaced with
  | false => exact Or.inl fun more => rfl
  | true => exact dropSpacing_close false cs

theorem skip_close_of_cons {spaced : Bool} {cs rest : List Char} {c : Char}
    (h : skip spaced cs = c :: rest) (more : List Char) :
    skip spaced (cs ++ ')' :: more) = c :: (rest ++ ')' :: more) := by
  rcases skip_close spaced cs with hs | ⟨hs, -⟩
  · rw [hs, h]
    rfl
  · rw [h] at hs
    contradiction

theorem ne_nil_of_skip {spaced : Bool} {cs : List Char} (h : skip spaced cs ≠ []) : cs ≠ [] := by
  rintro rfl
  exact h (skip_nil spaced)

/-! ## Readers -/

/-- A function that reads something from the start of a text and leaves the rest. -/
abbrev Reader (α : Type) : Type := List Char → Option (α × List Char)

section

variable {α β γ : Type}

/-- A text that is followed by a parenthesis is read as if it were not. -/
def Undisturbed (read : Reader α) (cs : List Char) (x : α) (rest : List Char) : Prop :=
  ∀ more, read (cs ++ ')' :: more) = some (x, rest ++ ')' :: more)

/-- A text that is followed by a parenthesis is read to the end of the line, beyond it. -/
def Swallows (read : Reader α) (cs : List Char) (x : α) : Prop :=
  ∀ more, '\n' ∉ more → read (cs ++ ')' :: more) = some (x, [])

/-- What is read of a text is read of the text between parentheses too. Only when the whole text is
read may what follows be taken with it, to the end of the line. -/
def Contained (read : Reader α) : Prop :=
  ∀ cs x rest, read cs = some (x, rest) →
    Undisturbed read cs x rest ∨ rest = [] ∧ Swallows read cs x

theorem Contained.undisturbed {read : Reader α} (h : Contained read) {cs rest : List Char} {x : α}
    (hread : read cs = some (x, rest)) (hrest : rest ≠ []) : Undisturbed read cs x rest :=
  (h _ _ _ hread).resolve_right fun hnil => hrest hnil.1

/-- What reads nothing is contained. -/
theorem contained_rest (x : α) : Contained fun cs => some (x, cs) := by
  intro cs y rest h
  obtain ⟨rfl, rfl⟩ := Prod.mk.inj (Option.some.inj h)
  exact Or.inl fun more => rfl

/-- What reads on like a contained function is contained from there. -/
theorem Contained.of_eq {read read' : Reader α} (h : Contained read') {cs cs' rest : List Char}
    {x : α} (heq : ∀ more, read (cs ++ ')' :: more) = read' (cs' ++ ')' :: more))
    (hread : read' cs' = some (x, rest)) :
    Undisturbed read cs x rest ∨ rest = [] ∧ Swallows read cs x := by
  rw [Undisturbed, Swallows]
  simp only [heq]
  exact h _ _ _ hread

/-- Reads, and makes something of what was read. -/
def reading (read : Reader α) (f : α → Option β) (g : β → γ) : Reader γ :=
  fun cs => (read cs).bind fun x => (f x.1).bind fun y => some (g y, x.2)

theorem Contained.reading {read : Reader α} (h : Contained read) (f : α → Option β) (g : β → γ) :
    Contained (reading read f g) := by
  intro cs z rest hread
  obtain ⟨⟨x, after⟩, hx, hread⟩ := Option.bind_eq_some_iff.1 hread
  obtain ⟨y, hy, hread⟩ := Option.bind_eq_some_iff.1 hread
  obtain ⟨rfl, rfl⟩ := Prod.mk.inj (Option.some.inj hread)
  simp only [Undisturbed, Swallows, Regex.reading]
  rcases h _ _ _ hx with hsame | ⟨hnil, hgone⟩
  · exact Or.inl fun more => by rw [hsame, Option.bind_some, hy, Option.bind_some]
  · refine Or.inr ⟨hnil, fun more hmore => ?_⟩
    rw [hgone more hmore, Option.bind_some, hy, Option.bind_some]

end

theorem undisturbed_takeTo {stop : Char} {spaced inComment : Bool} {cs taken rest : List Char}
    (h : takeTo stop spaced inComment cs = some (taken, rest)) :
    Undisturbed (takeTo stop spaced inComment) cs taken rest := by
  intro more
  induction cs generalizing inComment taken with
  | nil => simp [takeTo] at h
  | cons d cs ih => grind [takeTo, Option.map_eq_some_iff]

theorem contained_takeTo (stop : Char) (spaced inComment : Bool) :
    Contained (takeTo stop spaced inComment) :=
  fun _ _ _ h => Or.inl (undisturbed_takeTo h)

/-! ## Longest runs -/

theorem takeSpaced_append {p : Char → Bool} {spaced inComment : Bool} {cs x rest : List Char}
    (h : takeSpaced p spaced inComment cs = (x, rest)) (hrest : rest ≠ []) (more : List Char) :
    takeSpaced p spaced inComment (cs ++ more) = (x, rest ++ more) := by
  induction cs generalizing inComment x with
  | nil => grind [takeSpaced]
  | cons d cs ih => grind [takeSpaced]

/-! ## Looking ahead -/

theorem dropWhile_isBlank_ne_nil {inComment : Bool} {cs : List Char}
    (h : dropSpacing inComment cs ≠ []) : cs.dropWhile Text.isBlank ≠ [] := by
  induction cs generalizing inComment with
  | nil => exact absurd rfl h
  | cons c cs ih => grind [dropSpacing, List.dropWhile_cons]

theorem dropSpacing_dropWhile (cs : List Char) :
    dropSpacing false (cs.dropWhile Text.isBlank) = dropSpacing false cs := by
  induction cs with
  | nil => rfl
  | cons c cs ih => grind [dropSpacing, List.dropWhile_cons]

/-- Where something follows the spacing, something follows blanks, also behind the sign of a
comment. -/
theorem dropWhile_ne_nil_of_dropSpacing {cs : List Char} (h : dropSpacing false cs ≠ []) :
    cs.dropWhile Text.isBlank ≠ [] ∧
      ∀ ds, cs.dropWhile Text.isBlank = '#' :: ds → ds.dropWhile Text.isBlank ≠ [] := by
  refine ⟨dropWhile_isBlank_ne_nil h, fun ds hds => ?_⟩
  have hblank : Text.isBlank '#' = false := by decide +kernel
  have hopens : dropSpacing false ('#' :: ds) = dropSpacing true ds := by
    simp [dropSpacing, hblank]
  rw [← dropSpacing_dropWhile, hds, hopens] at h
  exact dropWhile_isBlank_ne_nil h

/-- The character after a hyphen is the same in a longer text, where it matters: if it gives the
hyphen its meaning, and if it begins the end of a range. -/
theorem peekSpaced_append {spaced : Bool} {c : Char} {cs : List Char}
    (h : peekSpaced spaced (c :: cs) = some ']' ∨ peekSpaced spaced (c :: cs) = some '-' ∨
      skip spaced cs ≠ []) (more : List Char) :
    peekSpaced spaced (c :: (cs ++ more)) = peekSpaced spaced (c :: cs) := by
  cases spaced with
  | false =>
      cases cs with
      | nil => simp [peekSpaced, skip] at h
      | cons d ds => rfl
  | true =>
      rw [peekSpaced, if_pos rfl] at h ⊢
      rw [peekSpaced, if_pos rfl]
      have hsign : ∀ d, cs.head? = some d → Text.isBlank d = false →
          ∃ ds, cs.dropWhile Text.isBlank = d :: ds := by
        intro d hd hblank
        obtain ⟨ds, rfl⟩ := List.head?_eq_some_iff.1 hd
        exact ⟨ds, List.dropWhile_cons_of_neg (by simp [hblank])⟩
      have hbracket : Text.isBlank ']' = false := by decide +kernel
      have hhyphen : Text.isBlank '-' = false := by decide +kernel
      have hskip : skip true cs ≠ [] → _ := dropWhile_ne_nil_of_dropSpacing
      rcases hcs : cs.dropWhile Text.isBlank with _ | ⟨d, ds⟩
      · grind
      · rw [List.dropWhile_append, hcs]
        by_cases hd : d = '#'
        · subst hd
          rcases hds : ds.dropWhile Text.isBlank with _ | ⟨e, es⟩
          · grind
          · simp [List.dropWhile_append, hds]
        · simp

end Interlinear.Regex
