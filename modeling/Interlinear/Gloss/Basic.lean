import Interlinear.Gloss.TagSet

set_option autoImplicit false

/-! # Glosses

A gloss is the analysis of a word or of a part of a word: its form, its tags, its meaning, and the
glosses of the morphemes that it is made of. The same type serves as a template for others; an
empty field of a template asks for nothing.

* `Gloss.isResolved`: the meaning is known, or that of every morpheme is;
* `Gloss.satisfies`: a gloss has all that a template asks for;
* `Gloss.unify?`: the gloss that has all that two glosses have, if they do not contradict;
* `Gloss.overlay`: a gloss with fields written over by those of another. -/

namespace Interlinear

/-- The analysis of a word or of a morpheme. -/
structure Gloss where
  /-- The text of the word. -/
  form : String
  /-- The part of speech. -/
  tags : TagSet
  /-- The meaning, empty while it is unknown. -/
  meaning : String
  /-- The analyses of the parts; none for a word that is not taken apart. -/
  morphemes : List Gloss

namespace Gloss

/-! ## Equality -/

mutual

/-- Decides whether two glosses are equal. -/
def decEq : (a b : Gloss) → Decidable (a = b)
  | ⟨f, t, m, ms⟩, ⟨f', t', m', ms'⟩ =>
    if hf : f = f' then
      if ht : t = t' then
        if hm : m = m' then
          match decEqAll ms ms' with
          | isTrue h => isTrue (by rw [hf, ht, hm, h])
          | isFalse h => isFalse fun e => h (Gloss.mk.inj e).2.2.2
        else isFalse fun e => hm (Gloss.mk.inj e).2.2.1
      else isFalse fun e => ht (Gloss.mk.inj e).2.1
    else isFalse fun e => hf (Gloss.mk.inj e).1

/-- Decides whether two lists of glosses are equal. -/
def decEqAll : (as bs : List Gloss) → Decidable (as = bs)
  | [], [] => isTrue rfl
  | [], _ :: _ => isFalse (by simp)
  | _ :: _, [] => isFalse (by simp)
  | a :: as, b :: bs =>
    match decEq a b, decEqAll as bs with
    | isTrue h, isTrue hs => isTrue (by rw [h, hs])
    | isFalse h, _ => isFalse fun e => h (List.cons.inj e).1
    | _, isFalse hs => isFalse fun e => hs (List.cons.inj e).2

end

instance : DecidableEq Gloss := decEq

/-! ## Making glosses -/

/-- The gloss without any content. -/
def empty : Gloss := ⟨"", .empty, "", []⟩

/-- The gloss of a form about which nothing is known. -/
def ofForm (form : String) : Gloss := ⟨form, .empty, "", []⟩

/-- A gloss with other morphemes. -/
def withMorphemes (g : Gloss) (morphemes : List Gloss) : Gloss := { g with morphemes := morphemes }

/-! ## Resolution -/

mutual

/-- Whether the analysis is complete: a word that is not taken apart has a meaning, and of one that
is every morpheme is resolved. -/
def isResolved : Gloss → Bool
  | ⟨_, _, meaning, morphemes⟩ =>
    if morphemes.isEmpty then !meaning.isEmpty else allResolved morphemes

/-- Whether all glosses of a list are resolved. -/
def allResolved : List Gloss → Bool
  | [] => true
  | g :: gs => g.isResolved && allResolved gs

end

/-- Whether the gloss itself has no meaning. -/
def isUnknown (g : Gloss) : Bool := g.meaning.isEmpty

/-! ## Templates -/

mutual

/-- Whether a gloss has all that a template asks for. A gloss whose own meaning is unknown may have
any meaning, and one without tags any tags. -/
def satisfies : Gloss → Gloss → Bool
  | ⟨form, tags, meaning, morphemes⟩, template =>
    (template.form.isEmpty || form == template.form) &&
    tags.compatible template.tags &&
    (template.meaning.isEmpty || meaning.isEmpty || meaning == template.meaning) &&
    (template.morphemes.isEmpty || allSatisfy morphemes template.morphemes)

/-- Whether the glosses of a list satisfy as many templates, one each. -/
def allSatisfy : List Gloss → List Gloss → Bool
  | [], [] => true
  | g :: gs, t :: ts => g.satisfies t && allSatisfy gs ts
  | _, _ => false

end

/-! ## Unification -/

/-- What two texts agree on: an empty text agrees with any, and another one with itself. -/
def unifyText? (a b : String) : Option String :=
  if a.isEmpty then some b
  else if b.isEmpty then some a
  else if a = b then some a
  else none

mutual

/-- The gloss that has all that two glosses have, if they do not contradict each other. -/
def unify? : Gloss → Gloss → Option Gloss
  | ⟨form, tags, meaning, morphemes⟩, other => do
    let form ← unifyText? form other.form
    let meaning ← unifyText? meaning other.meaning
    let tags ← tags.unify? other.tags
    let morphemes ←
      (if morphemes.isEmpty then some other.morphemes
      else if other.morphemes.isEmpty then some morphemes
      else unifyAll? morphemes other.morphemes)
    some ⟨form, tags, meaning, morphemes⟩

/-- Unifies the glosses of two lists one by one. -/
def unifyAll? : List Gloss → List Gloss → Option (List Gloss)
  | [], [] => some []
  | a :: as, b :: bs => do
    let g ← unify? a b
    let gs ← unifyAll? as bs
    some (g :: gs)
  | _, _ => none

end

/-! ## Marks -/

mutual

/-- Writes the tags and the meaning of a mark, where it has any, over those of a gloss. The same
is done to the morphemes if the mark has as many as the gloss. -/
def overlay : Gloss → Gloss → Gloss
  | ⟨form, tags, meaning, morphemes⟩, mark =>
    ⟨form, if mark.tags.isEmpty then tags else mark.tags,
      if mark.meaning.isEmpty then meaning else mark.meaning,
      if mark.morphemes.length = morphemes.length then overlayAll morphemes mark.morphemes
      else morphemes⟩

/-- Writes marks over the glosses of a list, one each. -/
def overlayAll : List Gloss → List Gloss → List Gloss
  | g :: gs, m :: ms => g.overlay m :: overlayAll gs ms
  | gs, _ => gs

end

/-! ## Order -/

mutual

/-- The order of glosses by form, tags, meaning and morphemes. -/
def order : Gloss → Gloss → Ordering
  | ⟨form, tags, meaning, morphemes⟩, other =>
    ((compare form other.form).then (compare tags.toList other.tags.toList)).then
      ((compare meaning other.meaning).then (orderAll morphemes other.morphemes))

/-- The order of lists of glosses; a list comes after those it begins with. -/
def orderAll : List Gloss → List Gloss → Ordering
  | [], [] => .eq
  | [], _ :: _ => .lt
  | _ :: _, [] => .gt
  | a :: as, b :: bs => (a.order b).then (orderAll as bs)

end

instance : Ord Gloss := ⟨order⟩

/-! ## Lists of glosses -/

theorem allResolved_eq_all (gs : List Gloss) : allResolved gs = gs.all isResolved := by
  induction gs with
  | nil => rfl
  | cons g gs ih => simp [allResolved, ih]

theorem isResolved_eq (g : Gloss) :
    g.isResolved = if g.morphemes.isEmpty then !g.meaning.isEmpty else g.morphemes.all isResolved := by
  obtain ⟨f, t, m, ms⟩ := g
  simp [isResolved, allResolved_eq_all]

end Gloss

end Interlinear
