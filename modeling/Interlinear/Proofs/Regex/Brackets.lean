import Interlinear.Lists
import Interlinear.Proofs.Regex.Escape
import Interlinear.Regex.Brackets

set_option autoImplicit false

/-! # Classes between parentheses

A class ends with its own bracket, so it is the same in a longer text. Two places need care: a colon
after an opening bracket may be part of a name or stand for itself, which is decided by what follows
far ahead, and a hyphen is judged by the character after the next one. -/

namespace Interlinear.Regex

/-! ## Named classes -/

theorem close_not_mem_of_namedClass? {name : List Char} {k : NamedClass}
    (h : namedClass? name = some k) : ')' ∉ name := by
  rw [namedClass?] at h
  split at h
  case h_15 => contradiction
  all_goals
    rename_i heq
    have hname := congrArg String.toList heq
    rw [String.toList_ofList] at hname
    rw [hname]
    decide

/-- Reads the name of a class, after the colon and the sign before it. -/
def namedTo (negated : Bool) (cs : List Char) : Option (ClassTree × List Char) :=
  match cs.dropWhile (· != ':') with
  | ':' :: ']' :: rest => (namedClass? (cs.takeWhile (· != ':'))).map (.named · negated, rest)
  | _ => none

theorem namedInBrackets?_colon (cs : List Char) :
    namedInBrackets? (':' :: cs)
      = if cs.head? = some '^' then namedTo true cs.tail else namedTo false cs := by
  by_cases hhead : cs.head? = some '^'
  · obtain ⟨ds, rfl⟩ := List.head?_eq_some_iff.1 hhead
    rfl
  · have hsign : ∀ ds, cs ≠ '^' :: ds := by
      rintro ds rfl
      exact hhead rfl
    rw [if_neg hhead]
    simp only [namedInBrackets?]
    rfl

theorem namedTo_close (negated : Bool) (cs more : List Char) :
    namedTo negated (cs ++ ')' :: more)
      = (namedTo negated cs).map fun (t, rest) => (t, rest ++ ')' :: more) := by
  rw [namedTo, namedTo]
  rcases h : cs.dropWhile (· != ':') with _ | ⟨c, ds⟩
  · -- A name that is not ended goes on across the parenthesis, and then no class has it.
    have hnone : namedClass? ((cs ++ ')' :: more).takeWhile (· != ':')) = none := by
      refine Option.eq_none_iff_forall_ne_some.2 fun k hk => close_not_mem_of_namedClass? hk ?_
      rw [List.takeWhile_append_of_pos (List.dropWhile_eq_nil_iff.1 h)]
      exact List.mem_append_right _ List.mem_cons_self
    rw [hnone]
    split <;> rfl
  · have hne : cs.dropWhile (· != ':') ≠ [] := by simp [h]
    rw [List.dropWhile_append_of_ne_nil hne, List.takeWhile_append_of_ne_nil hne, h,
      List.cons_append]
    by_cases hend : c = ':' ∧ ds.head? = some ']'
    · obtain ⟨rfl, hhead⟩ := hend
      obtain ⟨rest, rfl⟩ := List.head?_eq_some_iff.1 hhead
      show Option.map _ _ = Option.map _ (Option.map _ _)
      rw [Option.map_map]
      rfl
    · split
      next heq => cases ds <;> grind
      next =>
        split
        next heq => grind
        next => rfl

theorem namedInBrackets?_close (cs more : List Char) :
    namedInBrackets? (cs ++ ')' :: more)
      = (namedInBrackets? cs).map fun (t, rest) => (t, rest ++ ')' :: more) := by
  rcases cs with _ | ⟨c, cs⟩
  · rfl
  by_cases hc : c = ':'
  · subst hc
    rw [List.cons_append, namedInBrackets?_colon, namedInBrackets?_colon]
    cases cs with
    | nil => exact namedTo_close false [] more
    | cons d ds =>
      rw [List.cons_append, List.head?_cons, List.head?_cons]
      split
      · exact namedTo_close true ds more
      · exact namedTo_close false (d :: ds) more
  · rw [List.cons_append, namedInBrackets?.eq_def, namedInBrackets?.eq_def]
    split
    next heq => exact absurd (List.cons.inj heq).1 hc
    next =>
      split
      next heq => exact absurd (List.cons.inj heq).1 hc
      next => rfl

/-! ## Characters and ranges -/

theorem contained_classAtom (spaced : Bool) : Contained (classAtom spaced) := by
  intro cs t rest h
  rw [classAtom.eq_def] at h
  split at h
  next => contradiction
  next cs => exact (contained_escape spaced).of_eq (fun more => rfl) h
  next c cs hc =>
    refine (contained_rest _).of_eq (fun more => ?_) h
    rw [List.cons_append, classAtom]
    exact hc

/-- The character that follows makes no range of the one before it: it is no hyphen, or a hyphen
before a bracket or another hyphen. -/
def MakesNoRange (spaced : Bool) (c : Char) (ds : List Char) : Prop :=
  c ≠ '-' ∨ peekSpaced spaced (c :: ds) = some ']' ∨ peekSpaced spaced (c :: ds) = some '-'

instance (spaced : Bool) (c : Char) (ds : List Char) : Decidable (MakesNoRange spaced c ds) :=
  inferInstanceAs (Decidable (_ ∨ _ ∨ _))

theorem makesNoRange_append_iff {spaced : Bool} {c : Char} {ds : List Char}
    (h : MakesNoRange spaced c ds ∨ skip spaced ds ≠ []) (more : List Char) :
    MakesNoRange spaced c (ds ++ more) ↔ MakesNoRange spaced c ds := by
  rw [MakesNoRange, MakesNoRange] at *
  by_cases hc : c = '-'
  · rw [peekSpaced_append (by grind) more]
  · simp [hc]

/-- The range between two characters. -/
def rangeOf? : Token → Token → Option ClassTree
  | .char lo _, .char hi _ => if lo ≤ hi then some (.range lo hi) else none
  | _, _ => none

theorem classItem_eq {spaced : Bool} {cs after ds : List Char} {first : Token} {c : Char}
    (hfirst : classAtom spaced cs = some (first, after)) (hs : skip spaced after = c :: ds) :
    classItem spaced cs =
      if MakesNoRange spaced c ds then first.classPart?.map (·, c :: ds)
      else reading (classAtom spaced) (rangeOf? first) id (skip spaced ds) := by
  rw [classItem, hfirst]
  simp only [Option.bind_eq_bind, Option.bind_some, hs]
  show (if MakesNoRange spaced c ds then _ else _) = _
  split
  · cases first.classPart? <;> rfl
  · rw [reading]
    refine Option.bind_congr fun item _ => ?_
    obtain ⟨last, rest⟩ := item
    cases first <;> cases last <;> first | rfl | (dsimp only [rangeOf?]; split <;> rfl)

theorem contained_classItem (spaced : Bool) : Contained (classItem spaced) := by
  intro cs t rest h
  have hitem := h
  rw [classItem] at hitem
  obtain ⟨⟨first, after⟩, hfirst, hitem⟩ := Option.bind_eq_some_iff.1 hitem
  dsimp only at hitem
  split at hitem
  next => contradiction
  next c ds hs =>
    clear hitem
    rw [classItem_eq hfirst hs] at h
    have hafter : after ≠ [] := ne_nil_of_skip (by rw [hs]; simp)
    have hfirst := (contained_classAtom spaced).undisturbed hfirst hafter
    have heq := fun more => classItem_eq (hfirst more) (skip_close_of_cons hs more)
    split at h
    next hc =>
      obtain ⟨part, hpart, h⟩ := Option.map_eq_some_iff.1 h
      obtain ⟨rfl, rfl⟩ := Prod.mk.inj h
      refine Or.inl fun more => ?_
      rw [heq, if_pos ((makesNoRange_append_iff (Or.inl hc) _).2 hc), hpart]
      rfl
    next hc =>
      have hds : skip spaced ds ≠ [] := by
        intro hnil
        rw [hnil] at h
        contradiction
      obtain ⟨e, es, hes⟩ := List.exists_cons_of_ne_nil hds
      refine ((contained_classAtom spaced).reading (rangeOf? first) id).of_eq (fun more => ?_) h
      rw [heq, if_neg (mt (makesNoRange_append_iff (Or.inr hds) _).1 hc), skip_close_of_cons hes,
        hes]
      rfl

/-! ## The start of a class -/

/-- Reads the start of a class after its sign: what stands for itself there. -/
def classOpening (spaced negated : Bool) (cs : List Char) : Option (Bool × Gathered × List Char) :=
  let (hyphens, cs) := takeSpaced (· == '-') spaced false cs
  let gathered := hyphens.foldl (fun g c => g.push (.range c c) 0) Gathered.empty
  match cs with
  | [] => none
  | ']' :: ds =>
    if hyphens.isEmpty then
      match skip spaced ds with
      | [] => none
      | ds => some (negated, gathered.push (.range ']' ']') 0, ds)
    else some (negated, gathered, cs)
  | _ => some (negated, gathered, cs)

theorem classStart_eq (spaced : Bool) (cs : List Char) :
    classStart spaced cs =
      if (skip spaced cs).head? = some '^'
      then classOpening spaced true (skip spaced (skip spaced cs).tail)
      else classOpening spaced false (skip spaced cs) := by
  by_cases hhead : (skip spaced cs).head? = some '^'
  · obtain ⟨ds, hs⟩ := List.head?_eq_some_iff.1 hhead
    rw [if_pos hhead]
    simp only [classStart, hs]
    rfl
  · have hsign : ∀ ds, skip spaced cs ≠ '^' :: ds := by
      intro ds hs
      exact hhead (List.head?_eq_some_iff.2 ⟨ds, hs⟩)
    rw [if_neg hhead]
    simp only [classStart]
    rfl

theorem undisturbed_classOpening {spaced negated negated' : Bool} {gathered : Gathered}
    {cs rest : List Char}
    (h : classOpening spaced negated cs = some (negated', gathered, rest)) (more : List Char) :
    classOpening spaced negated (cs ++ ')' :: more)
      = some (negated', gathered, rest ++ ')' :: more) := by
  rcases htake : takeSpaced (· == '-') spaced false cs with ⟨hyphens, after⟩
  rw [classOpening, htake] at h
  dsimp only at h
  -- An empty rest has no bracket that closes the class.
  have hafter : after ≠ [] := by
    rintro rfl
    contradiction
  rw [classOpening, takeSpaced_append htake hafter]
  split at h
  next => contradiction
  next ds =>
    rw [List.cons_append]
    show (if hyphens.isEmpty then _ else _) = _
    split at h
    next hnil =>
      rw [if_pos hnil]
      split at h
      next => contradiction
      next es hes =>
        obtain ⟨e, es, hes⟩ := List.exists_cons_of_ne_nil hes
        obtain ⟨rfl, rfl, rfl⟩ : _ ∧ _ ∧ _ := by simpa using h
        rw [skip_close_of_cons hes, hes]
        rfl
    next hnil =>
      obtain ⟨rfl, rfl, rfl⟩ : _ ∧ _ ∧ _ := by simpa using h
      rw [if_neg hnil]
      rfl
  next hbracket =>
    obtain ⟨e, es, rfl⟩ := List.exists_cons_of_ne_nil hafter
    obtain ⟨rfl, rfl, rfl⟩ : _ ∧ _ ∧ _ := by simpa using h
    have he : e ≠ ']' := by
      rintro rfl
      exact hbracket es rfl
    simp [he]

theorem undisturbed_classStart {spaced negated : Bool} {gathered : Gathered} {cs rest : List Char}
    (h : classStart spaced cs = some (negated, gathered, rest)) (more : List Char) :
    classStart spaced (cs ++ ')' :: more) = some (negated, gathered, rest ++ ')' :: more) := by
  have hnil : ∀ negated, classOpening spaced negated [] = none := fun _ => rfl
  rw [classStart_eq] at h ⊢
  rcases hs : skip spaced cs with _ | ⟨c, ds⟩
  · rw [hs] at h
    contradiction
  · rw [hs, List.head?_cons] at h
    rw [skip_close_of_cons hs, List.head?_cons]
    split at h
    next hsign =>
      rw [List.tail_cons] at h
      rw [if_pos hsign, List.tail_cons]
      rcases hds : skip spaced ds with _ | ⟨e, es⟩
      · rw [hds] at h
        contradiction
      · rw [hds] at h
        rw [skip_close_of_cons hds]
        exact undisturbed_classOpening h more
    next hsign =>
      rw [if_neg hsign]
      exact undisturbed_classOpening h more

/-! ## The rest of a class -/

theorem classBody_nil (spaced : Bool) (bound : Nat) (pending : Option Pending)
    (gathered : Gathered) : classBody spaced bound pending gathered [] = none := by
  cases bound <;> cases spaced <;> rfl

/-- The operation that is written with a doubled sign, and what follows it. -/
def setOp? : List Char → Option (SetOp × List Char)
  | '&' :: '&' :: rest => some (.inter, rest)
  | '-' :: '-' :: rest => some (.diff, rest)
  | '~' :: '~' :: rest => some (.symmDiff, rest)
  | _ => none

theorem setOp?_eq_none {c d : Char} {ds : List Char}
    (h : ∀ sign ∈ ['&', '-', '~'], ¬(c = sign ∧ d = sign)) : setOp? (c :: d :: ds) = none := by
  rw [setOp?.eq_def]
  split
  next heq => simp_all
  next heq => simp_all
  next heq => simp_all
  next => rfl

theorem setOp?_close (c : Char) (cs more : List Char) :
    setOp? (c :: (cs ++ ')' :: more))
      = (setOp? (c :: cs)).map fun (o, rest) => (o, rest ++ ')' :: more) := by
  cases cs with
  | nil => simp [setOp?]
  | cons d ds =>
      by_cases h : ∃ sign ∈ ['&', '-', '~'], c = sign ∧ d = sign
      · obtain ⟨sign, hsign, rfl, rfl⟩ := h
        simp only [List.mem_cons, List.not_mem_nil, or_false] at hsign
        rcases hsign with rfl | rfl | rfl <;> rfl
      · push Not at h
        have hnone : ∀ sign ∈ ['&', '-', '~'], ¬(c = sign ∧ d = sign) :=
          fun sign hsign hboth => h sign hsign hboth.1 hboth.2
        rw [List.cons_append, setOp?_eq_none hnone, setOp?_eq_none hnone]
        rfl

theorem classBody_end {spaced : Bool} {cs ds : List Char} (hs : skip spaced cs = ']' :: ds)
    (bound : Nat) (pending : Option Pending) (gathered : Gathered) :
    classBody spaced (bound + 1) pending gathered cs
      = some ((Pending.close pending gathered).1, (Pending.close pending gathered).2, ds) := by
  rw [classBody.eq_def]
  dsimp only
  rw [hs]
  rfl

theorem classBody_open {spaced : Bool} {cs ds : List Char} (hs : skip spaced cs = '[' :: ds)
    (bound : Nat) (pending : Option Pending) (gathered : Gathered) :
    classBody spaced (bound + 1) pending gathered cs =
      match namedInBrackets? ds with
      | some (part, rest) => classBody spaced bound pending (gathered.push part 0) rest
      | none => (classStart spaced ds).bind fun (negated, inner, rest) =>
        (classBody spaced bound none inner rest).bind fun (tree, depth, rest) =>
          classBody spaced bound pending (gathered.push (.bracket tree negated) (depth + 1))
            rest := by
  rw [classBody.eq_def]
  dsimp only
  rw [hs]
  rfl

theorem classBody_eq {spaced : Bool} {cs ds : List Char} {c : Char} (hs : skip spaced cs = c :: ds)
    (hclose : c ≠ ']') (hopen : c ≠ '[') (bound : Nat) (pending : Option Pending)
    (gathered : Gathered) :
    classBody spaced (bound + 1) pending gathered cs =
      match setOp? (c :: ds) with
      | some (o, rest) =>
        let (tree, depth) := Pending.close pending gathered
        classBody spaced bound (some ⟨tree, depth, o⟩) .empty rest
      | none => (classItem spaced (c :: ds)).bind fun (part, rest) =>
        classBody spaced bound pending (gathered.push part 0) rest := by
  rw [classBody.eq_def]
  dsimp only
  rw [hs]
  split
  next heq => cases heq
  next heq => exact absurd (List.cons.inj heq).1 hclose
  next heq => exact absurd (List.cons.inj heq).1 hopen
  next heq => rw [heq]; rfl
  next heq => rw [heq]; rfl
  next heq => rw [heq]; rfl
  next hnil _ _ hinter hdiff hsymm =>
    have hnone : setOp? (c :: ds) = none := by
      rw [setOp?.eq_def]
      split
      next heq => exact absurd heq (hinter _)
      next heq => exact absurd heq (hdiff _)
      next heq => exact absurd heq (hsymm _)
      next => rfl
    rw [hnone]
    rfl

theorem undisturbed_classBody {spaced : Bool} {bound bound' : Nat} {pending : Option Pending}
    {gathered : Gathered} {cs rest : List Char} {t : ClassTree} {depth : Nat}
    (hbound : bound ≤ bound')
    (h : classBody spaced bound pending gathered cs = some (t, depth, rest)) (more : List Char) :
    classBody spaced bound' pending gathered (cs ++ ')' :: more)
      = some (t, depth, rest ++ ')' :: more) := by
  induction bound generalizing bound' pending gathered cs rest t depth with
  | zero => contradiction
  | succ bound ih =>
      obtain ⟨bound', rfl⟩ : ∃ n, bound' = n + 1 := ⟨bound' - 1, by omega⟩
      have hbound := Nat.le_of_succ_le_succ hbound
      rcases hs : skip spaced cs with _ | ⟨c, ds⟩
      · rw [classBody, hs] at h
        contradiction
      have hlong := skip_close_of_cons hs more
      by_cases hclose : c = ']'
      · subst hclose
        rw [classBody_end hs] at h
        obtain ⟨rfl, rfl, rfl⟩ : _ ∧ _ ∧ _ := by simpa using h
        exact classBody_end hlong bound' pending gathered
      by_cases hopen : c = '['
      · -- A bracket opens a name or a class of its own.
        subst hopen
        rw [classBody_open hs] at h
        rw [classBody_open hlong, namedInBrackets?_close]
        rcases hnamed : namedInBrackets? ds with _ | ⟨part, left⟩
        · rw [hnamed] at h
          obtain ⟨⟨negated, inner, after⟩, hstart, h⟩ := Option.bind_eq_some_iff.1 h
          obtain ⟨⟨tree, depth', after'⟩, hbody, h⟩ := Option.bind_eq_some_iff.1 h
          simp only [Option.map_none, undisturbed_classStart hstart, Option.bind_some,
            ih hbound hbody]
          exact ih hbound h
        · rw [hnamed] at h
          exact ih hbound h
      rw [classBody_eq hs hclose hopen] at h
      rw [classBody_eq hlong hclose hopen, setOp?_close]
      rcases hop : setOp? (c :: ds) with _ | ⟨o, left⟩
      · rw [hop] at h
        obtain ⟨⟨part, after⟩, hpart, h⟩ := Option.bind_eq_some_iff.1 h
        have hafter : after ≠ [] := by
          rintro rfl
          cases (classBody_nil _ _ _ _).symm.trans h
        have hitem := (contained_classItem spaced).undisturbed hpart hafter more
        rw [List.cons_append] at hitem
        simp only [Option.map_none, hitem, Option.bind_some]
        exact ih hbound h
      · rw [hop] at h
        exact ih hbound h

theorem contained_bracketed (spaced : Bool) : Contained (bracketed spaced) := by
  intro cs t rest h
  rw [bracketed] at h
  obtain ⟨⟨negated, gathered, after⟩, hstart, h⟩ := Option.bind_eq_some_iff.1 h
  obtain ⟨⟨tree, depth, rest'⟩, hbody, h⟩ := Option.bind_eq_some_iff.1 h
  obtain ⟨rfl, rfl⟩ := Prod.mk.inj (Option.some.inj h)
  refine Or.inl fun more => ?_
  have hbound : cs.length + 1 ≤ (cs ++ ')' :: more).length + 1 := by
    rw [List.length_append]
    omega
  rw [bracketed, undisturbed_classStart hstart]
  show (classBody _ _ _ _ _).bind _ = _
  rw [undisturbed_classBody hbound hbody]
  rfl

end Interlinear.Regex
