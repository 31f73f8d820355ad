import Interlinear.Proofs.Regex.Passing.Escape

set_option autoImplicit false

/-! # Classes that need what follows them

A class of which the closing bracket is missing takes the parenthesis behind it for one of its
characters. Its parts may end at the parenthesis (`ReachesClose`), but the class itself then goes on
beyond it (`passesClose_bracketed`). There is one lemma for each kind of part, which says that what
follows the part is read alone or past the parenthesis (`ClosesUnder`). -/

namespace Interlinear.Regex

/-! ## Parts -/

theorem classAtom_close {spaced : Bool} {cs more rest : List Char} {t : Token} (hmore : '\n' ∉ more)
    (hnone : classAtom spaced cs = none)
    (hread : classAtom spaced (cs ++ ')' :: more) = some (t, rest)) :
    rest <:+ more ∨ t = .place (.word .edge) := by
  rw [classAtom.eq_def] at hnone
  split at hnone
  next =>
    obtain ⟨-, rfl⟩ := Prod.mk.inj (Option.some.inj hread)
    exact Or.inl List.suffix_rfl
  next => exact (escape_close hmore hnone hread).imp_right And.left
  next => cases hnone

/-- The character after the next one stays what it is, or the parenthesis takes its place. -/
theorem peekSpaced_close (spaced : Bool) (c : Char) (ds more : List Char) :
    peekSpaced spaced (c :: (ds ++ ')' :: more)) = some ')' ∨
      peekSpaced spaced (c :: (ds ++ ')' :: more)) = peekSpaced spaced (c :: ds) := by
  cases spaced with
  | false =>
      cases ds with
      | nil => exact Or.inl rfl
      | cons d ds => exact Or.inr rfl
  | true =>
      have hclose : (')' :: more).dropWhile Text.isBlank = ')' :: more :=
        List.dropWhile_cons_of_neg (by simp [isBlank_close])
      simp only [peekSpaced, if_true, List.dropWhile_append]
      rcases hds : ds.dropWhile Text.isBlank with _ | ⟨d, es⟩
      · simp [hclose]
      · by_cases hd : d = '#'
        · subst hd
          rcases hes : es.dropWhile Text.isBlank with _ | ⟨e, fs⟩
          · simp [List.dropWhile_append, hes, hclose]
          · simp [List.dropWhile_append, hes]
        · simp

theorem not_makesNoRange_close {spaced : Bool} {c : Char} {ds : List Char}
    (h : ¬MakesNoRange spaced c ds) (more : List Char) :
    ¬MakesNoRange spaced c (ds ++ ')' :: more) := by
  rw [MakesNoRange] at h ⊢
  rcases peekSpaced_close spaced c ds more with hpeek | hpeek
  · rw [hpeek]
    simpa using (not_or.1 h).1
  · rwa [hpeek]

/-- A place stands for nothing in a class. -/
theorem classItem_of_place {spaced : Bool} {cs after : List Char} {p : WrittenPlace}
    (h : classAtom spaced cs = some (.place p, after)) : classItem spaced cs = none := by
  rcases hs : skip spaced after with _ | ⟨c, ds⟩
  · rw [classItem, h]
    simp only [Option.bind_eq_bind, Option.bind_some, hs]
  · rw [classItem_eq h hs]
    split
    · rfl
    · rw [reading]
      cases classAtom spaced (skip spaced ds) <;> rfl

theorem passesClose_rangeEnd (spaced : Bool) (first : Token) :
    PassesClose (reading (classAtom spaced) (rangeOf? first) id) := by
  intro cs more x rest hmore hnone hread
  cases halone : classAtom spaced cs with
  | none =>
      obtain ⟨⟨last, after⟩, hlast, hread⟩ := Option.bind_eq_some_iff.1 hread
      obtain ⟨range, hrange, hread⟩ := Option.bind_eq_some_iff.1 hread
      obtain ⟨-, rfl⟩ := Prod.mk.inj (Option.some.inj hread)
      rcases classAtom_close hmore halone hlast with hrest | rfl
      · exact hrest
      · cases first <;> cases hrange
  | some item =>
      obtain ⟨last, after⟩ := item
      rw [reading, halone, Option.bind_some] at hnone
      have hrange : rangeOf? first last = none := by
        rcases hrange : rangeOf? first last with _ | range
        · rfl
        · rw [hrange] at hnone
          cases hnone
      rcases contained_classAtom spaced _ _ _ halone with hsame | ⟨-, hgone⟩
      · rw [reading, hsame more, Option.bind_some, hrange] at hread
        cases hread
      · rw [reading, hgone more hmore, Option.bind_some, hrange] at hread
        cases hread

theorem reachesClose_classItem (spaced : Bool) : ReachesClose (classItem spaced) := by
  intro cs more x rest hmore hnone hread
  obtain ⟨⟨first, after⟩, hfirst, -⟩ := Option.bind_eq_some_iff.1 hread
  have hplace : ∀ p, first ≠ .place p := by
    rintro p rfl
    rw [classItem_of_place hfirst] at hread
    cases hread
  have hafter : skip spaced after ≠ [] := by
    intro hs
    rw [classItem, hfirst] at hread
    simp only [Option.bind_eq_bind, Option.bind_some, hs] at hread
    cases hread
  cases halone : classAtom spaced cs with
  | none =>
      rcases classAtom_close hmore halone hfirst with hpassed | hfirst
      · exact List.suffix_cons_of_suffix ((classItem_suffix hfirst hread).trans hpassed)
      · exact absurd hfirst (hplace _)
  | some item =>
      obtain ⟨first', left⟩ := item
      rcases contained_classAtom spaced _ _ _ halone with hsame | ⟨-, hgone⟩
      · obtain ⟨rfl, rfl⟩ := Prod.mk.inj (Option.some.inj ((hsame more).symm.trans hfirst))
        rcases hs : skip spaced left with _ | ⟨c, ds⟩
        · -- The parenthesis is the character behind the first one, and makes no range of it.
          have hclose := (skip_close_of_nil hs hmore).resolve_right hafter
          have hnorange : MakesNoRange spaced ')' more := Or.inl (by decide)
          rw [classItem_eq hfirst hclose, if_pos hnorange] at hread
          obtain ⟨part, -, hread⟩ := Option.map_eq_some_iff.1 hread
          obtain ⟨-, rfl⟩ := Prod.mk.inj hread
          exact List.suffix_rfl
        · have hlong := skip_close_of_cons hs more
          rw [classItem_eq halone hs] at hnone
          rw [classItem_eq hfirst hlong] at hread
          by_cases hrange : MakesNoRange spaced c ds
          · rw [if_pos ((makesNoRange_append_iff (Or.inl hrange) _).2 hrange)] at hread
            rw [if_pos hrange] at hnone
            rw [Option.map_eq_none_iff.1 hnone] at hread
            cases hread
          · rw [if_neg (not_makesNoRange_close hrange more)] at hread
            rw [if_neg hrange] at hnone
            rcases skip_close spaced ds with hds | ⟨-, hds⟩
            · rw [hds] at hread
              exact List.suffix_cons_of_suffix (passesClose_rangeEnd spaced _ hmore hnone hread)
            · rw [hds more hmore] at hread
              cases hread
      · obtain ⟨-, rfl⟩ := Prod.mk.inj (Option.some.inj ((hgone more hmore).symm.trans hfirst))
        exact absurd (skip_nil spaced) hafter

/-- The longest run at the end of a text ends at the parenthesis, or in a comment with it. -/
theorem takeSpaced_close {p : Char → Bool} {spaced inComment : Bool} {cs : List Char}
    (h : (takeSpaced p spaced inComment cs).2 = []) (more : List Char) :
    (takeSpaced p spaced inComment (cs ++ ')' :: more)).2 <:+ ')' :: more := by
  induction cs generalizing inComment with
  | nil => exact takeSpaced_suffix p spaced inComment _
  | cons c cs ih =>
      rw [takeSpaced] at h
      rw [List.cons_append, takeSpaced]
      split at h
      next hc =>
        rw [if_pos hc]
        exact ih h
      next hc =>
        rw [if_neg hc]
        split at h
        next hc =>
          rw [if_pos hc]
          exact ih h
        next hc =>
          rw [if_neg hc]
          split at h
          next hc =>
            rw [if_pos hc]
            exact ih h
          next hc =>
            rw [if_neg hc]
            split at h
            next hc =>
              rw [if_pos hc]
              exact ih h
            next => cases h

theorem classOpening_close {spaced negated negated' : Bool} {gathered : Gathered}
    {cs more rest : List Char} (hmore : '\n' ∉ more) (hnone : classOpening spaced negated cs = none)
    (hread : classOpening spaced negated (cs ++ ')' :: more) = some (negated', gathered, rest)) :
    rest <:+ ')' :: more := by
  rcases htake : takeSpaced (· == '-') spaced false cs with ⟨hyphens, after⟩
  by_cases hafter : after = []
  · have hend := takeSpaced_close (p := (· == '-')) (by rw [htake]; exact hafter) more
    exact (classOpening_suffix hread).trans hend
  · rw [classOpening, htake] at hnone
    rw [classOpening, takeSpaced_append htake hafter] at hread
    dsimp only at hnone hread
    split at hnone
    next => exact absurd rfl hafter
    next ds =>
      split at hnone
      next hnil =>
        split at hnone
        next hs =>
          -- The bracket stands for itself, and nothing but spacing follows it.
          rw [List.cons_append] at hread
          simp only [hnil, if_true] at hread
          rcases skip_close_of_nil hs hmore with hclose | hclose
          · rw [hclose] at hread
            obtain ⟨-, -, rfl⟩ : _ ∧ _ ∧ _ := by simpa using hread
            exact List.suffix_rfl
          · rw [hclose] at hread
            cases hread
        next => cases hnone
      next => cases hnone
    next => cases hnone

theorem classStart_close {spaced negated : Bool} {gathered : Gathered} {cs more rest : List Char}
    (hmore : '\n' ∉ more) (hnone : classStart spaced cs = none)
    (hread : classStart spaced (cs ++ ')' :: more) = some (negated, gathered, rest)) :
    rest <:+ ')' :: more := by
  have hnil : ∀ negated, classOpening spaced negated [] = none := fun _ => rfl
  rcases hs : skip spaced cs with _ | ⟨c, ds⟩
  · rcases skip_close_of_nil hs hmore with hclose | hclose
    · rw [classStart_eq, hclose, List.head?_cons, if_neg (by decide)] at hread
      exact (classOpening_suffix hread).trans (takeSpaced_suffix _ _ _ _)
    · rw [classStart_eq, hclose] at hread
      cases hread
  · have hlong := skip_close_of_cons hs more
    rw [classStart_eq, hs, List.head?_cons] at hnone
    rw [classStart_eq, hlong, List.head?_cons] at hread
    split at hnone
    next hsign =>
      rw [if_pos hsign, List.tail_cons] at hread
      rw [List.tail_cons] at hnone
      rcases skip_close spaced ds with hds | ⟨-, hds⟩
      · rw [hds] at hread
        exact classOpening_close hmore hnone hread
      · rw [hds more hmore, hnil] at hread
        cases hread
    next hsign =>
      rw [if_neg hsign, ← List.cons_append] at hread
      exact classOpening_close hmore hnone hread

theorem classStart_alone {spaced negated : Bool} {gathered : Gathered} {cs more rest : List Char}
    (hmore : '\n' ∉ more)
    (hread : classStart spaced (cs ++ ')' :: more) = some (negated, gathered, rest)) :
    (∃ left, classStart spaced cs = some (negated, gathered, left) ∧ rest = left ++ ')' :: more) ∨
      rest <:+ ')' :: more := by
  cases halone : classStart spaced cs with
  | none => exact Or.inr (classStart_close hmore halone hread)
  | some start =>
      obtain ⟨negated', gathered', left⟩ := start
      have hsame := (undisturbed_classStart halone more).symm.trans hread
      obtain ⟨rfl, rfl, rfl⟩ : _ ∧ _ ∧ _ := by simpa using hsame
      exact Or.inl ⟨left, rfl, rfl⟩

/-! ## The rest of a class -/

/-- Where the parenthesis is all that is left of a class, it is read as a part of it. -/
theorem suffix_of_classBody {spaced : Bool} {bound : Nat} {pending : Option Pending}
    {gathered : Gathered} {cs more rest : List Char} {t : ClassTree} {depth : Nat}
    (h : classBody spaced bound pending gathered cs = some (t, depth, rest))
    (hcs : cs <:+ ')' :: more) : rest <:+ more := by
  obtain ⟨c, ds, hs, hrest⟩ := exists_of_classBody h
  exact hrest.trans (List.suffix_of_cons_suffix_cons ((suffix_of_skip hs).trans hcs))

/-- The rest of a class with a parenthesis behind it is read as it is alone, under any bound that is
greater than its length, or the parenthesis is read as a part of the class. -/
def AloneOrPast (spaced : Bool) (pending : Option Pending) (gathered : Gathered)
    (cs more : List Char) (t : ClassTree) (depth : Nat) (rest : List Char) : Prop :=
  (∃ left, rest = left ++ ')' :: more ∧ ∀ n, cs.length < n →
    classBody spaced n pending gathered cs = some (t, depth, left)) ∨ rest <:+ more

/-- The rest of any class with the parenthesis behind it, if it can be read under a bound, is read
alone or past the parenthesis. -/
def ClosesUnder (spaced : Bool) (more : List Char) (bound : Nat) : Prop :=
  ∀ {pending : Option Pending} {gathered : Gathered} {cs : List Char} {t : ClassTree} {depth : Nat}
    {rest : List Char},
    classBody spaced bound pending gathered (cs ++ ')' :: more) = some (t, depth, rest) →
      AloneOrPast spaced pending gathered cs more t depth rest

section

variable {spaced : Bool} {bound : Nat} {pending pending' : Option Pending}
  {gathered gathered' : Gathered} {cs ds left more rest : List Char} {c : Char} {t : ClassTree}
  {depth : Nat}

/-- If the class goes on with what is left behind a part of it, it does so alone. -/
theorem AloneOrPast.before (h : AloneOrPast spaced pending' gathered' left more t depth rest)
    (hs : skip spaced cs = c :: ds) (hleft : left <:+ ds)
    (hgoes : ∀ n, ds.length < n → classBody spaced (n + 1) pending gathered cs
      = classBody spaced n pending' gathered' left) :
    AloneOrPast spaced pending gathered cs more t depth rest := by
  refine h.imp_left ?_
  rintro ⟨left', hrest, halone⟩
  refine ⟨left', hrest, fun n hn => ?_⟩
  obtain ⟨n, rfl⟩ := Nat.exists_eq_succ_of_ne_zero (Nat.ne_zero_of_lt hn)
  have hcs := (suffix_of_skip hs).length_le
  rw [List.length_cons] at hcs
  have hds : ds.length < n := by omega
  rw [hgoes n hds, halone n (Nat.lt_of_le_of_lt hleft.length_le hds)]

/-- The closing bracket. -/
theorem aloneOrPast_of_end (hs : skip spaced cs = ']' :: ds)
    (hread : classBody spaced (bound + 1) pending gathered (cs ++ ')' :: more)
      = some (t, depth, rest)) : AloneOrPast spaced pending gathered cs more t depth rest := by
  rw [classBody_end (skip_close_of_cons hs more)] at hread
  obtain ⟨rfl, rfl, rfl⟩ : _ ∧ _ ∧ _ := by simpa using hread
  refine Or.inl ⟨ds, rfl, fun n hn => ?_⟩
  obtain ⟨n, rfl⟩ := Nat.exists_eq_succ_of_ne_zero (Nat.ne_zero_of_lt hn)
  exact classBody_end hs n pending gathered

namespace ClosesUnder

/-- A class that is named within the class. -/
theorem named (ih : ClosesUnder spaced more bound) {part : ClassTree}
    (hs : skip spaced cs = '[' :: ds) (hnamed : namedInBrackets? ds = some (part, left))
    (hread : classBody spaced (bound + 1) pending gathered (cs ++ ')' :: more)
      = some (t, depth, rest)) : AloneOrPast spaced pending gathered cs more t depth rest := by
  rw [classBody_open (skip_close_of_cons hs more), namedInBrackets?_close, hnamed] at hread
  refine (ih hread).before hs (leavesEnd_namedInBrackets? _ _ _ hnamed) fun n _ => ?_
  rw [classBody_open hs, hnamed]

/-- A class within the class: it is read alone, and so is what follows it, unless the parenthesis is
read within it or behind it. -/
theorem nested (ih : ClosesUnder spaced more bound) (hmore : '\n' ∉ more)
    (hs : skip spaced cs = '[' :: ds) (hnamed : namedInBrackets? ds = none)
    (hread : classBody spaced (bound + 1) pending gathered (cs ++ ')' :: more)
      = some (t, depth, rest)) : AloneOrPast spaced pending gathered cs more t depth rest := by
  rw [classBody_open (skip_close_of_cons hs more), namedInBrackets?_close, hnamed] at hread
  obtain ⟨⟨negated, inner, after⟩, hstart, hread⟩ := Option.bind_eq_some_iff.1 hread
  obtain ⟨⟨tree, depth', after'⟩, hbody, hrest⟩ := Option.bind_eq_some_iff.1 hread
  rcases classStart_alone hmore hstart with ⟨left, hleft, rfl⟩ | hpassed
  · rcases ih hbody with ⟨left', rfl, hinner⟩ | hpassed
    · have hafter := classStart_suffix hleft
      have hafter' : left' <:+ left := classBody_suffix (hinner _ (Nat.lt_succ_self _))
      refine (ih hrest).before hs (hafter'.trans hafter) fun n hn => ?_
      rw [classBody_open hs, hnamed, hleft]
      simp only [Option.bind_some, hinner n (Nat.lt_of_le_of_lt hafter.length_le hn)]
    · exact Or.inr (suffix_of_classBody hrest (List.suffix_cons_of_suffix hpassed))
  · have hpassed := suffix_of_classBody hbody hpassed
    exact Or.inr (suffix_of_classBody hrest (List.suffix_cons_of_suffix hpassed))

/-- An operator. -/
theorem operator (ih : ClosesUnder spaced more bound) {o : SetOp} (hs : skip spaced cs = c :: ds)
    (hclose : c ≠ ']') (hopen : c ≠ '[') (hop : setOp? (c :: ds) = some (o, left))
    (hread : classBody spaced (bound + 1) pending gathered (cs ++ ')' :: more)
      = some (t, depth, rest)) : AloneOrPast spaced pending gathered cs more t depth rest := by
  rw [classBody_eq (skip_close_of_cons hs more) hclose hopen, setOp?_close, hop] at hread
  refine (ih hread).before hs (setOp?_suffix hop) fun n _ => ?_
  rw [classBody_eq hs hclose hopen, hop]
  rfl

/-- A character, a range of characters or an escaped class. -/
theorem item (ih : ClosesUnder spaced more bound) (hmore : '\n' ∉ more)
    (hs : skip spaced cs = c :: ds) (hclose : c ≠ ']') (hopen : c ≠ '[')
    (hop : setOp? (c :: ds) = none)
    (hread : classBody spaced (bound + 1) pending gathered (cs ++ ')' :: more)
      = some (t, depth, rest)) : AloneOrPast spaced pending gathered cs more t depth rest := by
  rw [classBody_eq (skip_close_of_cons hs more) hclose hopen, setOp?_close, hop] at hread
  obtain ⟨⟨part, after⟩, hitem, hread⟩ := Option.bind_eq_some_iff.1 hread
  rw [← List.cons_append] at hitem
  rcases (reachesClose_classItem spaced).alone (contained_classItem spaced) hmore hitem with
    ⟨left, hleft, rfl⟩ | hpassed
  · refine (ih hread).before hs (classItem_suffix_tail hleft) fun n _ => ?_
    rw [classBody_eq hs hclose hopen, hop]
    simp only [hleft, Option.bind_some]
  · exact Or.inr (suffix_of_classBody hread hpassed)

end ClosesUnder

/-- However many parts of a class are read, the parenthesis is left or read as one of them. -/
theorem closesUnder (hmore : '\n' ∉ more) (bound : Nat) : ClosesUnder spaced more bound := by
  induction bound with
  | zero =>
      intro _ _ _ _ _ _ hread
      cases hread
  | succ bound ih =>
      intro pending gathered cs t depth rest hread
      rcases hs : skip spaced cs with _ | ⟨c, ds⟩
      · -- Nothing is left of the class but the parenthesis, if that is not in a comment.
        obtain ⟨c, ds, hlong, hrest⟩ := exists_of_classBody hread
        rcases skip_close_of_nil hs hmore with hclose | hclose
        · obtain ⟨-, rfl⟩ := List.cons.inj (hclose.symm.trans hlong)
          exact Or.inr hrest
        · rw [hclose] at hlong
          cases hlong
      by_cases hclose : c = ']'
      · subst hclose
        exact aloneOrPast_of_end hs hread
      by_cases hopen : c = '['
      · subst hopen
        rcases hnamed : namedInBrackets? ds with _ | ⟨part, left⟩
        · exact ih.nested hmore hs hnamed hread
        · exact ih.named hs hnamed hread
      rcases hop : setOp? (c :: ds) with _ | ⟨o, left⟩
      · exact ih.item hmore hs hclose hopen hop hread
      · exact ih.operator hs hclose hopen hop hread

end

theorem passesClose_bracketed (spaced : Bool) : PassesClose (bracketed spaced) := by
  intro cs more x rest hmore hnone hread
  obtain ⟨⟨negated, gathered, after⟩, hstart, hafter⟩ := Option.bind_eq_some_iff.1 hread
  obtain ⟨⟨tree, depth, after'⟩, hbody, hrest⟩ := Option.bind_eq_some_iff.1 hafter
  obtain ⟨-, rfl⟩ := Prod.mk.inj (Option.some.inj hrest)
  rcases classStart_alone hmore hstart with ⟨left, hleft, rfl⟩ | hpassed
  · rcases closesUnder hmore _ hbody with ⟨left', -, halone⟩ | hpassed
    · have hlength := (classStart_suffix hleft).length_le
      rw [bracketed, hleft] at hnone
      simp only [Option.bind_eq_bind, Option.bind_some] at hnone
      rw [halone (cs.length + 1) (by omega)] at hnone
      cases hnone
    · exact hpassed
  · exact suffix_of_classBody hbody hpassed

end Interlinear.Regex
