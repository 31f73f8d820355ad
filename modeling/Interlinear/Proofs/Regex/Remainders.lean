import Interlinear.Proofs.Regex.Tokens

set_option autoImplicit false

/-! # What is left after reading

A function that reads from the start of a text leaves the end of it. So every token is read off at
the cost of a character, and the number that bounds the reading is never in its way: a pattern that
can be cut into tokens at all is cut into them (`tokens?_of_cuts`). -/

namespace Interlinear.Regex

/-- A function leaves the end of the text that it reads from. -/
def LeavesEnd {α : Type} (read : Reader α) : Prop :=
  ∀ cs x rest, read cs = some (x, rest) → rest <:+ cs

theorem leavesEnd_rest {α : Type} (x : α) : LeavesEnd fun cs => some (x, cs) := by
  intro cs y rest h
  obtain ⟨-, rfl⟩ := Prod.mk.inj (Option.some.inj h)
  exact List.suffix_rfl

theorem LeavesEnd.reading {α β γ : Type} {read : Reader α} (h : LeavesEnd read) (f : α → Option β)
    (g : β → γ) : LeavesEnd (reading read f g) := by
  intro cs z rest hread
  obtain ⟨⟨x, after⟩, hx, hread⟩ := Option.bind_eq_some_iff.1 hread
  obtain ⟨y, -, hread⟩ := Option.bind_eq_some_iff.1 hread
  obtain ⟨-, rfl⟩ := Prod.mk.inj (Option.some.inj hread)
  exact h _ _ _ hx

/-! ## Spacing -/

theorem dropSpacing_suffix (inComment : Bool) (cs : List Char) :
    dropSpacing inComment cs <:+ cs := by
  induction cs generalizing inComment with
  | nil => exact List.suffix_rfl
  | cons c cs ih =>
      rw [dropSpacing]
      split
      · exact List.suffix_cons_of_suffix (ih _)
      · split
        · exact List.suffix_cons_of_suffix (ih _)
        · split
          · exact List.suffix_cons_of_suffix (ih _)
          · exact List.suffix_rfl

theorem skip_suffix (spaced : Bool) (cs : List Char) : skip spaced cs <:+ cs := by
  cases spaced with
  | false => exact List.suffix_rfl
  | true => exact dropSpacing_suffix false cs

/-- Behind a character that follows the spacing, the end of the text follows. -/
theorem suffix_of_skip {spaced : Bool} {cs ds : List Char} {c : Char}
    (h : skip spaced cs = c :: ds) : c :: ds <:+ cs :=
  h ▸ skip_suffix spaced cs

theorem leavesEnd_takeTo (stop : Char) (spaced inComment : Bool) :
    LeavesEnd (takeTo stop spaced inComment) := by
  intro cs x rest h
  induction cs generalizing inComment x with
  | nil => cases h
  | cons c cs ih =>
      rw [takeTo] at h
      split at h
      · exact List.suffix_cons_of_suffix (ih _ _ h)
      · split at h
        · exact List.suffix_cons_of_suffix (ih _ _ h)
        · split at h
          · exact List.suffix_cons_of_suffix (ih _ _ h)
          · split at h
            · obtain ⟨-, rfl⟩ := Prod.mk.inj (Option.some.inj h)
              exact List.suffix_cons _ _
            · obtain ⟨taken, htaken, h⟩ := Option.map_eq_some_iff.1 h
              obtain ⟨-, rfl⟩ := Prod.mk.inj h
              exact List.suffix_cons_of_suffix (ih _ _ htaken)

theorem takeSpaced_suffix (p : Char → Bool) (spaced inComment : Bool) (cs : List Char) :
    (takeSpaced p spaced inComment cs).2 <:+ cs := by
  induction cs generalizing inComment with
  | nil => exact List.suffix_rfl
  | cons c cs ih =>
      rw [takeSpaced]
      split
      · exact List.suffix_cons_of_suffix (ih _)
      · split
        · exact List.suffix_cons_of_suffix (ih _)
        · split
          · exact List.suffix_cons_of_suffix (ih _)
          · split
            · exact List.suffix_cons_of_suffix (ih _)
            · exact List.suffix_rfl

/-! ## Escapes -/

theorem leavesEnd_hexDigits (spaced : Bool) (count value : Nat) :
    LeavesEnd (hexDigits spaced count value) := by
  intro cs x rest h
  induction count generalizing value cs with
  | zero =>
      obtain ⟨-, rfl⟩ := Prod.mk.inj (Option.some.inj h)
      exact List.suffix_rfl
  | succ count ih =>
      cases cs with
      | nil => cases h
      | cons c cs =>
          obtain ⟨d, -, h⟩ := Option.bind_eq_some_iff.1 h
          exact List.suffix_cons_of_suffix ((ih _ _ h).trans (skip_suffix spaced cs))

theorem leavesEnd_hexChar (spaced : Bool) (count : Nat) : LeavesEnd (hexChar spaced count) := by
  intro cs x rest h
  rcases hs : skip spaced cs with _ | ⟨c, ds⟩
  · rw [hexChar, hs] at h
    cases h
  refine List.IsSuffix.trans ?_ (suffix_of_skip hs)
  by_cases hc : c = '\x7b'
  · subst hc
    rw [hexChar_of_brace hs] at h
    exact List.suffix_cons_of_suffix ((leavesEnd_takeTo _ _ _).reading _ _ _ _ _ h)
  · rw [hexChar_of_ne hs hc] at h
    exact (leavesEnd_hexDigits spaced count 0).reading _ _ _ _ _ h

theorem leavesEnd_propertyEscape (spaced negated : Bool) :
    LeavesEnd (propertyEscape spaced negated) := by
  intro cs x rest h
  rcases hs : skip spaced cs with _ | ⟨c, ds⟩
  · rw [propertyEscape, hs] at h
    cases h
  refine List.IsSuffix.trans (List.suffix_cons_of_suffix ?_) (suffix_of_skip hs)
  by_cases hc : c = '\x7b'
  · subst hc
    rw [propertyEscape_of_brace hs] at h
    exact (leavesEnd_takeTo _ _ _).reading _ _ _ _ _ h
  · rw [propertyEscape_of_ne hs hc] at h
    split at h
    · cases h
    · exact leavesEnd_rest _ _ _ _ h

theorem leavesEnd_edgeEscape (spaced : Bool) : LeavesEnd (edgeEscape spaced) := by
  intro cs x rest h
  by_cases hbrace : cs.head? = some '\x7b'
  · obtain ⟨inside, rfl⟩ := List.head?_eq_some_iff.1 hbrace
    rcases hs : skip spaced inside with _ | ⟨c, ds⟩
    · rw [edgeEscape, hs] at h
      cases h
    by_cases hc : isEdgeChar c = true
    · rw [edgeEscape_of_name hs hc] at h
      exact List.suffix_cons_of_suffix ((leavesEnd_takeTo _ _ _).reading _ _ _ _ _ h)
    · rw [edgeEscape_of_not_name hs hc] at h
      exact leavesEnd_rest _ _ _ _ h
  · rw [edgeEscape_of_ne hbrace] at h
    exact leavesEnd_rest _ _ _ _ h

theorem leavesEnd_escape (spaced : Bool) : LeavesEnd (escape spaced) := by
  intro cs x rest h
  cases cs with
  | nil => cases h
  | cons c cs =>
      refine List.suffix_cons_of_suffix ?_
      rw [escape.eq_def] at h
      dsimp only at h
      split at h
      next => exact leavesEnd_rest _ _ _ _ h
      next =>
        split at h
        · exact leavesEnd_hexChar spaced 2 _ _ _ h
        · exact leavesEnd_hexChar spaced 4 _ _ _ h
        · exact leavesEnd_hexChar spaced 8 _ _ _ h
        · exact leavesEnd_propertyEscape spaced false _ _ _ h
        · exact leavesEnd_propertyEscape spaced true _ _ _ h
        all_goals first
          | contradiction
          | exact leavesEnd_edgeEscape spaced _ _ _ h
          | exact leavesEnd_rest _ _ _ _ h

/-! ## Classes -/

theorem leavesEnd_namedInBrackets? : LeavesEnd namedInBrackets? := by
  have hnamed : ∀ negated, LeavesEnd (namedTo negated) := by
    intro negated cs x rest h
    refine List.IsSuffix.trans ?_ (List.dropWhile_suffix (· != ':'))
    rw [namedTo] at h
    split at h
    next heq =>
      obtain ⟨k, -, h⟩ := Option.map_eq_some_iff.1 h
      obtain ⟨-, rfl⟩ := Prod.mk.inj h
      rw [heq]
      exact List.suffix_cons_of_suffix (List.suffix_cons _ _)
    next => cases h
  intro cs x rest h
  rcases cs with _ | ⟨c, cs⟩
  · cases h
  · by_cases hc : c = ':'
    · subst hc
      refine List.suffix_cons_of_suffix ?_
      rw [namedInBrackets?_colon] at h
      split at h
      · exact (hnamed true _ _ _ h).trans (List.tail_suffix cs)
      · exact hnamed false _ _ _ h
    · rw [namedInBrackets?.eq_def] at h
      split at h
      next heq => exact absurd (List.cons.inj heq).1 hc
      next => cases h

theorem classAtom_suffix {spaced : Bool} {c : Char} {cs rest : List Char} {t : Token}
    (h : classAtom spaced (c :: cs) = some (t, rest)) : rest <:+ cs := by
  rw [classAtom.eq_def] at h
  split at h
  next heq => cases heq
  next heq =>
    obtain ⟨-, rfl⟩ := List.cons.inj heq
    exact leavesEnd_escape spaced _ _ _ h
  next heq =>
    obtain ⟨-, rfl⟩ := List.cons.inj heq
    exact leavesEnd_rest _ _ _ _ h

theorem leavesEnd_classAtom (spaced : Bool) : LeavesEnd (classAtom spaced) := by
  intro cs x rest h
  cases cs with
  | nil => cases h
  | cons c cs => exact List.suffix_cons_of_suffix (classAtom_suffix h)

theorem classItem_suffix {spaced : Bool} {cs after rest : List Char} {first : Token} {t : ClassTree}
    (hfirst : classAtom spaced cs = some (first, after))
    (h : classItem spaced cs = some (t, rest)) : rest <:+ after := by
  rcases hs : skip spaced after with _ | ⟨c, ds⟩
  · rw [classItem, hfirst] at h
    simp only [Option.bind_eq_bind, Option.bind_some, hs] at h
    cases h
  · refine List.IsSuffix.trans ?_ (suffix_of_skip hs)
    rw [classItem_eq hfirst hs] at h
    split at h
    · obtain ⟨part, -, h⟩ := Option.map_eq_some_iff.1 h
      obtain ⟨-, rfl⟩ := Prod.mk.inj h
      exact List.suffix_rfl
    · have hlast := (leavesEnd_classAtom spaced).reading (rangeOf? first) id _ _ _ h
      exact List.suffix_cons_of_suffix (hlast.trans (skip_suffix spaced ds))

/-- A part of a class is not empty. -/
theorem classItem_suffix_tail {spaced : Bool} {c : Char} {cs rest : List Char} {t : ClassTree}
    (h : classItem spaced (c :: cs) = some (t, rest)) : rest <:+ cs := by
  obtain ⟨⟨first, after⟩, hfirst, -⟩ := Option.bind_eq_some_iff.1 h
  exact (classItem_suffix hfirst h).trans (classAtom_suffix hfirst)

theorem classOpening_suffix {spaced negated negated' : Bool} {gathered : Gathered}
    {cs rest : List Char} (h : classOpening spaced negated cs = some (negated', gathered, rest)) :
    rest <:+ (takeSpaced (· == '-') spaced false cs).2 := by
  rcases htake : takeSpaced (· == '-') spaced false cs with ⟨hyphens, after⟩
  rw [classOpening, htake] at h
  dsimp only at h ⊢
  split at h
  next => cases h
  next ds =>
    split at h
    · split at h
      · cases h
      · obtain ⟨-, -, rfl⟩ : _ ∧ _ ∧ _ := by simpa using h
        exact List.suffix_cons_of_suffix (skip_suffix spaced ds)
    · obtain ⟨-, -, rfl⟩ : _ ∧ _ ∧ _ := by simpa using h
      exact List.suffix_rfl
  next =>
    obtain ⟨-, -, rfl⟩ : _ ∧ _ ∧ _ := by simpa using h
    exact List.suffix_rfl

theorem classStart_suffix {spaced negated : Bool} {gathered : Gathered} {cs rest : List Char}
    (h : classStart spaced cs = some (negated, gathered, rest)) : rest <:+ cs := by
  refine List.IsSuffix.trans ?_ (skip_suffix spaced cs)
  rw [classStart_eq] at h
  split at h
  · have hopening := (classOpening_suffix h).trans (takeSpaced_suffix _ _ _ _)
    exact (hopening.trans (skip_suffix spaced _)).trans (List.tail_suffix _)
  · exact (classOpening_suffix h).trans (takeSpaced_suffix _ _ _ _)

theorem setOp?_suffix {c : Char} {ds left : List Char} {o : SetOp}
    (h : setOp? (c :: ds) = some (o, left)) : left <:+ ds := by
  rw [setOp?.eq_def] at h
  split at h
  case h_4 => cases h
  all_goals
    rename_i heq
    obtain ⟨-, rfl⟩ := Prod.mk.inj (Option.some.inj h)
    obtain ⟨-, rfl⟩ := List.cons.inj heq
    exact List.suffix_cons _ _

/-- The bracket that closes a class is read off at least. -/
theorem exists_of_classBody {spaced : Bool} {bound : Nat} {pending : Option Pending}
    {gathered : Gathered} {cs rest : List Char} {t : ClassTree} {depth : Nat}
    (h : classBody spaced bound pending gathered cs = some (t, depth, rest)) :
    ∃ c ds, skip spaced cs = c :: ds ∧ rest <:+ ds := by
  induction bound generalizing pending gathered cs t depth rest with
  | zero => cases h
  | succ bound ih =>
      have hsuffix : ∀ {pending gathered cs t depth rest},
          classBody spaced bound pending gathered cs = some (t, depth, rest) → rest <:+ cs := by
        intro pending gathered cs t depth rest h
        obtain ⟨c, ds, hs, hrest⟩ := ih h
        exact (List.suffix_cons_of_suffix hrest).trans (suffix_of_skip hs)
      rcases hs : skip spaced cs with _ | ⟨c, ds⟩
      · rw [classBody, hs] at h
        cases h
      refine ⟨c, ds, rfl, ?_⟩
      by_cases hclose : c = ']'
      · subst hclose
        rw [classBody_end hs] at h
        obtain ⟨-, -, rfl⟩ : _ ∧ _ ∧ _ := by simpa using h
        exact List.suffix_rfl
      by_cases hopen : c = '['
      · subst hopen
        rw [classBody_open hs] at h
        split at h
        next hnamed => exact (hsuffix h).trans (leavesEnd_namedInBrackets? _ _ _ hnamed)
        next =>
          obtain ⟨⟨negated, inner, after⟩, hstart, h⟩ := Option.bind_eq_some_iff.1 h
          obtain ⟨⟨tree, depth', after'⟩, hbody, h⟩ := Option.bind_eq_some_iff.1 h
          exact ((hsuffix h).trans (hsuffix hbody)).trans (classStart_suffix hstart)
      rw [classBody_eq hs hclose hopen] at h
      split at h
      next hop => exact (hsuffix h).trans (setOp?_suffix hop)
      next =>
        obtain ⟨⟨part, after⟩, hpart, h⟩ := Option.bind_eq_some_iff.1 h
        exact (hsuffix h).trans (classItem_suffix_tail hpart)

theorem classBody_suffix {spaced : Bool} {bound : Nat} {pending : Option Pending}
    {gathered : Gathered} {cs rest : List Char} {t : ClassTree} {depth : Nat}
    (h : classBody spaced bound pending gathered cs = some (t, depth, rest)) : rest <:+ cs := by
  obtain ⟨c, ds, hs, hrest⟩ := exists_of_classBody h
  exact (List.suffix_cons_of_suffix hrest).trans (suffix_of_skip hs)

theorem leavesEnd_bracketed (spaced : Bool) : LeavesEnd (bracketed spaced) := by
  intro cs x rest h
  obtain ⟨⟨negated, gathered, after⟩, hstart, h⟩ := Option.bind_eq_some_iff.1 h
  obtain ⟨⟨tree, depth, after'⟩, hbody, h⟩ := Option.bind_eq_some_iff.1 h
  obtain ⟨-, rfl⟩ := Prod.mk.inj (Option.some.inj h)
  exact (classBody_suffix hbody).trans (classStart_suffix hstart)

/-! ## Groups -/

theorem leavesEnd_flagSettings (seen : List FlagSetting) (on dangling : Bool) :
    LeavesEnd (flagSettings seen on dangling) := by
  intro cs x rest h
  induction cs generalizing seen on dangling with
  | nil => cases h
  | cons c cs ih =>
      rw [flagSettings] at h
      split at h
      · split at h
        · cases h
        · obtain ⟨-, rfl⟩ := Prod.mk.inj (Option.some.inj h)
          exact List.suffix_rfl
      · refine List.suffix_cons_of_suffix ?_
        split at h
        · split at h
          · exact ih _ _ _ h
          · cases h
        · obtain ⟨f, -, h⟩ := Option.bind_eq_some_iff.1 h
          split at h
          · cases h
          · exact ih _ _ _ h

theorem leavesEnd_groupName : LeavesEnd groupName := by
  intro cs x rest h
  rw [groupName, List.span_eq_takeWhile_dropWhile] at h
  split at h
  next name rest' heq =>
    obtain ⟨-, hdrop⟩ := Prod.mk.inj heq
    split at h
    · obtain ⟨-, rfl⟩ := Prod.mk.inj (Option.some.inj h)
      have hall := List.dropWhile_suffix (l := cs) (· != '>')
      rw [hdrop] at hall
      exact (List.suffix_cons _ _).trans hall
    · cases h
  next => cases h

theorem leavesEnd_flagGroup : LeavesEnd flagGroup := by
  intro cs x rest h
  rw [flagGroup] at h
  split at h
  next hset =>
    obtain ⟨-, rfl⟩ := Prod.mk.inj (Option.some.inj h)
    exact (List.suffix_cons _ _).trans (leavesEnd_flagSettings _ _ _ _ _ _ hset)
  next hset =>
    split at h
    · cases h
    · obtain ⟨-, rfl⟩ := Prod.mk.inj (Option.some.inj h)
      exact (List.suffix_cons _ _).trans (leavesEnd_flagSettings _ _ _ _ _ _ hset)
  next => cases h

theorem leavesEnd_groupStart (spaced : Bool) : LeavesEnd (groupStart spaced) := by
  intro cs x rest h
  by_cases hhead : (skip spaced cs).head? = some '?'
  · obtain ⟨ds, hs⟩ := List.head?_eq_some_iff.1 hhead
    refine List.IsSuffix.trans (List.suffix_cons_of_suffix ?_) (suffix_of_skip hs)
    by_cases hangle : ds.head? = some '<'
    · obtain ⟨es, rfl⟩ := List.head?_eq_some_iff.1 hangle
      rw [groupStart_angle hs] at h
      split at h
      · cases h
      · exact List.suffix_cons_of_suffix (leavesEnd_groupName _ _ _ h)
    by_cases hnamed : ∃ es, ds = 'P' :: '<' :: es
    · obtain ⟨es, rfl⟩ := hnamed
      rw [groupStart_named hs] at h
      exact List.suffix_cons_of_suffix (List.suffix_cons_of_suffix (leavesEnd_groupName _ _ _ h))
    · push Not at hnamed
      rw [groupStart_flags hs hangle hnamed] at h
      exact leavesEnd_flagGroup _ _ _ h
  · rw [groupStart_of_ne hhead] at h
    exact (leavesEnd_rest _ _ _ _ h).trans (skip_suffix spaced cs)

/-! ## Repetitions -/

theorem leavesEnd_repeated (least : Nat) (most : Option Nat) :
    LeavesEnd fun cs => some (repeated least most cs) := by
  intro cs x rest h
  obtain ⟨-, rfl⟩ := Prod.mk.inj (Option.some.inj h)
  split
  · exact List.suffix_cons _ _
  · exact List.suffix_rfl

theorem count?_suffix {spaced : Bool} {cs rest : List Char} {n : Nat}
    (h : count? spaced cs = some (n, rest)) :
    rest <:+ (takeSpaced Char.isDigit spaced false (cs.dropWhile Text.isBlank)).2 := by
  rw [count?] at h
  dsimp only at h
  split at h
  · cases h
  · obtain ⟨-, rfl⟩ := Prod.mk.inj (Option.some.inj h)
    exact List.dropWhile_suffix _

theorem leavesEnd_count? (spaced : Bool) : LeavesEnd (count? spaced) := fun _ _ _ h =>
  ((count?_suffix h).trans (takeSpaced_suffix _ _ _ _)).trans (List.dropWhile_suffix _)

theorem braceAfter_suffix_tail {least n : Nat} {c : Char} {cs rest : List Char} {most : Option Nat}
    (h : braceAfter least n (c :: cs) = some (most, rest)) : rest <:+ cs := by
  rw [braceAfter.eq_def] at h
  split at h
  next heq =>
    obtain ⟨-, rfl⟩ := List.cons.inj heq
    split at h
    · obtain ⟨-, rfl⟩ := Prod.mk.inj (Option.some.inj h)
      exact List.suffix_rfl
    · cases h
  next => cases h

theorem leavesEnd_braceAfter (least most : Nat) : LeavesEnd (braceAfter least most) := by
  intro cs x rest h
  cases cs with
  | nil => cases h
  | cons c cs => exact List.suffix_cons_of_suffix (braceAfter_suffix_tail h)

theorem mostOf_suffix_tail {spaced : Bool} {least : Nat} {c : Char} {cs rest : List Char}
    {most : Option Nat} (h : mostOf spaced least (c :: cs) = some (most, rest)) : rest <:+ cs := by
  rw [mostOf.eq_def] at h
  split at h
  next ds heq =>
    obtain ⟨-, rfl⟩ := List.cons.inj heq
    refine List.IsSuffix.trans ?_ (skip_suffix spaced cs)
    split at h
    next es hes =>
      obtain ⟨-, rfl⟩ := Prod.mk.inj (Option.some.inj h)
      rw [hes]
      exact List.suffix_cons _ _
    next =>
      obtain ⟨⟨n, after⟩, hn, h⟩ := Option.bind_eq_some_iff.1 h
      exact (leavesEnd_braceAfter least n _ _ _ h).trans (leavesEnd_count? spaced _ _ _ hn)
  next heq =>
    obtain ⟨-, rfl⟩ := List.cons.inj heq
    obtain ⟨-, rfl⟩ := Prod.mk.inj (Option.some.inj h)
    exact List.suffix_rfl
  next => cases h

theorem leavesEnd_mostOf (spaced : Bool) (least : Nat) : LeavesEnd (mostOf spaced least) := by
  intro cs x rest h
  cases cs with
  | nil => cases h
  | cons c cs => exact List.suffix_cons_of_suffix (mostOf_suffix_tail h)

theorem leavesEnd_counted (spaced : Bool) : LeavesEnd (counted spaced) := by
  intro cs x rest h
  rw [counted_eq] at h
  obtain ⟨⟨least, after⟩, hleast, h⟩ := Option.bind_eq_some_iff.1 h
  obtain ⟨⟨most, after'⟩, hmost, h⟩ := Option.bind_eq_some_iff.1 h
  have hrest := leavesEnd_repeated least most _ _ _ h
  have hafter := leavesEnd_count? spaced _ _ _ hleast
  have hafter' := leavesEnd_mostOf spaced least _ _ _ hmost
  have hfirst := hafter.trans (skip_suffix spaced cs)
  exact (hrest.trans (skip_suffix spaced after')).trans (hafter'.trans hfirst)

/-! ## Tokens -/

theorem leavesEnd_token (spaced : Bool) (c : Char) : LeavesEnd (token spaced c) := by
  intro cs x rest h
  rw [token.eq_def] at h
  split at h
  case h_1 => exact leavesEnd_groupStart spaced _ _ _ h
  case h_4 => exact leavesEnd_bracketed spaced _ _ _ h
  case h_5 => exact leavesEnd_repeated 0 (some 1) _ _ _ h
  case h_6 => exact leavesEnd_repeated 0 none _ _ _ h
  case h_7 => exact leavesEnd_repeated 1 none _ _ _ h
  case h_8 => exact leavesEnd_counted spaced _ _ _ h
  case h_9 => exact leavesEnd_escape spaced _ _ _ h
  all_goals exact leavesEnd_rest _ _ _ _ h

/-- What can be cut is cut, if the number is not smaller than the text is long. -/
theorem Cuts.tokensFrom_eq {spaced : Bool} {outer : List Bool} {cs : List Char} {ts : List Token}
    (h : Cuts spaced outer cs ts) {bound : Nat} (hbound : cs.length < bound) :
    tokensFrom bound spaced outer cs = some ts := by
  induction h generalizing bound with
  | done hs =>
      obtain ⟨bound, rfl⟩ := Nat.exists_eq_succ_of_ne_zero (Nat.ne_zero_of_lt hbound)
      rw [tokensFrom, hs]
  | token hs ht hrest ih =>
      obtain ⟨bound, rfl⟩ := Nat.exists_eq_succ_of_ne_zero (Nat.ne_zero_of_lt hbound)
      have hlength := (suffix_of_skip hs).length_le
      have hrest := (leavesEnd_token _ _ _ _ _ ht).length_le
      rw [List.length_cons] at hlength
      have hmore := @ih bound (by omega)
      simp only [tokensFrom, hs, ht, Option.bind_eq_bind, Option.bind_some, hmore]

/-- **The tokens of a pattern are those that it can be cut into.** -/
theorem tokens?_of_cuts {cs : List Char} {ts : List Token} (h : Cuts false [] cs ts) :
    tokens? cs = some ts :=
  h.tokensFrom_eq (Nat.lt_succ_self _)

end Interlinear.Regex
