import Interlinear.Proofs.Regex.Constituents
import Interlinear.Proofs.Regex.Passing.Tokens
import Interlinear.Regex.Compile

set_option autoImplicit false

/-! # Unmatched parentheses

A text that is read between parentheses is a pattern there just if it is one without them, as long
as it closes no group that it has not opened (`Unmatched`). The tokens of the text are then the same
in both places, because a token that takes the parenthesis with it leaves the group open for good
(`Cuts.alone`), and they build the same tree one level deeper (`exists_tree?_of_enclosed`). -/

namespace Interlinear.Regex

/-! ## Cutting -/

/-- The tokens of a text, read from a place where the settings of spacing are given, come to a
parenthesis that closes none of the groups that are open. -/
inductive Unmatched : Bool → List Bool → List Char → Prop
  | close {spaced : Bool} {cs rest : List Char} (hs : skip spaced cs = ')' :: rest) :
    Unmatched spaced [] cs
  | token {spaced : Bool} {outer : List Bool} {c : Char} {cs ds rest : List Char} {t : Token}
    (hs : skip spaced cs = c :: ds) (ht : token spaced c ds = some (t, rest))
    (hrest : Unmatched (spacingAfter spaced outer t).1 (spacingAfter spaced outer t).2 rest) :
    Unmatched spaced outer cs

theorem le_of_depthAfter? {t : Token} {depth depth' : Nat} (h : t.depthAfter? depth = some depth')
    (ht : t ≠ .close) : depth ≤ depth' := by
  cases t with
  | close => exact absurd rfl ht
  | openNamed | openPlain | openFlags =>
      obtain rfl := Option.some.inj h
      exact Nat.le_succ depth
  | _ =>
      obtain rfl := Option.some.inj h
      exact Nat.le_refl depth

/-- Without a token that closes a group, no group is closed. -/
theorem le_of_foldlM_depthAfter? {ts : List Token} {depth depth' : Nat}
    (h : ts.foldlM Token.depthAfter? depth = some depth') (hts : .close ∉ ts) : depth ≤ depth' := by
  induction ts generalizing depth with
  | nil =>
      obtain rfl := Option.some.inj h
      exact Nat.le_refl depth
  | cons t ts ih =>
      obtain ⟨ht, hts⟩ := not_or.1 (mt List.mem_cons.2 hts)
      obtain ⟨next, hnext, h⟩ := Option.bind_eq_some_iff.1 h
      exact (le_of_depthAfter? hnext (Ne.symm ht)).trans (ih h hts)

theorem Cuts.close_not_mem {spaced : Bool} {outer : List Bool} {cs : List Char} {ts : List Token}
    (h : Cuts spaced outer cs ts) (hcs : ')' ∉ cs) : .close ∉ ts := by
  induction h with
  | done => exact List.not_mem_nil
  | @token spaced outer c cs ds rest t ts hs ht hrest ih =>
      have hsubset : c :: ds ⊆ cs := (suffix_of_skip hs).subset
      rw [List.mem_cons, not_or]
      constructor
      · rintro rfl
        obtain rfl := eq_of_token_close ht
        exact hcs (hsubset List.mem_cons_self)
      · refine ih fun hmem => hcs (hsubset (List.mem_cons_of_mem c ?_))
        exact (leavesEnd_token spaced c _ _ _ ht).subset hmem

theorem exists_depthAfter? {t : Token} {depth : Nat} (h : t = .close → depth ≠ 0) :
    ∃ depth', t.depthAfter? depth = some depth' := by
  cases t with
  | close => exact ⟨depth - 1, if_neg (h rfl)⟩
  | _ => exact ⟨_, rfl⟩

/-- A group further out, a token leaves one more group open. -/
theorem depthAfter?_succ {t : Token} {depth depth' : Nat} (h : t.depthAfter? depth = some depth') :
    t.depthAfter? (depth + 1) = some (depth' + 1) := by
  cases t with
  | close =>
      cases depth with
      | zero => cases h
      | succ depth =>
          obtain rfl := Option.some.inj h
          rfl
  | _ =>
      obtain rfl := Option.some.inj h
      rfl

/-- While a group is open, a token that does not close it leaves the last parenthesis to the tokens
after it, if these close all groups. -/
theorem Cuts.not_suffix {spaced : Bool} {outer : List Bool} {rest more : List Char} {t : Token}
    {TS : List Token} {depth depth' : Nat} (h : Cuts spaced outer rest TS) (hclose : ')' ∉ more)
    (ht : t.depthAfter? (depth + 1) = some depth') (hother : t ≠ .close)
    (hdepth : TS.foldlM Token.depthAfter? depth' = some 0) : ¬rest <:+ more := by
  intro hpassed
  have hgone : ')' ∉ rest := fun hmem => hclose (hpassed.subset hmem)
  have hlast := le_of_foldlM_depthAfter? hdepth (h.close_not_mem hgone)
  have hnext := le_of_depthAfter? ht hother
  omega

/-- The brace begins a token that cannot be read. -/
theorem AtBrace.not_cuts {spaced : Bool} {outer : List Bool} {rest more : List Char}
    {TS : List Token} (h : AtBrace spaced more rest) (hmore : '\n' ∉ more) :
    ¬Cuts spaced outer rest TS := by
  obtain ⟨inside, hinside, rfl⟩ := h
  intro hTS
  have hbrace : skip spaced ('\x7b' :: (inside ++ ')' :: more))
      = '\x7b' :: (inside ++ ')' :: more) := by
    have hblank : Text.isBlank '\x7b' = false := by decide +kernel
    cases spaced with
    | false => rfl
    | true => simp [skip, dropSpacing, hblank]
  obtain ⟨t, rest, ts, ht, -, -⟩ := hTS.exists_cons hbrace
  have hnone : token spaced '\x7b' (inside ++ ')' :: more) = none := counted_close hinside hmore
  cases hnone.symm.trans ht

/-- A token that leaves the last parenthesis to the tokens after it is one of the text alone. -/
theorem token_alone_of_not_suffix {spaced : Bool} {around : List Bool} {c : Char}
    {ds more rest : List Char} {t : Token} {TS : List Token} (hfeed : '\n' ∉ more)
    (ht : token spaced c (ds ++ ')' :: more) = some (t, rest))
    (hrest : Cuts (spacingAfter spaced around t).1 (spacingAfter spaced around t).2 rest TS)
    (hleaves : c ≠ ')' → ¬rest <:+ more) :
    ∃ left, token spaced c ds = some (t, left) ∧ rest = left ++ ')' :: more := by
  cases halone : token spaced c ds with
  | none =>
      -- The token is not one without the parenthesis, so it takes it with it.
      have hc : c ≠ ')' := by
        rintro rfl
        cases halone
      rcases token_close hfeed halone ht with hpassed | ⟨rfl, hbrace⟩
      · exact absurd hpassed (hleaves hc)
      · exact absurd hrest (hbrace.not_cuts hfeed)
  | some item =>
      obtain ⟨t', left⟩ := item
      rcases contained_token spaced c _ _ _ halone with hsame | ⟨-, hgone⟩
      · obtain ⟨rfl, rfl⟩ := Prod.mk.inj (Option.some.inj ((hsame more).symm.trans ht))
        exact ⟨left, rfl, rfl⟩
      · -- A comment runs to the end, beyond the parenthesis.
        obtain ⟨-, rfl⟩ := Prod.mk.inj (Option.some.inj ((hgone more hfeed).symm.trans ht))
        refine absurd List.nil_suffix (hleaves ?_)
        rintro rfl
        simp [token] at ht

/-- **Groups around a text.** Where a text that closes only groups of its own stands between
parentheses, and the closing one ends all groups, the text is cut into tokens on its own: these
close its groups, and the parenthesis comes after them. -/
theorem Cuts.alone {spaced s : Bool} {outer : List Bool} {cs more : List Char} {TS : List Token}
    (hfeed : '\n' ∉ more) (hclose : ')' ∉ more) (hmatched : ¬Unmatched spaced outer cs)
    (h : Cuts spaced (outer ++ [s]) (cs ++ ')' :: more) TS)
    (hdepth : TS.foldlM Token.depthAfter? (outer.length + 1) = some 0) :
    ∃ ts TS', TS = ts ++ .close :: TS' ∧ Cuts spaced outer cs ts ∧
      ts.foldlM Token.depthAfter? outer.length = some 0 ∧ Cuts s [] more TS' := by
  generalize haround : outer ++ [s] = around at h
  generalize htext : cs ++ ')' :: more = text at h
  induction h generalizing outer cs with
  | done hs => cases hdepth
  | @token spaced around c text ds rest t TS hs ht hrest ih =>
      subst haround htext
      obtain ⟨depth, ht', hdepth⟩ := Option.bind_eq_some_iff.1 hdepth
      rcases hcs : skip spaced cs with _ | ⟨c', ds'⟩
      · -- The parenthesis is the next token. All groups of the text are closed by then.
        rcases skip_close_of_nil hcs hfeed with hnext | hnext
        · obtain ⟨rfl, rfl⟩ := List.cons.inj (hnext.symm.trans hs)
          obtain ⟨rfl, rfl⟩ := Prod.mk.inj (Option.some.inj ht)
          obtain rfl := Option.some.inj ht'
          have hle := le_of_foldlM_depthAfter? hdepth (hrest.close_not_mem hclose)
          obtain rfl := List.length_eq_zero_iff.1 (Nat.le_zero.1 hle)
          exact ⟨[], TS, rfl, .done hcs, rfl, hrest⟩
        · rw [hnext] at hs
          cases hs
      · obtain ⟨rfl, rfl⟩ := List.cons.inj ((skip_close_of_cons hcs more).symm.trans hs)
        have hleaves : c' ≠ ')' → ¬rest <:+ more := by
          intro hc
          have hother : t ≠ .close := by
            rintro rfl
            exact hc (eq_of_token_close ht)
          exact hrest.not_suffix hclose ht' hother hdepth
        obtain ⟨left, halone, rfl⟩ := token_alone_of_not_suffix hfeed ht hrest hleaves
        have hown : t = .close → outer.length ≠ 0 := by
          rintro rfl hnil
          obtain rfl := List.length_eq_zero_iff.1 hnil
          obtain rfl := eq_of_token_close halone
          exact hmatched (.close hcs)
        obtain ⟨inner, hinner⟩ := exists_depthAfter? hown
        obtain rfl := Option.some.inj ((depthAfter?_succ hinner).symm.trans ht')
        obtain ⟨hlength, hspacing⟩ := spacingAfter_append spaced hinner
        rw [hspacing [s]] at ih
        obtain ⟨ts, TS', rfl, hts, hbalanced, hmore⟩ :=
          ih (fun h => hmatched (.token hcs halone h)) (hlength.symm ▸ hdepth) rfl rfl
        refine ⟨t :: ts, TS', rfl, .token hcs halone hts, ?_, hmore⟩
        rw [List.foldlM_cons, hinner]
        exact hlength ▸ hbalanced

/-- A text with an unmatched parenthesis closes a group where none is open. -/
theorem Unmatched.foldlM_depthAfter? {spaced : Bool} {outer : List Bool} {cs : List Char}
    (h : Unmatched spaced outer cs) {ts : List Token} (hts : Cuts spaced outer cs ts) :
    ts.foldlM Token.depthAfter? outer.length = none := by
  induction h generalizing ts with
  | close hs =>
      obtain ⟨ts', rfl, -⟩ := hts.exists_of_token hs rfl
      rfl
  | @token spaced outer c cs ds rest t hs ht hrest ih =>
      obtain ⟨ts', rfl, hts'⟩ := hts.exists_of_token hs ht
      rw [List.foldlM_cons]
      cases hdepth : t.depthAfter? outer.length with
      | none => rfl
      | some depth =>
          have hlength := (spacingAfter_append spaced hdepth).1
          show ts'.foldlM Token.depthAfter? depth = none
          rw [← hlength]
          exact ih hts'

/-! ## Building -/

/-- A text with an unmatched parenthesis is no pattern. -/
theorem Unmatched.tree?_eq_none {cs : List Char} (h : Unmatched false [] cs) : tree? cs = none := by
  cases ht : tree? cs with
  | none => rfl
  | some t =>
      obtain ⟨ts, b, hts, hb, -⟩ := tree?_eq_some_iff.1 ht
      have hdepth := Builder.depthAfter?_of_foldlM hb
      cases (h.foldlM_depthAfter? hts).symm.trans hdepth

theorem Part.depth_le_joinedDepth {p : Part} {ps : List Part} (h : p ∈ ps) :
    p.depth ≤ joinedDepth ps := by
  have hfoldl : ∀ (ps : List Part) (d : Nat),
      d ≤ ps.foldl (fun d p => max d p.depth) d ∧
        ∀ p ∈ ps, p.depth ≤ ps.foldl (fun d p => max d p.depth) d := by
    intro ps
    induction ps with
    | nil => exact fun d => ⟨Nat.le_refl d, by simp⟩
    | cons q ps ih =>
        intro d
        obtain ⟨hle, hall⟩ := ih (max d q.depth)
        refine ⟨(Nat.le_max_left d q.depth).trans hle, List.forall_mem_cons.2 ⟨?_, hall⟩⟩
        exact (Nat.le_max_right d q.depth).trans hle
  have hdeepest := (hfoldl ps 0).2 p h
  rw [joinedDepth]
  split
  · exact hdeepest
  · exact Nat.le_succ_of_le hdeepest

/-- A part is nested at most as deep as all that it is a part of. -/
theorem Level.depth_le_whole {l : Level} {p : Part} (h : p ∈ l.parts) :
    p.depth ≤ l.whole.depth := by
  have hbranch : l.branch.depth ≤ l.whole.depth :=
    Part.depth_le_joinedDepth (List.mem_reverse.2 List.mem_cons_self)
  exact (Part.depth_le_joinedDepth (List.mem_reverse.2 h)).trans hbranch

/-- **A text between parentheses is a pattern only if it is one without them.** At the start of a
pattern, a text that has no unmatched parenthesis stands between parentheses, and at most a dollar
sign follows. If that is a pattern, so is the text, and its tree takes no more room. -/
theorem exists_tree?_of_enclosed {cs more : List Char} (hmatched : ¬Unmatched false [] cs)
    (hmore : more = [] ∨ more = ['$']) {T : Tree}
    (hT : tree? ('^' :: '(' :: '?' :: ':' :: (cs ++ ')' :: more)) = some T) :
    ∃ t, tree? cs = some t ∧ t.room ≤ T.room := by
  obtain ⟨all, B, hall, hB, hclosedB, hdeep, rfl⟩ := tree?_eq_some_iff.1 hT
  obtain ⟨behind, rfl, hbehind⟩ := hall.exists_of_token rfl rfl
  obtain ⟨inner, rfl, hopen⟩ := hbehind.exists_of_token rfl rfl
  have hinner : Cuts false ([] ++ [false]) (cs ++ ')' :: more) inner := hopen
  let around : OpenGroup := ⟨none, (Builder.start.leaf (.look .textStart)).level⟩
  have hinside : inner.foldlM Builder.step? (Builder.start.inside [around] []) = some B := hB
  have hdepth := Builder.depthAfter?_of_foldlM hinside
  rw [hclosedB] at hdepth
  have hfeed : '\n' ∉ more := by rcases hmore with rfl | rfl <;> decide
  have hclose : ')' ∉ more := by rcases hmore with rfl | rfl <;> decide
  obtain ⟨ts, last, rfl, hts, hbalanced, hlast⟩ := hinner.alone hfeed hclose hmatched hdepth
  rw [List.foldlM_append] at hinside
  obtain ⟨C, hC, hinside⟩ := Option.bind_eq_some_iff.1 hinside
  obtain ⟨b, hb⟩ := Builder.exists_of_foldlM_step?_inside (b := .start) hbalanced hC
  obtain rfl := Builder.foldlM_step?_inside hb hC
  have hclosed : b.opened = [] := by
    have hopen := Builder.depthAfter?_of_foldlM hb
    exact List.length_eq_zero_iff.1 (Option.some.inj (hopen.symm.trans hbalanced))
  rw [Builder.inside, hclosed] at hinside
  have hfits : ∀ (B : Builder) (parts : List Part),
      B.level.parts = parts ++ [⟨b.level.whole.tree, b.level.whole.depth + 1, true⟩,
        ⟨.look .textStart, 0, true⟩] →
      B.level.whole.depth ≤ maxDepth → tree? cs = some b.level.whole.tree := by
    intro B parts hparts hdeep
    have hle : b.level.whole.depth + 1 ≤ B.level.whole.depth :=
      Level.depth_le_whole (hparts ▸ List.mem_append_right parts List.mem_cons_self)
    exact tree?_eq_some_iff.2 ⟨ts, b, hts, hb, hclosed, by omega, rfl⟩
  refine ⟨b.level.whole.tree, ?_⟩
  rcases hmore with rfl | rfl
  · obtain rfl := hlast.eq_nil rfl
    obtain rfl := Option.some.inj hinside
    refine ⟨hfits _ [] rfl hdeep, ?_⟩
    show _ ≤ Tree.room (.seq (.look .textStart) b.level.whole.tree)
    simp only [Tree.room]
    omega
  · obtain ⟨none, rfl, hnone⟩ := hlast.exists_of_token rfl rfl
    obtain rfl := hnone.eq_nil rfl
    obtain rfl := Option.some.inj hinside
    refine ⟨hfits _ [_] rfl hdeep, ?_⟩
    show _ ≤ Tree.room (.seq (.look .textStart) (.seq b.level.whole.tree (.look .textEnd)))
    simp only [Tree.room]
    omega

end Interlinear.Regex
