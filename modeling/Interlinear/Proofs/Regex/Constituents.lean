import Interlinear.Proofs.Regex.Builder
import Interlinear.Proofs.Regex.Remainders

set_option autoImplicit false

/-! # Patterns put together of patterns

A pattern between parentheses is read and built there as it is on its own, so the tree of a longer
pattern that is put together of patterns and parentheses is put together of their trees. This is
shown of a pattern that is to match a whole text (`tree?_whole`) and of named groups in a row
(`tree?_namedPieces`).

A pattern that ends in a comment is an exception. It can never be put between parentheses, for the
comment takes the closing one with it, and then a group is left open. -/

namespace Interlinear.Regex

/-! ## Constituents -/

/-- Between parentheses, a pattern is read as the tokens `ts`, and the parenthesis closes its
group. -/
def Encloses (cs : List Char) (ts : List Token) : Prop :=
  ∀ s around more TS, Cuts false (s :: around) (cs ++ ')' :: more) TS →
    ∃ TS', TS = ts ++ .close :: TS' ∧ Cuts s around more TS'

/-- A pattern that can be put between parentheses, with its tokens and what they build. -/
structure Constituent (cs : List Char) (ts : List Token) (b : Builder) : Prop where
  tree : tree? cs = some b.level.whole.tree
  builds : ts.foldlM Builder.step? .start = some b
  closed : b.opened = []
  encloses : Encloses cs ts

/-- A pattern is a text that can be cut into tokens, which build a tree that is not too deep and
leave no group open. -/
theorem tree?_eq_some_iff {cs : List Char} {t : Tree} :
    tree? cs = some t ↔ ∃ ts b, Cuts false [] cs ts ∧ ts.foldlM Builder.step? .start = some b ∧
      b.opened = [] ∧ b.level.whole.depth ≤ maxDepth ∧ b.level.whole.tree = t := by
  constructor
  · intro h
    obtain ⟨ts, hts, h⟩ := Option.bind_eq_some_iff.1 h
    obtain ⟨b, hb, h⟩ := Option.bind_eq_some_iff.1 h
    obtain ⟨p, hp, h⟩ := Option.bind_eq_some_iff.1 h
    rw [Builder.finish?] at hp
    split at hp
    next hclosed =>
      obtain rfl := Option.some.inj hp
      split at h
      next hdeep =>
        exact ⟨ts, b, cuts_of_tokens? hts, hb, List.isEmpty_iff.1 hclosed, hdeep, Option.some.inj h⟩
      next => cases h
    next => cases hp
  · rintro ⟨ts, b, hts, hb, hclosed, hdeep, rfl⟩
    have hfinish : b.finish? = some b.level.whole := if_pos (List.isEmpty_iff.2 hclosed)
    rw [tree?, tokens?_of_cuts hts, Option.bind_some, treeOf?, hb]
    show (b.finish?.bind fun p => if p.depth ≤ maxDepth then some p.tree else none) = _
    rw [hfinish, Option.bind_some, if_pos hdeep]

/-- A pattern that closes its groups can be put between parentheses, unless it ends in a comment. -/
theorem encloses_or_eq {cs : List Char} {ts : List Token} {b : Builder} (hcut : Cuts false [] cs ts)
    (hb : ts.foldlM Builder.step? .start = some b) (hclosed : b.opened = []) :
    Encloses cs ts ∨ ∀ around more TS, '\n' ∉ more →
      Cuts false around (cs ++ ')' :: more) TS → TS = ts := by
  have hdepth : ts.foldlM Token.depthAfter? 0 = some 0 := by
    have hdepth := Builder.depthAfter?_of_foldlM hb
    rwa [hclosed] at hdepth
  rcases hcut.enclosed hdepth with ⟨spaced, outer, houter, hclean⟩ | hgone
  · obtain rfl := List.length_eq_zero_iff.1 houter
    refine Or.inl fun s around more TS hTS => ?_
    obtain ⟨TS', hclose, rfl⟩ := hclean (s :: around) more TS hTS
    obtain ⟨TS'', rfl, hmore⟩ := hclose.exists_of_token (skip_close_nil spaced more) rfl
    exact ⟨TS'', rfl, hmore⟩
  · exact Or.inr hgone

/-- A pattern that is built on its own and as a whole text between parentheses is a constituent, and
its tree is part of the tree of the longer pattern. -/
theorem tree?_whole {cs : List Char} {t T : Tree} (h : tree? cs = some t)
    (hT : tree? ('^' :: '(' :: '?' :: ':' :: (cs ++ [')', '$'])) = some T) :
    (∃ ts b, Constituent cs ts b) ∧ T = .seq (.look .textStart) (.seq t (.look .textEnd)) := by
  obtain ⟨ts, b, hcut, hb, hclosed, -, rfl⟩ := tree?_eq_some_iff.1 h
  obtain ⟨all, B, hall, hB, hclosedB, -, rfl⟩ := tree?_eq_some_iff.1 hT
  obtain ⟨behind, rfl, hbehind⟩ := hall.exists_of_token rfl rfl
  obtain ⟨rest, rfl, hrest⟩ := hbehind.exists_of_token rfl rfl
  let around : OpenGroup := ⟨none, (Builder.start.leaf (.look .textStart)).level⟩
  have hinside : rest.foldlM Builder.step? (Builder.start.inside [around] []) = some B := hB
  rcases encloses_or_eq hcut hb hclosed with hencloses | hgone
  · refine ⟨⟨ts, b, h, hb, hclosed, hencloses⟩, ?_⟩
    obtain ⟨last, rfl, hlast⟩ := hencloses _ _ _ _ hrest
    obtain ⟨none, rfl, hnone⟩ := hlast.exists_of_token rfl rfl
    obtain rfl := hnone.eq_nil rfl
    rw [List.foldlM_append] at hinside
    obtain ⟨C, hC, hinside⟩ := Option.bind_eq_some_iff.1 hinside
    obtain rfl := Builder.foldlM_step?_inside hb hC
    rw [Builder.inside, hclosed] at hinside
    obtain rfl := Option.some.inj hinside
    rfl
  · -- A comment would take the parenthesis with it, and the group would stay open.
    obtain rfl := hgone _ _ _ (by decide) hrest
    obtain rfl := Builder.foldlM_step?_inside hb hinside
    rw [Builder.inside, hclosed] at hclosedB
    contradiction

/-! ## Named groups in a row -/

/-- A pattern in a named group, with its tokens and what they build. -/
structure NamedPiece where
  name : String
  text : List Char
  tokens : List Token
  built : Builder

namespace NamedPiece

/-- The group as it is written. -/
def written (p : NamedPiece) : List Char :=
  '(' :: '?' :: 'P' :: '<' :: (p.name.toList ++ '>' :: (p.text ++ [')']))

/-- The group as a tree. -/
def tree (p : NamedPiece) : Tree := .group p.name p.built.level.whole.tree

/-- The names of the group and of the groups inside, the last one first. -/
def names (p : NamedPiece) : List String := p.built.names ++ [p.name]

/-- The pattern can be put between parentheses, and the name between angle brackets. -/
structure Fits (p : NamedPiece) : Prop where
  constituent : Constituent p.text p.tokens p.built
  name : '>' ∉ p.name.toList

end NamedPiece

theorem token_openNamed {name : String} (hname : '>' ∉ name.toList) {cs rest : List Char}
    {t : Token}
    (h : token false '(' ('?' :: 'P' :: '<' :: (name.toList ++ '>' :: cs)) = some (t, rest)) :
    t = .openNamed name ∧ rest = cs := by
  have hspan : (name.toList ++ '>' :: cs).span (· != '>') = (name.toList, '>' :: cs) := by
    have hall : ∀ c ∈ name.toList, (c != '>') = true := by
      intro c hc
      rw [bne_iff_ne]
      rintro rfl
      exact hname hc
    rw [List.span_eq_takeWhile_dropWhile, List.takeWhile_append_of_pos hall,
      List.dropWhile_append_of_pos hall]
    simp
  have hstart : groupName (name.toList ++ '>' :: cs) = some (t, rest) := h
  have hstart : (if isGroupName name.toList
      then some (.openNamed (String.ofList name.toList), cs) else none) = some (t, rest) := by
    rwa [groupName, hspan] at hstart
  split at hstart
  · obtain ⟨rfl, rfl⟩ := Prod.mk.inj (Option.some.inj hstart)
    exact ⟨by rw [String.ofList_toList], rfl⟩
  · contradiction

/-- A named group adds one part to the branch. -/
theorem exists_of_cuts_written {p : NamedPiece} (hp : p.Fits) {around : List Bool}
    {more : List Char} {TS : List Token} {B C : Builder} (hB : B.level.flags = .initial)
    (hcut : Cuts false around (p.written ++ more) TS) (hC : TS.foldlM Builder.step? B = some C) :
    ∃ rest depth, Cuts false around more rest ∧
      rest.foldlM Builder.step? ⟨B.level.push ⟨p.tree, depth, true⟩, B.opened, p.names ++ B.names⟩
        = some C := by
  have hskip : skip false (p.written ++ more)
      = '(' :: '?' :: 'P' :: '<' :: (p.name.toList ++ '>' :: (p.text ++ ')' :: more)) := by
    simp [skip, NamedPiece.written]
  obtain ⟨t, rest, behind, ht, rfl, hbehind⟩ := hcut.exists_cons hskip
  obtain ⟨rfl, rfl⟩ := token_openNamed hp.name ht
  obtain ⟨rest, rfl, hrest⟩ := hp.constituent.encloses _ _ _ _ hbehind
  obtain ⟨B₁, hB₁, hC⟩ := Option.bind_eq_some_iff.1 hC
  rw [Builder.step?] at hB₁
  split at hB₁
  · contradiction
  · obtain rfl := Option.some.inj hB₁
    rw [List.foldlM_append] at hC
    obtain ⟨B₂, hB₂, hC⟩ := Option.bind_eq_some_iff.1 hC
    -- Behind the opening sign a level begins, as at the start of the pattern on its own.
    have hopen : Builder.openGroup { B with names := p.name :: B.names } (some p.name) B.level.flags
        = Builder.start.inside (⟨some p.name, B.level⟩ :: B.opened) (p.name :: B.names) := by
      rw [Builder.openGroup, hB]
      rfl
    rw [hopen] at hB₂
    obtain rfl := Builder.foldlM_step?_inside hp.constituent.builds hB₂
    rw [Builder.inside, hp.constituent.closed] at hC
    refine ⟨rest, p.built.level.whole.depth + 1, hrest, ?_⟩
    rw [NamedPiece.names, List.append_assoc]
    exact hC

/-- Named groups in a row add one part each. -/
theorem exists_of_cuts_flatMap_written {pieces : List NamedPiece} (hp : ∀ p ∈ pieces, p.Fits)
    {around : List Bool} {more : List Char} {TS : List Token} {B C : Builder}
    (hB : B.level.flags = .initial)
    (hcut : Cuts false around (pieces.flatMap NamedPiece.written ++ more) TS)
    (hC : TS.foldlM Builder.step? B = some C) :
    ∃ (rest : List Token) (parts : List Part), Cuts false around more rest ∧
      parts.map Part.tree = pieces.map NamedPiece.tree ∧
      rest.foldlM Builder.step? ⟨⟨.initial, B.level.branches, parts.reverse ++ B.level.parts⟩,
        B.opened, pieces.reverse.flatMap NamedPiece.names ++ B.names⟩ = some C := by
  induction pieces generalizing TS B with
  | nil =>
      refine ⟨TS, [], hcut, rfl, ?_⟩
      obtain ⟨⟨flags, branches, parts⟩, opened, names⟩ := B
      obtain rfl : flags = .initial := hB
      exact hC
  | cons p pieces ih =>
      obtain ⟨hp, hps⟩ := List.forall_mem_cons.1 hp
      rw [List.flatMap_cons, List.append_assoc] at hcut
      obtain ⟨rest, depth, hrest, hbuilt⟩ := exists_of_cuts_written hp hB hcut hC
      obtain ⟨rest', parts, hrest', hparts, hbuilt⟩ :=
        ih hps (B := ⟨B.level.push ⟨p.tree, depth, true⟩, B.opened, p.names ++ B.names⟩) hB hrest
          hbuilt
      refine ⟨rest', ⟨p.tree, depth, true⟩ :: parts, hrest', ?_, ?_⟩
      · rw [List.map_cons, List.map_cons, hparts]
      · simpa [Level.push] using hbuilt

/-- **Named groups in a row.** The tree of a whole text of named groups is the sequence of their
trees. All names in it are different. -/
theorem tree?_namedPieces {pieces : List NamedPiece} (hp : ∀ p ∈ pieces, p.Fits) {T : Tree}
    (hT : tree? ('^' :: (pieces.flatMap NamedPiece.written ++ ['$'])) = some T) :
    (pieces.reverse.flatMap NamedPiece.names).Nodup ∧
      ∃ parts : List Part, T = Part.sequence parts ∧
        parts.map Part.tree
          = .look .textStart :: (pieces.map NamedPiece.tree ++ [.look .textEnd]) := by
  obtain ⟨all, B, hall, hB, hclosed, -, rfl⟩ := tree?_eq_some_iff.1 hT
  have hnodup := Builder.nodup_names hB
  obtain ⟨behind, rfl, hbehind⟩ := hall.exists_of_token rfl rfl
  obtain ⟨rest, parts, hrest, hparts, hB⟩ :=
    exists_of_cuts_flatMap_written (B := Builder.start.leaf (.look .textStart)) hp rfl hbehind hB
  obtain ⟨none, rfl, hnone⟩ := hrest.exists_of_token rfl rfl
  obtain rfl := hnone.eq_nil rfl
  obtain rfl := Option.some.inj hB
  refine ⟨?_, ⟨.look .textStart, 0, true⟩ :: (parts ++ [⟨.look .textEnd, 0, true⟩]), ?_, ?_⟩
  · have hnames : (pieces.reverse.flatMap NamedPiece.names ++ []).Nodup := hnodup
    rwa [List.append_nil] at hnames
  · show Part.sequence (_ :: (parts.reverse ++ [_])).reverse = _
    rw [List.reverse_cons, List.reverse_append, List.reverse_reverse]
    rfl
  · simp [hparts]

end Interlinear.Regex
