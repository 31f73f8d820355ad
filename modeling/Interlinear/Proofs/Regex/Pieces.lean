import Interlinear.Proofs.Regex.Constituents
import Interlinear.Proofs.Regex.Groups
import Interlinear.Proofs.Regex.Truncation
import Mathlib.Data.List.Nodup

set_option autoImplicit false

/-! # Cutting a text by named groups

A pattern that consists of named groups in a row, from the start of the text to its end, cuts every
text that it matches into the pieces that its groups remember
(`Regex.exists_pieces_of_namedPieces`). -/

namespace Interlinear.Regex

/-! ## Sequences -/

/-- What matches regular expressions one after the other. -/
def joined : List Regex → Regex
  | [] => empty
  | [r] => r
  | r :: rs => r.andThen (joined rs)

/-- The regular expression of a tree, with marks from any number on. -/
def IsLowered (t : Tree) (r : Regex) : Prop := ∃ n, r = ((lower false t).run n).1

theorem exists_lower_sequence (ps : List Part) (n : Nat) :
    ∃ rs, List.Forall₂ IsLowered (ps.map Part.tree) rs ∧
      ((lower false (Part.sequence ps)).run n).1 = joined rs := by
  induction ps generalizing n with
  | nil => exact ⟨[], .nil, rfl⟩
  | cons p ps ih =>
      cases ps with
      | nil => exact ⟨[_], .cons ⟨n, rfl⟩ .nil, rfl⟩
      | cons q qs =>
          obtain ⟨rs, hrs, heq⟩ := ih ((lower false p.tree).run n).2
          cases hrs with
          | @cons _ r _ rs hr hrs =>
              let first := ((lower false p.tree).run n).1
              exact ⟨first :: r :: rs, .cons ⟨n, rfl⟩ (.cons hr hrs), congrArg first.andThen heq⟩

theorem andThen_foldl_seq (r s : Regex) (rs : List Regex) :
    r.andThen (rs.foldl seq s) = rs.foldl seq (r.andThen s) := by
  induction rs generalizing s with
  | nil => rfl
  | cons t rs ih => exact ih (seq s t)

/-- Sequences are grouped to the left. -/
theorem joined_cons {r : Regex} {rs : List Regex} (h : ∀ s ∈ rs, ∀ r, r.andThen s = seq r s) :
    joined (r :: rs) = rs.foldl seq r := by
  induction rs generalizing r with
  | nil => rfl
  | cons s rs ih =>
      obtain ⟨hs, hrs⟩ := List.forall_mem_cons.1 h
      show r.andThen (joined (s :: rs)) = rs.foldl seq (seq r s)
      rw [ih hrs, andThen_foldl_seq, hs]

theorem anchored_foldl_seq {r : Regex} (h : r.anchored = true) (rs : List Regex) :
    (rs.foldl seq r).anchored = true := by
  induction rs generalizing r with
  | nil => exact h
  | cons s rs ih => exact ih (by simp [anchored, h])

theorem through_append {rs rs' : List Regex} {c d : Cursor} (h : Through (rs ++ rs') c d) :
    ∃ e, Through rs c e ∧ Through rs' e d := by
  induction rs generalizing c with
  | nil => exact ⟨c, rfl, h⟩
  | cons r rs ih =>
      obtain ⟨e, he, h⟩ := h
      obtain ⟨e', hrs, hrs'⟩ := ih h
      exact ⟨e', ⟨e, he, hrs⟩, hrs'⟩

/-! ## Named groups from the start of a text to its end -/

theorem isLowered_group {name : String} {t : Tree} {r : Regex}
    (h : IsLowered (.group name t) r) : ∃ r', r = group name r' ∧ IsLowered t r' := by
  obtain ⟨n, rfl⟩ := h
  exact ⟨_, rfl, n, rfl⟩

theorem isLowered_look {l : Look} {r : Regex} (h : IsLowered (.look l) r) : r = look l := by
  obtain ⟨n, rfl⟩ := h
  rfl

/-- The regular expressions of named groups in a row, each with its group. -/
theorem exists_groups_of_forall₂ {pieces : List NamedPiece} {rs : List Regex}
    (h : List.Forall₂ IsLowered (pieces.map NamedPiece.tree ++ [.look .textEnd]) rs) :
    ∃ groups : List (NamedPiece × Regex), groups.map Prod.fst = pieces ∧
      (∀ g ∈ groups, IsLowered g.1.built.level.whole.tree g.2) ∧
      rs = groups.map (fun g => group g.1.name g.2) ++ [look .textEnd] := by
  induction pieces generalizing rs with
  | nil =>
      cases h with
      | cons hr hrs =>
          cases hrs
          rw [isLowered_look hr]
          exact ⟨[], rfl, by simp, rfl⟩
  | cons p pieces ih =>
      cases h with
      | cons hr hrs =>
          obtain ⟨r, rfl, hlowered⟩ := isLowered_group hr
          obtain ⟨groups, rfl, hgroups, rfl⟩ := ih hrs
          exact ⟨(p, r) :: groups, rfl, List.forall_mem_cons.2 ⟨hlowered, hgroups⟩, rfl⟩

/-- A name is not given again, neither to a later group nor inside of one. -/
theorem pairwise_names {groups : List (NamedPiece × Regex)}
    (hfits : ∀ g ∈ groups, g.1.Fits)
    (hlowered : ∀ g ∈ groups, IsLowered g.1.built.level.whole.tree g.2)
    (hnodup : ((groups.map Prod.fst).reverse.flatMap NamedPiece.names).Nodup) :
    groups.Pairwise fun g g' => g.1.name ≠ g'.1.name ∧ g.1.name ∉ g'.2.groupNames := by
  have hdisjoint := (List.nodup_flatMap.1 hnodup).2
  rw [List.pairwise_reverse, List.pairwise_map] at hdisjoint
  refine hdisjoint.imp_of_mem fun {g g'} _ hg' h => ?_
  have hname : g.1.name ∈ g.1.names := by simp [NamedPiece.names]
  have hinside : g'.2.groupNames ⊆ g'.1.names := by
    obtain ⟨n, hn⟩ := hlowered g' hg'
    rw [hn]
    have hbuilt := Builder.groupNames_subset (hfits g' hg').constituent.builds
    exact List.subset_append_of_subset_left _
      (List.Subset.trans (groupNames_lower false _ n) hbuilt)
  refine ⟨fun heq => ?_, fun hmem => h (hinside hmem) hname⟩
  exact h (a := g'.1.name) (by simp [NamedPiece.names]) (heq ▸ hname)

/-- **Named groups cut a text.** A pattern of named groups from the start of a text to its end cuts
every text that it matches into pieces without a gap. Each group remembers its piece, which was read
by the expression in the group. -/
theorem exists_pieces_of_namedPieces {pieces : List NamedPiece} (hfits : ∀ p ∈ pieces, p.Fits)
    {T : Tree} (hT : tree? ('^' :: (pieces.flatMap NamedPiece.written ++ ['$'])) = some T)
    {text : List Char} {d : Cursor}
    (hd : ((lower false T).run 0).1.find? text = some d) :
    ∃ texts : List (List Char), texts.flatten = text ∧
      List.Forall₂ (fun p piece => d.group? p.name = some piece ∧
        ∃ r e e', IsLowered p.built.level.whole.tree r ∧ e' ∈ r.run e ∧ e.rest = piece ++ e'.rest)
        pieces texts := by
  obtain ⟨hnodup, parts, rfl, hparts⟩ := tree?_namedPieces hfits hT
  obtain ⟨rs, hrs, hR⟩ := exists_lower_sequence parts 0
  rw [hparts] at hrs
  cases hrs with
  | @cons _ r _ rs hr hrs =>
      obtain rfl := isLowered_look hr
      obtain ⟨groups, rfl, hlowered, rfl⟩ := exists_groups_of_forall₂ hrs
      -- Neither a group nor a look is itself a sequence that would be taken apart.
      have hplain : ∀ s ∈ groups.map (fun g => group g.1.name g.2) ++ [look .textEnd],
          ∀ r : Regex, r.andThen s = seq r s := by
        intro s hs r
        rcases List.mem_append.1 hs with hs | hs
        · obtain ⟨g, -, rfl⟩ := List.mem_map.1 hs
          rfl
        · obtain rfl := List.mem_singleton.1 hs
          rfl
      rw [hR, joined_cons hplain, find?_of_anchored (anchored_foldl_seq rfl _)] at hd
      obtain ⟨c, hc, hthrough⟩ := through_of_mem_run_foldl (List.mem_of_head? hd)
      obtain ⟨rfl, -⟩ := eq_of_mem_run_look hc
      obtain ⟨e, hthrough, d', hd', hend⟩ := through_append hthrough
      obtain rfl : d = d' := hend
      obtain ⟨rfl, hend⟩ := eq_of_mem_run_look hd'
      have hrest : d.rest = [] := by simpa [Look.holds] using hend
      have hnames := pairwise_names (fun g hg => hfits g.1 (List.mem_map_of_mem hg)) hlowered hnodup
      have hgroups : Through ((groups.map fun g => (g.1.name, g.2)).map fun g => group g.1 g.2)
          (.start text) d := by
        rw [List.map_map]
        exact hthrough
      obtain ⟨texts, htexts, hall⟩ := exists_pieces_of_through (by rwa [List.pairwise_map]) hgroups
      rw [hrest, List.append_nil] at htexts
      refine ⟨texts, htexts.symm, ?_⟩
      rw [List.forall₂_map_left_iff] at hall ⊢
      refine ((List.forall₂_and_left groups texts).2 ⟨hlowered, hall⟩).imp ?_
      rintro g piece ⟨hg, hmem, e, e', he, hrest⟩
      exact ⟨hmem, g.2, e, e', hg, he, hrest⟩

end Interlinear.Regex
