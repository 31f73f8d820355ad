import Interlinear.Text.Paragraphs

set_option autoImplicit false

/-! # Lines and paragraphs

A line does not hold the character that ends lines (`feed_not_mem_of_mem_linesOf`). Blank lines
separate paragraphs. They are left out, and all other lines are kept (`Separated`); two of these that
follow each other are in one paragraph just if no blank line was left out between them
(`ParagraphGrouping.shares`). The lines can be read back from the text of a paragraph
(`map_splitOn_paragraphs`). -/

namespace Interlinear.Text

/-! ## Lines -/

theorem withoutReturn_subset {α : Type} [DecidableEq α] (ret : α) (l : List α) :
    withoutReturn ret l ⊆ l := by
  cases l with
  | nil => exact List.Subset.refl []
  | cons c cs =>
      rw [withoutReturn]
      split
      · exact List.subset_cons_self c cs
      · exact List.Subset.refl _

/-- The character that ends lines does not stand in a line. -/
theorem feed_not_mem_of_mem_linesFrom {α : Type} [DecidableEq α] {feed ret : α}
    {line text l : List α} (hline : feed ∉ line) (hl : l ∈ linesFrom feed ret line text) :
    feed ∉ l := by
  induction text generalizing line with
  | nil =>
      rw [linesFrom] at hl
      split at hl
      · simp at hl
      · rw [List.mem_singleton.1 hl, List.mem_reverse]
        exact hline
  | cons c cs ih =>
      rw [linesFrom] at hl
      split at hl
      next =>
        rcases List.mem_cons.1 hl with rfl | hl
        · rw [List.mem_reverse]
          exact fun hmem => hline (withoutReturn_subset ret line hmem)
        · exact ih List.not_mem_nil hl
      next hc =>
        refine ih ?_ hl
        rw [List.mem_cons, not_or]
        exact ⟨fun heq => hc heq.symm, hline⟩

theorem feed_not_mem_of_mem_linesOf {α : Type} [DecidableEq α] {feed ret : α} {text l : List α}
    (hl : l ∈ linesOf feed ret text) : feed ∉ l :=
  feed_not_mem_of_mem_linesFrom List.not_mem_nil hl

theorem trimEnd_subset (cs : List Char) : trimEnd cs ⊆ cs := by
  intro c hc
  rw [trimEnd, List.mem_reverse] at hc
  exact List.mem_reverse.1 ((List.dropWhile_sublist isBlank).subset hc)

theorem trim_subset (cs : List Char) : trim cs ⊆ cs :=
  List.Subset.trans (trimEnd_subset _) (List.dropWhile_sublist isBlank).subset

/-! ## Groups -/

/-- Of the elements of all groups, those with the numbers `n` and `n + 1` are in one group. -/
def SharesWithNext {α : Type} (groups : List (List α)) (n : Nat) : Prop :=
  ∃ before group after, groups = before ++ group :: after ∧ before.flatten.length ≤ n ∧
    n + 1 < before.flatten.length + group.length

section

variable {α : Type} {group : List α} {groups : List (List α)} {n : Nat}

/-- In the first group, all elements but the last share it with the next one. -/
theorem sharesWithNext_cons_of_lt (h : n < group.length) :
    SharesWithNext (group :: groups) n ↔ n + 1 < group.length := by
  constructor
  · rintro ⟨before, g, after, heq, hle, hlt⟩
    cases before with
    | nil =>
        obtain ⟨rfl, -⟩ := List.cons.inj heq
        simpa using hlt
    | cons b before =>
        obtain ⟨rfl, -⟩ := List.cons.inj heq
        rw [List.flatten_cons, List.length_append] at hle
        omega
  · intro hlt
    exact ⟨[], group, groups, rfl, Nat.zero_le n, by simpa using hlt⟩

/-- After the first group, the elements share the groups that are left. -/
theorem sharesWithNext_cons_add :
    SharesWithNext (group :: groups) (group.length + n) ↔ SharesWithNext groups n := by
  constructor
  · rintro ⟨before, g, after, heq, hle, hlt⟩
    cases before with
    | nil =>
        obtain ⟨rfl, -⟩ := List.cons.inj heq
        simp only [List.flatten_nil, List.length_nil] at hlt
        omega
    | cons b before =>
        obtain ⟨rfl, rfl⟩ := List.cons.inj heq
        simp only [List.flatten_cons, List.length_append] at hle hlt
        exact ⟨before, g, after, rfl, by omega, by omega⟩
  · rintro ⟨before, g, after, rfl, hle, hlt⟩
    refine ⟨group :: before, g, after, rfl, ?_, ?_⟩
    · simp only [List.flatten_cons, List.length_append]
      omega
    · simp only [List.flatten_cons, List.length_append]
      omega

/-- One more element at the front of the first group moves all others up by one. -/
theorem sharesWithNext_cons_cons (x : α) :
    SharesWithNext ((x :: group) :: groups) (n + 1) ↔ SharesWithNext (group :: groups) n := by
  by_cases h : n < group.length
  · have hlt : n + 1 < (x :: group).length := by simpa using h
    rw [sharesWithNext_cons_of_lt hlt, sharesWithNext_cons_of_lt h, List.length_cons]
    omega
  · obtain ⟨m, rfl⟩ := Nat.exists_eq_add_of_le (Nat.le_of_not_lt h)
    have hnext : group.length + m + 1 = (x :: group).length + m := by
      rw [List.length_cons]
      omega
    rw [hnext, sharesWithNext_cons_add, sharesWithNext_cons_add]

end

/-! ## Paragraphs -/

/-- Lines that are grouped into paragraphs, line by line: a blank line is left out, a line before a
blank one or at the end is alone at first, and any other joins the paragraph of the next line. -/
inductive Separated : List (List Char) → List (List (List Char)) → Prop where
  | nil : Separated [] []
  | blank {line : List Char} {lines : List (List Char)} {groups : List (List (List Char))}
      (hline : isBlankLine line = true) (hlines : Separated lines groups) :
      Separated (line :: lines) groups
  | alone {line : List Char} {lines : List (List Char)} {groups : List (List (List Char))}
      (hline : isBlankLine line = false)
      (hnext : ∀ next ∈ lines.head?, isBlankLine next = true) (hlines : Separated lines groups) :
      Separated (line :: lines) ([line] :: groups)
  | joined {line next : List Char} {lines group : List (List Char)}
      {groups : List (List (List Char))} (hline : isBlankLine line = false)
      (hnext : isBlankLine next = false)
      (hlines : Separated (next :: lines) ((next :: group) :: groups)) :
      Separated (line :: next :: lines) ((line :: next :: group) :: groups)

/-- The first paragraph begins with the first line if that is not blank. -/
theorem Separated.exists_cons {line : List Char} {lines : List (List Char)}
    {groups : List (List (List Char))} (h : Separated (line :: lines) groups)
    (hline : isBlankLine line = false) : ∃ group rest, groups = (line :: group) :: rest := by
  cases h with
  | blank hblank _ =>
      rw [hline] at hblank
      contradiction
  | alone _ _ _ => exact ⟨[], _, rfl⟩
  | joined _ _ _ => exact ⟨_, _, rfl⟩

theorem separated_paragraphLines (lines : List (List Char)) :
    Separated lines (paragraphLines lines) := by
  fun_induction paragraphLines lines with
  | case1 => exact .nil
  | case2 line hline => exact .blank hline .nil
  | case3 line hline => exact .alone (by simpa using hline) (by simp) .nil
  | case4 line next rest later hline ih => exact .blank hline ih
  | case5 line next rest later hline hnext ih =>
      exact .alone (by simpa using hline) (by simpa using hnext) ih
  | case6 line next rest later hline hnext hlater ih =>
      -- A line that is not blank is never left without a paragraph.
      obtain ⟨group, groups, hgroups⟩ := ih.exists_cons (by simpa using hnext)
      rw [show paragraphLines (next :: rest) = [] from hlater] at hgroups
      contradiction
  | case7 line next rest later hline hnext p ps hlater ih =>
      have hnext : isBlankLine next = false := by simpa using hnext
      obtain ⟨group, groups, hgroups⟩ := ih.exists_cons hnext
      obtain ⟨rfl, rfl⟩ := List.cons.inj (hlater.symm.trans hgroups)
      rw [hgroups] at ih
      exact .joined (by simpa using hline) hnext ih

/-- The groups are the paragraphs of the lines. -/
structure ParagraphGrouping (lines : List (List Char)) (groups : List (List (List Char))) : Prop where
  /-- The lines that are not blank are in them, each once and in order. -/
  flatten : groups.flatten = lines.filter fun line => !isBlankLine line
  nonempty : ∀ group ∈ groups, group ≠ []
  /-- Of the lines that are not blank, two that follow each other share a paragraph just if there
  are no lines between them. -/
  shares : ∀ before line gap next after, lines = before ++ line :: (gap ++ next :: after) →
    isBlankLine line = false → isBlankLine next = false → (∀ l ∈ gap, isBlankLine l = true) →
    (SharesWithNext groups (before.countP fun l => !isBlankLine l) ↔ gap = [])

section

variable {lines : List (List Char)} {groups : List (List (List Char))} (h : Separated lines groups)

include h

theorem Separated.flatten_eq : groups.flatten = lines.filter fun line => !isBlankLine line := by
  induction h with
  | nil => rfl
  | blank hline _ ih => rw [List.filter_cons_of_neg (by simpa using hline), ih]
  | alone hline _ _ ih =>
      rw [List.filter_cons_of_pos (by simpa using hline), List.flatten_cons, ih]
      rfl
  | joined hline _ _ ih =>
      rw [List.filter_cons_of_pos (by simpa using hline), ← ih]
      rfl

theorem Separated.ne_nil : ∀ group ∈ groups, group ≠ [] := by
  induction h with
  | nil => exact List.forall_mem_nil _
  | blank _ _ ih => exact ih
  | alone _ _ _ ih => exact List.forall_mem_cons.2 ⟨List.cons_ne_nil _ _, ih⟩
  | joined _ _ _ ih =>
      exact List.forall_mem_cons.2 ⟨List.cons_ne_nil _ _, (List.forall_mem_cons.1 ih).2⟩

/-- Lines that are not blank share a paragraph if nothing stands between them, and only then. -/
theorem Separated.shares {before : List (List Char)} {line : List Char} {gap : List (List Char)}
    {next : List Char} {after : List (List Char)}
    (hlines : lines = before ++ line :: (gap ++ next :: after)) (hline : isBlankLine line = false)
    (hnext : isBlankLine next = false) (hgap : ∀ l ∈ gap, isBlankLine l = true) :
    SharesWithNext groups (before.countP fun l => !isBlankLine l) ↔ gap = [] := by
  -- If the first of the two lines is further on, it is found among the other lines; their numbers are
  -- smaller by one if the line at the front is not blank.
  induction h generalizing before with
  | nil => simp at hlines
  | @blank front lines groups hfront _ ih =>
      cases before with
      | nil =>
          obtain ⟨rfl, -⟩ := List.cons.inj hlines
          rw [hline] at hfront
          contradiction
      | cons b before =>
          obtain ⟨rfl, rfl⟩ := List.cons.inj hlines
          rw [List.countP_cons_of_neg (by simpa using hfront)]
          exact ih rfl
  | @alone front lines groups hfront hhead _ ih =>
      cases before with
      | nil =>
          obtain ⟨rfl, rfl⟩ := List.cons.inj hlines
          -- What comes next is blank, so it is not the other line.
          have hne : gap ≠ [] := by
            rintro rfl
            have hblank := hhead next rfl
            rw [hnext] at hblank
            contradiction
          rw [List.countP_nil, sharesWithNext_cons_of_lt (by simp)]
          simpa using hne
      | cons b before =>
          obtain ⟨rfl, rfl⟩ := List.cons.inj hlines
          rw [List.countP_cons_of_pos (by simpa using hfront), Nat.add_comm]
          exact sharesWithNext_cons_add.trans (ih rfl)
  | @joined front second lines group groups hfront hsecond _ ih =>
      cases before with
      | nil =>
          obtain ⟨rfl, hrest⟩ := List.cons.inj hlines
          have hnil : gap = [] := by
            cases gap with
            | nil => rfl
            | cons l gap =>
                obtain ⟨rfl, -⟩ := List.cons.inj hrest
                rw [hgap second List.mem_cons_self] at hsecond
                contradiction
          rw [List.countP_nil, sharesWithNext_cons_of_lt (by simp)]
          simpa using hnil
      | cons b before =>
          obtain ⟨rfl, hrest⟩ := List.cons.inj hlines
          rw [List.countP_cons_of_pos (by simpa using hfront)]
          exact (sharesWithNext_cons_cons front).trans (ih hrest)

theorem Separated.grouping : ParagraphGrouping lines groups :=
  ⟨h.flatten_eq, h.ne_nil, fun _ _ _ _ _ => h.shares⟩

end

theorem grouping_paragraphLines (lines : List (List Char)) :
    ParagraphGrouping lines (paragraphLines lines) :=
  (separated_paragraphLines lines).grouping

example : paragraphs "a\nb\r\n \nc" = ["a\nb", "c"] := by decide +kernel

/-! ## Reading paragraphs back -/

/-- The lines of a paragraph are parted by single line feeds. -/
theorem map_splitOn_paragraphs (text : String) :
    (paragraphs text).map (fun p => p.toList.splitOn '\n')
      = paragraphLines (textLines text.toList) := by
  have hgroups := grouping_paragraphLines (textLines text.toList)
  rw [paragraphs, List.map_map]
  refine (List.map_congr_left fun group hgroup => ?_).trans (List.map_id _)
  have hlines : ∀ line ∈ group, '\n' ∉ line := by
    intro line hline
    have hmem : line ∈ (paragraphLines (textLines text.toList)).flatten :=
      List.mem_flatten_of_mem hgroup hline
    rw [hgroups.flatten] at hmem
    exact feed_not_mem_of_mem_linesOf (List.mem_filter.1 hmem).1
  show (String.ofList (['\n'].intercalate group)).toList.splitOn '\n' = group
  rw [String.toList_ofList]
  exact List.splitOn_intercalate '\n' hlines (hgroups.nonempty group hgroup)

theorem not_isBlankLine_of_mem_splitOn {text p : String} (hp : p ∈ paragraphs text)
    {line : List Char} (hline : line ∈ p.toList.splitOn '\n') : isBlankLine line = false := by
  have hmem : line ∈ ((paragraphs text).map fun p => p.toList.splitOn '\n').flatten :=
    List.mem_flatten_of_mem (List.mem_map_of_mem hp) hline
  rw [map_splitOn_paragraphs, (grouping_paragraphLines _).flatten] at hmem
  have hkept := (List.mem_filter.1 hmem).2
  simpa using hkept

/-- Between two line feeds of a paragraph there is a line, which is not blank. -/
theorem not_isBlankLine_between {text p : String} (hp : p ∈ paragraphs text)
    {before gap after : List Char} (hgap : '\n' ∉ gap)
    (htext : p.toList = before ++ '\n' :: (gap ++ '\n' :: after)) : isBlankLine gap = false := by
  have hsplit : p.toList.splitOn '\n'
      = before.splitOn '\n' ++ (gap :: after.splitOn '\n') := by
    have hsingle : gap.splitOn '\n' = [gap] := by
      rw [List.splitOn_eq_splitOnP]
      refine List.splitOnP_eq_singleton fun x hx => ?_
      rw [beq_eq_false_iff_ne]
      rintro rfl
      exact hgap hx
    rw [htext, List.splitOn_eq_splitOnP, List.splitOnP_append_cons _ _ (by simp),
      List.splitOnP_append_cons _ _ (by simp), ← List.splitOn_eq_splitOnP,
      ← List.splitOn_eq_splitOnP, ← List.splitOn_eq_splitOnP, hsingle]
    rfl
  exact not_isBlankLine_of_mem_splitOn hp (by rw [hsplit]; simp)

end Interlinear.Text
