import Interlinear.Proofs.Text.CodeRanges
import Interlinear.Text.Blank
import Interlinear.Text.Digit
import Interlinear.Text.Property
import Interlinear.Text.WordChar

set_option autoImplicit false

/-! # Word characters

Letters, marks and decimal digits are word characters (`isWordChar_of_letter`, `isWordChar_of_mark`,
`isWordChar_of_isDigit`), and blank characters are not (`isWordChar_of_isBlank`). All of this is
read off the tables. -/

namespace Interlinear.Text

/-- The characters that are letters of any kind, those of scripts without case among them. -/
def letter : Property := categories ["ll", "lm", "lo", "lt", "lu"]

/-- The characters that are combining marks. -/
def mark : Property := categories ["mc", "me", "mn"]

/-! ## The tables -/

theorem isChain_wordRanges : wordRanges.IsChain CodeRange.Before := by decide +kernel

theorem isWordChar_of_isBlank {c : Char} (h : isBlank c = true) : isWordChar c = false := by
  have hset : Nat.land (rangeSet blankRanges) (rangeSet wordRanges) = 0 := by decide +kernel
  exact inRanges_of_disjoint hset h

theorem isWordChar_of_isDigit {c : Char} (h : isDigit c = true) : isWordChar c = true := by
  have hset : Nat.lor (rangeSet digitRanges) (rangeSet wordRanges) = rangeSet wordRanges := by
    decide +kernel
  exact inRanges_of_subset isChain_wordRanges hset h

/-! ## General categories -/

/-- A row of a table lists word characters only. -/
def PropertyRow.IsOfWords (row : PropertyRow) : Prop :=
  ∀ n, inRanges row.ranges n = true → inRanges wordRanges n = true

theorem PropertyRow.ranges_eq {row : PropertyRow} {lines : List (List Char)}
    (h : row.written.Forall₂ (fun line cs => line = String.ofList cs) lines) :
    row.ranges = lines.flatMap (readRanges none 0) := by
  rw [PropertyRow.ranges]
  generalize row.written = written at h
  induction h with
  | nil => rfl
  | cons hline _ ih => rw [List.flatMap_cons, List.flatMap_cons, ih, hline, String.toList_ofList]

theorem PropertyRow.isOfWords {row : PropertyRow} {lines : List (List Char)}
    (h : row.written.Forall₂ (fun line cs => line = String.ofList cs) lines)
    (hset : Nat.lor (rangeSet (lines.flatMap (readRanges none 0))) (rangeSet wordRanges) =
      rangeSet wordRanges) : row.IsOfWords := by
  intro n hn
  rw [ranges_eq h] at hn
  exact inRanges_of_subset isChain_wordRanges hset hn

set_option maxRecDepth 10000 in
/-- The rows of letters and of marks list word characters only. -/
theorem isOfWords_categoryRows : ∀ row ∈ categoryRows,
    (∃ key ∈ ["ll", "lm", "lo", "lt", "lu"] ++ ["mc", "me", "mn"], row.names.contains key) →
      row.IsOfWords := by
  dsimp only [categoryRows]
  repeat
    refine List.forall_mem_cons.2 ⟨?_, ?_⟩
    · first
      | exact fun h => absurd h (by decide +kernel)
      | intro _
        apply PropertyRow.isOfWords
        -- The lines are texts, which take long to be decoded. So their characters are found by
        -- unification, and only the ranges that these write are computed.
        · repeat apply List.Forall₂.cons; exact rfl
          exact .nil
        · decide +kernel
  exact List.forall_mem_nil _

theorem exists_row_of_holds {keys : List String} {c : Char} (h : (categories keys).holds c = true) :
    ∃ row ∈ categoryRows, (∃ key ∈ keys, row.names.contains key) ∧
      inRanges row.ranges c.toNat = true := by
  rw [Property.holds, categories, List.any_eq_true] at h
  obtain ⟨t, ht, hc⟩ := h
  obtain ⟨key, hkey, hrows⟩ := List.mem_filterMap.1 ht
  obtain ⟨row, hrow, rfl⟩ := Option.map_eq_some_iff.1 hrows
  have hname : row.names.contains key = true := by simpa using List.find?_some hrow
  exact ⟨row, List.mem_of_find?_eq_some hrow, ⟨key, hkey, hname⟩, hc⟩

theorem isWordChar_of_letter {c : Char} (h : letter.holds c = true) : isWordChar c = true := by
  obtain ⟨row, hrow, ⟨key, hkey, hname⟩, hc⟩ := exists_row_of_holds h
  exact isOfWords_categoryRows row hrow ⟨key, List.mem_append_left _ hkey, hname⟩ _ hc

theorem isWordChar_of_mark {c : Char} (h : mark.holds c = true) : isWordChar c = true := by
  obtain ⟨row, hrow, ⟨key, hkey, hname⟩, hc⟩ := exists_row_of_holds h
  exact isOfWords_categoryRows row hrow ⟨key, List.mem_append_right _ hkey, hname⟩ _ hc

end Interlinear.Text
