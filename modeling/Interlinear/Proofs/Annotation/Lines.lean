import Interlinear.Annotation.Print
import Interlinear.Proofs.Gloss.Lines
import Mathlib.Algebra.GroupWithZero.Nat
import Mathlib.Data.List.Basic

set_option autoImplicit false

/-! # Printed lines

Annotated text is printed one token to a line. A token is on one line if all texts that are printed
of it are (`AnnotatedToken.OneLine`), except that a comment is brought onto one line when it is
printed. If this holds of all tokens, the lines of the printed text are those of the tokens, with
one more at the end of each sentence (`splitOn_printed`). -/

namespace Interlinear

open Text

/-! ## Numbers -/

theorem oneLine_repr (n : Nat) : OneLine (Nat.repr n) := by
  intro h
  rw [Nat.repr, String.toList_ofList] at h
  have hdigit := Nat.isDigit_of_mem_toDigits (by decide) (by decide) h
  exact absurd hdigit (by decide)

theorem oneLine_toString (n : Int) : OneLine (toString n) := by
  cases n with
  | ofNat n => exact oneLine_repr n
  | negSucc n =>
      show OneLine ("-" ++ Nat.repr (n + 1))
      exact oneLine_append.2 ⟨by decide, oneLine_repr (n + 1)⟩

/-! ## Tokens on one line -/

/-- All texts that are printed of a token as they are, are on one line. -/
def AnnotatedToken.OneLine : AnnotatedToken → Prop
  | word text _ glosses => Text.OneLine text ∧ ∀ g ∈ glosses, g.OneLine
  | punctuation text | sentenceEnd text | tag text => Text.OneLine text
  | comment _ => True

theorem oneLine_unbroken (text : String) : Text.OneLine (unbroken text) := by
  intro h
  rw [unbroken, String.toList_ofList] at h
  obtain ⟨c, -, hc⟩ := List.mem_map.1 h
  split at hc
  · exact absurd hc (by decide)
  next hne => exact hne hc

theorem Origin.oneLine_text (origin : Origin) : Text.OneLine origin.text := by
  cases origin with
  | tokenizer => decide
  | analyzer stage => exact oneLine_toString stage.toInt

/-- A token that is on one line is printed on one line. -/
theorem AnnotatedToken.OneLine.line {t : AnnotatedToken} (h : t.OneLine) : Text.OneLine t.line := by
  have hplain : Text.OneLine "\t" ∧ Text.OneLine " | " ∧ Text.OneLine "\tc" ∧
      Text.OneLine "\ttag" ∧ Text.OneLine "\tcomment" := by
    decide
  obtain ⟨htab, hbar, hc, htag, hcomment⟩ := hplain
  cases t with
  | word text origin glosses =>
      obtain ⟨htext, hglosses⟩ := h
      simp only [AnnotatedToken.line, oneLine_append]
      refine ⟨⟨⟨⟨htext, htab⟩, origin.oneLine_text⟩, htab⟩, ?_⟩
      exact oneLine_intercalate hbar (List.forall_mem_map.2 fun g hg => (hglosses g hg).text)
  | punctuation text | sentenceEnd text => exact oneLine_append.2 ⟨h, hc⟩
  | tag text => exact oneLine_append.2 ⟨h, htag⟩
  | comment text => exact oneLine_append.2 ⟨oneLine_unbroken text, hcomment⟩

/-! ## Lines -/

/-- Lines that are printed with a line feed after each are the lines of what is printed; nothing is
left after the last line feed. -/
theorem splitOn_flatMap_lineFeed {lines : List (List Char)} (h : ∀ l ∈ lines, '\n' ∉ l) :
    (lines.flatMap (· ++ ['\n'])).splitOn '\n' = lines ++ [[]] := by
  have hprinted : lines.flatMap (· ++ ['\n']) = ['\n'].intercalate (lines ++ [[]]) := by
    clear h
    induction lines with
    | nil => rfl
    | cons l lines ih =>
        rw [List.flatMap_cons, ih, List.cons_append,
          List.intercalate_cons_of_ne_nil (List.append_ne_nil_of_right_ne_nil lines (by simp))]
  rw [hprinted]
  refine List.splitOn_intercalate '\n' ?_ (by simp)
  intro l hl
  rcases List.mem_append.1 hl with hl | hl
  · exact h l hl
  · rw [List.mem_singleton.1 hl]
    exact List.not_mem_nil

/-- Each line that is printed adds one line feed. -/
theorem count_flatMap_lineFeed {lines : List (List Char)} (h : ∀ l ∈ lines, '\n' ∉ l) :
    (lines.flatMap (· ++ ['\n'])).count '\n' = lines.length := by
  induction lines with
  | nil => rfl
  | cons l lines ih =>
      obtain ⟨hl, hlines⟩ := List.forall_mem_cons.1 h
      rw [List.flatMap_cons, List.count_append, List.count_append, ih hlines,
        List.count_eq_zero.2 hl, List.length_cons]
      simp [Nat.add_comm]

theorem AnnotatedSentence.map_toList_lines (s : AnnotatedSentence) :
    s.lines.map String.toList = s.tokens.map (·.line.toList) ++ ["EOS".toList] := by
  rw [lines, List.map_append, List.map_map]
  rfl

theorem AnnotatedSentence.toList_printed (s : AnnotatedSentence) :
    s.printed.toList = (s.lines.map String.toList).flatMap (· ++ ['\n']) := by
  rw [printed, String.toList_join, List.flatMap_map, List.flatMap_map]
  refine List.flatMap_congr fun l _ => ?_
  rw [String.toList_append]
  rfl

/-- Texts that are put together in groups are put together. -/
theorem join_map_join (tss : List (List String)) :
    String.join (tss.map String.join) = String.join tss.flatten := by
  induction tss with
  | nil => rfl
  | cons ts tss ih =>
      rw [List.map_cons, String.join_cons, ih, List.flatten_cons, String.join_append]

/-- Printed sentences are their lines, each with a line feed. -/
theorem toList_printed (ss : List AnnotatedSentence) :
    (String.join (ss.map (·.printed))).toList
      = ((ss.flatMap (·.lines)).map String.toList).flatMap (· ++ ['\n']) := by
  induction ss with
  | nil => rfl
  | cons s ss ih =>
      rw [List.map_cons, String.join_cons, String.toList_append, ih, List.flatMap_cons,
        List.map_append, List.flatMap_append, s.toList_printed]

variable {ss : List AnnotatedSentence} (h : ∀ s ∈ ss, ∀ t ∈ s.tokens, t.OneLine)

include h

theorem oneLine_of_mem_lines : ∀ l ∈ (ss.flatMap (·.lines)).map String.toList, '\n' ∉ l := by
  intro l hl
  obtain ⟨line, hline, rfl⟩ := List.mem_map.1 hl
  obtain ⟨s, hs, hline⟩ := List.mem_flatMap.1 hline
  rcases List.mem_append.1 hline with hline | hline
  · obtain ⟨t, ht, rfl⟩ := List.mem_map.1 hline
    exact (h s hs t ht).line
  · rw [List.mem_singleton.1 hline]
    decide

/-- **Printed lines.** Sentences whose tokens are each on one line are printed one token to a line,
with one more line for the end of each sentence. -/
theorem splitOn_printed : (String.join (ss.map (·.printed))).toList.splitOn '\n'
    = (ss.flatMap (·.lines)).map String.toList ++ [[]] := by
  rw [toList_printed, splitOn_flatMap_lineFeed (oneLine_of_mem_lines h)]

theorem count_printed : (String.join (ss.map (·.printed))).toList.count '\n'
    = (ss.map fun s => s.tokens.length + 1).sum := by
  rw [toList_printed, count_flatMap_lineFeed (oneLine_of_mem_lines h), List.length_map,
    List.length_flatMap]
  congr 1
  refine List.map_congr_left fun s _ => ?_
  rw [AnnotatedSentence.lines, List.length_append, List.length_map, List.length_singleton]

end Interlinear
