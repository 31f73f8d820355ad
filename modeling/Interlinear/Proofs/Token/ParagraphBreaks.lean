import Interlinear.Proofs.Regex.Required
import Interlinear.Proofs.Text.Lines
import Interlinear.Proofs.Token.Characters

set_option autoImplicit false

/-! # Breaks of paragraphs

A break of a paragraph holds two line feeds with no more than a carriage return between them
(`exists_of_mem_paragraphBreak`). Between two line feeds of a paragraph, however, there is a line
that is not blank. So the standard rules find no break in any of the paragraphs into which the lines
of a text are grouped (`paragraphs_group_lines_without_breaks`). -/

namespace Interlinear

/-! ## The rule -/

theorem standard_paragraphBreak : ∀ r ∈ Tokenizer.standard.rules, r.kind = .paragraphBreak →
    r = .lineEnds := by
  rw [Tokenizer.rules_standard]
  decide +kernel

/-! ## The match -/

namespace Regex

theorem exists_of_mem_run_optionalReturn {c d : Cursor} (h : d ∈ optionalReturn.run c) :
    ∃ ret, c.rest = ret ++ d.rest ∧ ret ⊆ ['\r'] := by
  rcases mem_run_alt h with h | h
  · obtain ⟨x, hx, hrest, -⟩ := Cursor.mem_read h
    obtain rfl := CharClass.contains_single.1 hx
    exact ⟨['\r'], hrest, List.Subset.refl _⟩
  · obtain rfl := List.mem_singleton.1 h
    exact ⟨[], rfl, List.nil_subset _⟩

theorem rest_eq_of_mem_run_single {x : Char} {c d : Cursor}
    (h : d ∈ (set (.single x)).run c) : c.rest = x :: d.rest := by
  obtain ⟨y, hy, hrest, -⟩ := Cursor.mem_read h
  obtain rfl := CharClass.contains_single.1 hy
  exact hrest

end Regex

/-- The rule finds two line feeds with at most a carriage return between them. -/
theorem Rule.exists_of_reach?_lineEnds {text : List Char} {n : Nat}
    (h : lineEnds.reach? text = some n) :
    ∃ before gap after, text.take n = before ++ '\n' :: (gap ++ '\n' :: after) ∧ gap ⊆ ['\r'] := by
  obtain ⟨d, hrun, rfl, -⟩ := exists_run_of_reach? (by rfl) h
  obtain ⟨e, he, hed⟩ := Regex.exists_of_mem_run_seq hrun
  -- The first line end.
  obtain ⟨b, hb, hbe⟩ := Regex.exists_of_mem_run_seq he
  obtain ⟨before, htext, -⟩ := Regex.reaches_of_mem_run hb
  have hfirst : b.rest = '\n' :: e.rest := Regex.rest_eq_of_mem_run_single hbe
  -- The second one, with which the repetition begins.
  obtain ⟨f, hf, piece, hpiece, -⟩ := Regex.exists_of_mem_run_plus hed
  obtain ⟨g, hg, hgf⟩ := Regex.exists_of_mem_run_seq hf
  obtain ⟨gap, hgap, hsubset⟩ := Regex.exists_of_mem_run_optionalReturn hg
  have hsecond : g.rest = '\n' :: f.rest := Regex.rest_eq_of_mem_run_single hgf
  have hwhole : text = (before ++ '\n' :: (gap ++ '\n' :: piece)) ++ d.rest := by
    calc text
        = before ++ b.rest := htext
      _ = before ++ '\n' :: (gap ++ '\n' :: (piece ++ d.rest)) := by
          rw [hfirst, hgap, hsecond, hpiece]
      _ = (before ++ '\n' :: (gap ++ '\n' :: piece)) ++ d.rest := by simp
  exact ⟨before, gap, piece, (Regex.reaches_of_mem_run hrun).take_eq hwhole, hsubset⟩

/-- A token that breaks paragraphs holds two line feeds with at most a carriage return between
them. -/
theorem exists_of_mem_paragraphBreak {text : String} {a : Token}
    (ha : a ∈ Tokenizer.standard.tokens text) (hkind : a.kind = .paragraphBreak) :
    ∃ before gap after, a.text.toList = before ++ '\n' :: (gap ++ '\n' :: after) ∧
      gap ⊆ ['\r'] := by
  obtain ⟨rest, n, -, hnext, htext⟩ := Tokenizer.exists_next_of_mem ha
  obtain ⟨r, hr, hrkind, hreach⟩ := Tokenizer.exists_of_next hnext (by rw [hkind]; decide)
  obtain rfl := standard_paragraphBreak r hr (hrkind.trans hkind)
  obtain ⟨before, gap, after, htake, hgap⟩ := Rule.exists_of_reach?_lineEnds hreach
  exact ⟨before, gap, after, htext.trans htake, hgap⟩

/-! ## Paragraphs -/

/-- A paragraph is not broken by the rules for tokens. -/
theorem kind_ne_paragraphBreak_of_mem_paragraphs {text p : String} (hp : p ∈ Text.paragraphs text)
    {a : Token} (ha : a ∈ Tokenizer.standard.tokens p) : a.kind ≠ .paragraphBreak := by
  intro hkind
  obtain ⟨front, back, hcontext, -⟩ :=
    (Tokenizer.standard.tiling_tokensFrom 0 p.toList).exists_context ha
  obtain ⟨before, gap, after, htext, hgap⟩ := exists_of_mem_paragraphBreak ha hkind
  have hfeed : '\n' ∉ gap := fun hmem => absurd (hgap hmem) (by decide)
  have hwhole : p.toList = (front ++ before) ++ '\n' :: (gap ++ '\n' :: (after ++ back)) := by
    rw [hcontext, htext]
    simp
  -- What is between the two line feeds would be a blank line of the paragraph.
  have hblank : Text.isBlankLine gap = true := by
    refine List.all_eq_true.2 fun x hx => ?_
    rw [List.mem_singleton.1 (hgap hx)]
    decide
  rw [Text.not_isBlankLine_between hp hfeed hwhole] at hblank
  contradiction

/-- **Lines and paragraphs.** The paragraphs of a text hold its lines, apart from the blank ones, and
two of them that follow each other are in one paragraph just if no blank line is between them. None
of the paragraphs has a token that breaks paragraphs. -/
theorem paragraphs_group_lines_without_breaks (text : String) :
    (∃ groups, Text.ParagraphGrouping (Text.textLines text.toList) groups ∧
      Text.paragraphs text = groups.map (fun ls => String.ofList (['\n'].intercalate ls)) ∧
      (Text.paragraphs text).map (fun p => p.toList.splitOn '\n') = groups) ∧
    ∀ p ∈ Text.paragraphs text, ∀ a ∈ Tokenizer.standard.tokens p, a.kind ≠ .paragraphBreak := by
  refine ⟨⟨Text.paragraphLines (Text.textLines text.toList), ?_, rfl, ?_⟩, ?_⟩
  · exact Text.grouping_paragraphLines _
  · exact Text.map_splitOn_paragraphs text
  · intro p hp a ha
    exact kind_ne_paragraphBreak_of_mem_paragraphs hp ha

end Interlinear
