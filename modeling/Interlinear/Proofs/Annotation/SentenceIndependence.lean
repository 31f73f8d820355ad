import Interlinear.Annotation.Annotator
import Interlinear.Proofs.Token.Restart
import Interlinear.Proofs.Token.Truncation

set_option autoImplicit false

/-! # Sentences are annotated independently

What is before a sentence only moves its tokens (`Tokenizer.tokensFrom_add`), and what is after it
does not change them. The annotation of a token does not depend on where it is, and nothing is
carried over from a sentence to the next. So the text of a sentence, annotated on its own, has the
same annotation (`annotate_text_of_mem_annotate`). -/

namespace Interlinear

/-! ## Moving tokens -/

/-- Where a token is does not matter for its annotation. -/
theorem Annotator.tokensFrom_map_shift (a : Annotator) (p : Nat) (afterWord : Bool)
    (ts : List Token) :
    a.tokensFrom afterWord (ts.map (·.shift p)) = a.tokensFrom afterWord ts := by
  induction ts generalizing afterWord with
  | nil => rfl
  | cons t ts ih =>
      rw [List.map_cons, tokensFrom, tokensFrom, ih]
      rfl

/-! ## A single sentence -/

/-- Tokens none of which but the last may end a sentence are a single sentence. -/
theorem sentencesOf_eq_singleton {s : List Token} (hne : s ≠ [])
    (hinner : ∀ a ∈ s.dropLast, a.kind ≠ .sentenceEnd) : sentencesOf s = [s] := by
  induction s with
  | nil => exact absurd rfl hne
  | cons t ts ih =>
      by_cases hts : ts = []
      · subst hts
        rw [sentencesOf]
        split <;> rfl
      · rw [List.dropLast_cons_of_ne_nil hts] at hinner
        obtain ⟨ht, hinner⟩ := List.forall_mem_cons.1 hinner
        rw [sentencesOf_cons_of_ne ts ht, ih hts hinner]

/-- The text of the tokens of a piece of a text is the piece. -/
theorem sentenceText?_tokensFrom (t : Tokenizer) (before after : List Char) {piece : List Char}
    (hne : piece ≠ []) :
    sentenceText? (String.ofList (before ++ piece ++ after))
        (t.tokensFrom (Text.byteLength (String.ofList before)) 0 piece)
      = some (String.ofList piece) := by
  have htiling := t.tiling_tokensFrom (Text.byteLength (String.ofList before)) piece
  exact htiling.sentenceText? after (htiling.ne_nil hne)

/-! ## Independence -/

/-- **Sentences are annotated independently of each other.** The text of every sentence of an
annotated text has, on its own, that sentence as its annotation. -/
theorem annotate_text_of_mem_annotate (a : Annotator) (text : String) {s : AnnotatedSentence}
    (hs : s ∈ a.annotate text) : a.annotate s.text = [s] := by
  obtain ⟨ts, hts, rfl⟩ := List.mem_map.1 hs
  have hgroup := grouping_sentencesOf (Tokenizer.standard.tokens text)
  have hne := hgroup.nonempty ts hts
  have hinner := hgroup.inner ts hts
  obtain ⟨before, piece, after, htext, hpiece, htokens⟩ :=
    Tokenizer.cuttable_standard.exists_piece_of_mem hts
  rw [Nat.zero_add] at htokens
  have hsentence : a.sentence text ts = ⟨String.ofList piece, a.tokensFrom false ts⟩ := by
    have h := sentenceText?_tokensFrom Tokenizer.standard before after hpiece
    rw [htokens, ← htext, String.ofList_toList] at h
    rw [Annotator.sentence, h]
    rfl
  have hwhole : sentenceText? (String.ofList piece) (Tokenizer.standard.tokensFrom 0 0 piece)
      = some (String.ofList piece) := by
    have h := sentenceText?_tokensFrom Tokenizer.standard [] [] hpiece
    rwa [List.append_nil] at h
  have hshift :=
    Tokenizer.standard.tokensFrom_add (Text.byteLength (String.ofList before)) 0 0 piece
  rw [Nat.add_zero, htokens] at hshift
  have htokens' : Tokenizer.standard.tokens (String.ofList piece)
      = Tokenizer.standard.tokensFrom 0 0 piece := by
    rw [Tokenizer.tokens, String.toList_ofList]
  generalize Tokenizer.standard.tokensFrom 0 0 piece = us at hwhole hshift htokens'
  subst hshift
  have hsingle : sentencesOf us = [us] := by
    refine sentencesOf_eq_singleton (fun h => hne (by rw [h]; rfl)) fun b hb => ?_
    rw [← List.map_dropLast] at hinner
    exact hinner (b.shift _) (List.mem_map_of_mem hb)
  rw [hsentence, Annotator.annotate, htokens', hsingle, List.map_singleton, Annotator.sentence,
    hwhole, Annotator.tokensFrom_map_shift]
  rfl

/-- An annotator without dictionaries, whose words are looked up. -/
def withoutDictionaries : Annotator := ⟨⟨.empty, [.apply 0 .lookup, .stop .resolved], false⟩, []⟩

theorem annotate_text_of_second_sentence :
    ∃ s ∈ withoutDictionaries.annotate "a. b: 1", s.text = " b: 1" ∧
      withoutDictionaries.annotate " b: 1" = [s] := by
  have hmem : ⟨" b: 1", [.word "b" (.analyzer (-1)) [.ofForm "b"], .punctuation ":",
      .word "1" .tokenizer [cardinalGloss "1"]]⟩ ∈ withoutDictionaries.annotate "a. b: 1" := by
    rw [Annotator.annotate, Tokenizer.standard_eq]
    decide +kernel
  obtain ⟨s, hs, htext⟩ : ∃ s ∈ withoutDictionaries.annotate "a. b: 1", s.text = " b: 1" :=
    ⟨_, hmem, rfl⟩
  refine ⟨s, hs, htext, ?_⟩
  rw [← htext]
  exact annotate_text_of_mem_annotate withoutDictionaries "a. b: 1" hs

end Interlinear
