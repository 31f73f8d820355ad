import Interlinear.Annotation.Annotator
import Interlinear.Proofs.Annotation.Lines
import Interlinear.Proofs.Token.Characters
import Mathlib.Data.List.Forall2

set_option autoImplicit false

/-! # No text is lost

The tokens of a text tile it, and sentences are neighbouring tokens, so the text from the first
token of a sentence to its last is that of its tokens (`Tiling.sentenceText?_of_mem`), and the texts
of the sentences are put together to the text again. Of the tokens of a sentence, only blank space
is not annotated (`Annotator.map_text_tokensFrom`). -/

namespace Interlinear

/-! ## The texts of sentences -/

/-- Where tokens that tile a text are grouped, the text of each group is that of its tokens. -/
theorem Tiling.sentenceText?_of_mem {text : String} {ss : List (List Token)}
    (h : Tiling 0 text.toList ss.flatten) {s : List Token} (hs : s ∈ ss) (hne : s ≠ []) :
    Interlinear.sentenceText? text s = some (String.join (s.map (·.text))) := by
  obtain ⟨ss₁, ss₂, rfl⟩ := List.append_of_mem hs
  rw [List.flatten_append, List.flatten_cons] at h
  obtain ⟨before, rest, htext, -, hrest⟩ := h.exists_of_append
  rw [Nat.zero_add] at hrest
  obtain ⟨piece, after, rfl, hpiece, -⟩ := hrest.exists_of_append
  have hslice := hpiece.sentenceText? after hne
  rw [List.append_assoc, ← htext, String.ofList_toList] at hslice
  rw [hslice, hpiece.join_text]

namespace Annotator

variable (a : Annotator)

/-! ## The annotated tokens -/

/-- The annotation of a token keeps its text. Blank space has none. -/
theorem map_text_token? (afterWord : Bool) (t : Token) :
    (a.token? afterWord t).map (·.text) = if t.kind.isBlank then none else some t.text := by
  unfold token?
  cases t.kind with
  | paragraphBreak | lineBreak | space => rfl
  | comment | sentenceEnd | tag | punctuation | other | cardinal => rfl
  | word => rfl

/-- The annotated tokens are those that are not blank space. -/
theorem map_text_tokensFrom (afterWord : Bool) (ts : List Token) :
    (a.tokensFrom afterWord ts).map (·.text)
      = (ts.filter fun t => !t.kind.isBlank).map (·.text) := by
  induction ts generalizing afterWord with
  | nil => rfl
  | cons t ts ih =>
      have ht := a.map_text_token? afterWord t
      rw [tokensFrom, List.map_append, ih]
      cases hkind : t.kind.isBlank with
      | true =>
          rw [hkind, if_pos rfl, Option.map_eq_none_iff] at ht
          rw [ht, List.filter_cons_of_neg (by simp [hkind])]
          rfl
      | false =>
          rw [hkind, if_neg Bool.false_ne_true] at ht
          obtain ⟨b, hb, hbtext⟩ := Option.map_eq_some_iff.1 ht
          rw [hb, List.filter_cons_of_pos (by simp [hkind]), List.map_cons, ← hbtext]
          rfl

/-- Each annotated token of a sentence is the annotation of a token. -/
theorem exists_of_mem_tokensFrom {a : Annotator} {afterWord : Bool} {ts : List Token}
    {annotated : AnnotatedToken} (h : annotated ∈ a.tokensFrom afterWord ts) :
    ∃ t ∈ ts, ∃ later : Bool, annotated ∈ a.token? later t := by
  induction ts generalizing afterWord with
  | nil => simp [tokensFrom] at h
  | cons t ts ih =>
      rcases List.mem_append.1 h with h | h
      · exact ⟨t, List.mem_cons_self, afterWord, Option.mem_toList.1 h⟩
      · obtain ⟨t', ht', hannotated⟩ := ih h
        exact ⟨t', List.mem_cons_of_mem t ht', hannotated⟩

/-- Each annotated token of a text is the annotation of a token of the text. -/
theorem exists_of_mem_annotate {a : Annotator} {text : String} {s : AnnotatedSentence}
    (hs : s ∈ a.annotate text) {annotated : AnnotatedToken} (h : annotated ∈ s.tokens) :
    ∃ t ∈ Tokenizer.standard.tokens text, ∃ later : Bool, annotated ∈ a.token? later t := by
  obtain ⟨ts, hts, rfl⟩ := List.mem_map.1 hs
  obtain ⟨t, ht, hannotated⟩ := exists_of_mem_tokensFrom h
  refine ⟨t, ?_, hannotated⟩
  rw [← (grouping_sentencesOf (Tokenizer.standard.tokens text)).flatten]
  exact List.mem_flatten_of_mem hts ht

/-! ## The whole text -/

/-- **Annotation loses no text.** The texts of the annotated sentences are the text that was
annotated, piece by piece: for each sentence of the text, the slice from its first token to its last
is found, and is the text of the annotated sentence. The texts of its annotated tokens are those of
its tokens other than blank space, in order, and what is left out is blank, character by
character. -/
theorem annotate_loses_no_text (text : String) :
    String.join ((a.annotate text).map (·.text)) = text ∧
    List.Forall₂ (fun (ts : List Token) (s : AnnotatedSentence) =>
        sentenceText? text ts = some s.text ∧
        s.tokens.map (·.text) = (ts.filter fun t => !t.kind.isBlank).map (·.text) ∧
        ∀ t ∈ ts, t.kind.isBlank = true → ∀ x ∈ t.text.toList, Text.isBlank x = true)
      (sentencesOf (Tokenizer.standard.tokens text)) (a.annotate text) := by
  have hgroup := grouping_sentencesOf (Tokenizer.standard.tokens text)
  have htiling : Tiling 0 text.toList (Tokenizer.standard.tokens text) :=
    Tokenizer.standard.tiling_tokensFrom 0 text.toList
  have hslice : ∀ ts ∈ sentencesOf (Tokenizer.standard.tokens text),
      sentenceText? text ts = some (String.join (ts.map (·.text))) := by
    intro ts hts
    rw [← hgroup.flatten] at htiling
    exact htiling.sentenceText?_of_mem hts (hgroup.nonempty ts hts)
  constructor
  · have htexts : (a.annotate text).map (·.text)
        = ((sentencesOf (Tokenizer.standard.tokens text)).map (List.map (·.text))).map
            String.join := by
      rw [annotate, List.map_map, List.map_map]
      refine List.map_congr_left fun ts hts => ?_
      show (sentenceText? text ts).getD "" = _
      rw [hslice ts hts]
      rfl
    have hjoin := htiling.join_text
    rw [String.ofList_toList] at hjoin
    rw [htexts, join_map_join, ← List.map_flatten, hgroup.flatten, hjoin]
  · rw [annotate, List.forall₂_map_right_iff, List.forall₂_same]
    intro ts hts
    refine ⟨?_, a.map_text_tokensFrom false ts, ?_⟩
    · rw [sentence, hslice ts hts, Option.getD_some]
    · intro t ht hkind
      have hmem : t ∈ Tokenizer.standard.tokens text := by
        rw [← hgroup.flatten]
        exact List.mem_flatten_of_mem hts ht
      exact isBlank_of_mem_tokens hmem hkind

end Annotator

end Interlinear
