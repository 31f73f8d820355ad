import Interlinear.Proofs.Regex.Positions
import Interlinear.Text.Slice
import Interlinear.Token.Sentence
import Interlinear.Token.Tokenizer
import Mathlib.Data.List.Chain

set_option autoImplicit false

/-! # Tokens partition a text

Whatever its rules are, a tokenizer makes progress: where a token begins, it takes at least one
character (`Tokenizer.next_pos`). So the tokens of a text tile it (`Tiling`), piece by piece, and
from the tiling all that is asked of a partition follows (`Partition`). Sentences group the tokens
without a change of their order (`Grouping`). Both are put together in
`tokens_partition_and_sentences_group`. -/

namespace Interlinear

/-! ## Progress -/

namespace Tokenizer

theorem next_pos (t : Tokenizer) (text : List Char) : 0 < (t.next text).2 := by
  rw [next]
  cases h : t.rules.findSome? (found? text) with
  | none => exact Nat.one_pos
  | some found =>
      obtain ⟨r, -, hr⟩ := List.exists_of_findSome?_eq_some h
      obtain ⟨n, hn, rfl⟩ := Option.map_eq_some_iff.1 hr
      exact Rule.reach?_pos hn

theorem next_le_length (t : Tokenizer) {text : List Char} (h : text ≠ []) :
    (t.next text).2 ≤ text.length := by
  rw [next]
  cases hfound : t.rules.findSome? (found? text) with
  | none => exact List.length_pos_iff.2 h
  | some found =>
      obtain ⟨r, -, hr⟩ := List.exists_of_findSome?_eq_some hfound
      obtain ⟨n, hn, rfl⟩ := Option.map_eq_some_iff.1 hr
      obtain ⟨d, hd, rfl, -⟩ := Rule.reach?_eq_some_iff.1 hn
      exact Regex.taken_le_length_of_find? hd

/-- A text that is not empty begins with the text of its first token. -/
theorem exists_first (t : Tokenizer) {text : List Char} (h : text ≠ []) :
    ∃ (first rest : List Char) (kind : TokenKind), text = first ++ rest ∧ first ≠ [] ∧
      t.next text = (kind, first.length) := by
  have hpos := t.next_pos text
  have hlen : (text.take (t.next text).2).length = (t.next text).2 :=
    List.length_take_of_le (t.next_le_length h)
  refine ⟨text.take (t.next text).2, text.drop (t.next text).2, (t.next text).1, ?_, ?_, ?_⟩
  · rw [List.take_append_drop]
  · rw [← List.length_pos_iff, hlen]
    exact hpos
  · rw [hlen]

/-- The first token of a text, and then the tokens of what is left. -/
theorem tokensFrom_append (t : Tokenizer) (start : Nat) {first rest : List Char} {kind : TokenKind}
    (hfirst : first ≠ []) (hnext : t.next (first ++ rest) = (kind, first.length)) :
    t.tokensFrom start 0 (first ++ rest)
      = ⟨kind, String.ofList first, start⟩ ::
        t.tokensFrom (start + Text.byteLength (String.ofList first)) 0 rest := by
  cases first with
  | nil => exact absurd rfl hfirst
  | cons c cs =>
      have htake : ((c :: cs) ++ rest).take (c :: cs).length = c :: cs := List.take_left
      have hdrop : (cs ++ rest).drop cs.length = rest := List.drop_left
      simp only [List.cons_append, List.length_cons] at hnext htake ⊢
      simp only [tokensFrom, hnext, htake, Nat.add_sub_cancel]
      rw [tokensFrom_eq_drop, hdrop]

end Tokenizer

/-! ## Tilings -/

/-- The tokens `ts` cut up a text, before which there are `start` bytes, into pieces that are not
empty. -/
inductive Tiling : Nat → List Char → List Token → Prop where
  | nil (start : Nat) : Tiling start [] []
  | cons {start : Nat} {piece rest : List Char} {ts : List Token} (kind : TokenKind)
      (hpiece : piece ≠ [])
      (hrest : Tiling (start + Text.byteLength (String.ofList piece)) rest ts) :
      Tiling start (piece ++ rest) (⟨kind, String.ofList piece, start⟩ :: ts)

theorem Tokenizer.tiling_tokensFrom (t : Tokenizer) (start : Nat) (text : List Char) :
    Tiling start text (t.tokensFrom start 0 text) := by
  by_cases h : text = []
  · subst h
    exact .nil start
  · obtain ⟨first, rest, kind, htext, hfirst, hnext⟩ := t.exists_first h
    rw [htext] at hnext ⊢
    rw [t.tokensFrom_append start hfirst hnext]
    exact .cons kind hfirst (tiling_tokensFrom t _ rest)
termination_by text.length
decreasing_by
  have hpos := List.length_pos_iff.2 hfirst
  rw [htext, List.length_append]
  omega

namespace Tiling

variable {start : Nat} {text : List Char} {ts : List Token}

/-- Each token stands where it says. -/
theorem exists_context (h : Tiling start text ts) {a : Token} (ha : a ∈ ts) :
    ∃ before after : List Char, text = before ++ a.text.toList ++ after ∧
      a.start = start + Text.byteLength (String.ofList before) := by
  induction h with
  | nil => simp at ha
  | @cons start piece rest ts kind hpiece hrest ih =>
      rcases List.mem_cons.1 ha with rfl | ha
      · exact ⟨[], rest, by simp, rfl⟩
      · obtain ⟨before, after, hctx, hstart⟩ := ih ha
        refine ⟨piece ++ before, after, ?_, ?_⟩
        · rw [hctx]
          simp only [List.append_assoc]
        · rw [hstart, Text.byteLength_ofList_append]
          omega

theorem text_ne_empty (h : Tiling start text ts) {a : Token} (ha : a ∈ ts) : a.text ≠ "" := by
  induction h with
  | nil => simp at ha
  | cons kind hpiece hrest ih =>
      rcases List.mem_cons.1 ha with rfl | ha
      · exact fun e => hpiece (String.ofList_eq_empty_iff.1 e)
      · exact ih ha

theorem ne_nil (h : Tiling start text ts) (htext : text ≠ []) : ts ≠ [] := by
  cases h with
  | nil => exact absurd rfl htext
  | cons kind hpiece hrest => exact List.cons_ne_nil _ _

theorem start_of_head? (h : Tiling start text ts) {a : Token} (ha : a ∈ ts.head?) :
    a.start = start := by
  cases h with
  | nil => simp at ha
  | cons kind hpiece hrest =>
      obtain rfl := Option.some.inj ha
      rfl

theorem isChain (h : Tiling start text ts) : ts.IsChain fun a b => b.start = a.stop := by
  induction h with
  | nil => exact .nil
  | cons kind hpiece hrest ih =>
      refine List.isChain_cons.2 ⟨fun b hb => ?_, ih⟩
      exact hrest.start_of_head? hb

theorem stop_of_getLast? (h : Tiling start text ts) :
    ((ts.getLast?.map Token.stop).getD start) = start + Text.byteLength (String.ofList text) := by
  induction h with
  | nil => rfl
  | @cons start piece rest ts kind hpiece hrest ih =>
      rw [Text.byteLength_ofList_append, ← Nat.add_assoc, ← ih]
      cases hts : ts.getLast? with
      | none =>
          obtain rfl := List.getLast?_eq_none_iff.1 hts
          rfl
      | some z => rw [List.getLast?_cons, hts]; rfl

/-- The tokens hold the text piece by piece. -/
theorem join_text (h : Tiling start text ts) :
    String.join (ts.map (·.text)) = String.ofList text := by
  induction h with
  | nil => rfl
  | cons kind hpiece hrest ih =>
      rw [List.map_cons, String.join_cons, ih, ← String.ofList_append]

/-- Where the tokens are parted, the text is, too. -/
theorem exists_of_append {us : List Token} (h : Tiling start text (ts ++ us)) :
    ∃ before after : List Char, text = before ++ after ∧ Tiling start before ts ∧
      Tiling (start + Text.byteLength (String.ofList before)) after us := by
  induction ts generalizing start text with
  | nil => exact ⟨[], text, rfl, .nil start, h⟩
  | cons t ts ih =>
      cases h with
      | @cons _ piece rest _ kind hpiece hrest =>
          obtain ⟨before, after, rfl, hbefore, hafter⟩ := ih hrest
          refine ⟨piece ++ before, after, ?_, .cons kind hpiece hbefore, ?_⟩
          · rw [List.append_assoc]
          · rwa [Text.byteLength_ofList_append, ← Nat.add_assoc]

/-- The text of tokens that tile a piece of a text is the piece. -/
theorem sentenceText? {before piece : List Char} (after : List Char)
    (h : Tiling (Text.byteLength (String.ofList before)) piece ts) (hne : ts ≠ []) :
    sentenceText? (String.ofList (before ++ piece ++ after)) ts = some (String.ofList piece) := by
  have hstart : (ts.head?.map (·.start)).getD 0 = Text.byteLength (String.ofList before) := by
    have hhead := List.head?_eq_some_head hne
    rw [hhead, Option.map_some, Option.getD_some]
    exact h.start_of_head? hhead
  have hstop : (ts.getLast?.map (·.stop)).getD 0
      = Text.byteLength (String.ofList before) + Text.byteLength (String.ofList piece) := by
    have hlast := h.stop_of_getLast?
    rw [List.getLast?_eq_some_getLast hne] at hlast ⊢
    exact hlast
  rw [Interlinear.sentenceText?, hstart, hstop, String.ofList_append, String.ofList_append,
    Text.slice?_append]

end Tiling

/-! ## Partitions -/

/-- The tokens `ts` partition a text: they follow each other from its start to its end without gaps,
and each of them is the piece of the text that it stands for. -/
structure Partition (text : String) (ts : List Token) : Prop where
  /-- The first token starts with the text. -/
  first : ∀ a ∈ ts.head?, a.start = 0
  /-- Every other token starts where the one before it stops. -/
  next : ts.IsChain fun a b => b.start = a.stop
  /-- The last token stops with the text; a text without tokens is empty. -/
  last : (ts.getLast?.map Token.stop).getD 0 = Text.byteLength text
  nonempty : ∀ a ∈ ts, a.start < a.stop
  /-- A token starts and stops between two characters, and holds the text in between. -/
  slice : ∀ a ∈ ts, Text.slice? text a.start a.stop = some a.text

theorem Tiling.slice? {text : List Char} {ts : List Token} (h : Tiling 0 text ts) {a : Token}
    (ha : a ∈ ts) : Text.slice? (String.ofList text) a.start a.stop = some a.text := by
  obtain ⟨before, after, hctx, hstart⟩ := h.exists_context ha
  refine Text.slice?_eq_some_iff.2 ⟨String.ofList before, String.ofList after, ?_, ?_, rfl⟩
  · rw [hctx, String.ofList_append, String.ofList_append, String.ofList_toList]
  · rw [hstart, Nat.zero_add]

theorem Tiling.partition {text : String} {ts : List Token} (h : Tiling 0 text.toList ts) :
    Partition text ts where
  first _ ha := h.start_of_head? ha
  next := h.isChain
  last := by rw [h.stop_of_getLast?, String.ofList_toList, Nat.zero_add]
  nonempty a ha := Nat.lt_add_of_pos_right (Text.byteLength_pos (h.text_ne_empty ha))
  slice a ha := by
    have hslice := h.slice? ha
    rwa [String.ofList_toList] at hslice

/-! ## Sentences -/

/-- The sentences `ss` group the tokens `ts`. -/
structure Grouping (ts : List Token) (ss : List (List Token)) : Prop where
  /-- No token is lost, none comes twice, and all keep their order. -/
  flatten : ss.flatten = ts
  nonempty : ∀ s ∈ ss, s ≠ []
  /-- A sentence goes on until a token ends it. -/
  inner : ∀ s ∈ ss, ∀ a ∈ s.dropLast, a.kind ≠ .sentenceEnd
  /-- Only the last sentence may stop before such a token. -/
  ended : ∀ s ∈ ss.dropLast, ∃ z ∈ s.getLast?, z.kind = .sentenceEnd

/-- A token that does not end a sentence joins the sentence after it. -/
theorem sentencesOf_cons_of_ne {t : Token} (ts : List Token) (h : t.kind ≠ .sentenceEnd) :
    sentencesOf (t :: ts)
      = match sentencesOf ts with
        | [] => [[t]]
        | s :: ss => (t :: s) :: ss := by
  cases hts : sentencesOf ts with
  | nil => rw [sentencesOf, if_neg h, hts]
  | cons s ss => rw [sentencesOf, if_neg h, hts]

theorem sentencesOf_cons_of_eq {t : Token} (ts : List Token) (h : t.kind = .sentenceEnd) :
    sentencesOf (t :: ts) = [t] :: sentencesOf ts := by
  rw [sentencesOf, if_pos h]

theorem grouping_sentencesOf (ts : List Token) : Grouping ts (sentencesOf ts) := by
  induction ts with
  | nil => exact ⟨rfl, by simp [sentencesOf], by simp [sentencesOf], by simp [sentencesOf]⟩
  | cons t ts ih =>
      by_cases ht : t.kind = .sentenceEnd
      · have heq := sentencesOf_cons_of_eq ts ht
        refine ⟨flatten_sentencesOf _, ?_, ?_, ?_⟩
        · rw [heq]
          exact List.forall_mem_cons.2 ⟨by simp, ih.nonempty⟩
        · rw [heq]
          exact List.forall_mem_cons.2 ⟨by simp, ih.inner⟩
        · rw [heq]
          intro s hs
          cases hss : sentencesOf ts with
          | nil => simp [hss] at hs
          | cons s' ss =>
              rw [hss, List.dropLast_cons_cons, ← hss] at hs
              rcases List.mem_cons.1 hs with rfl | hs
              · exact ⟨t, rfl, ht⟩
              · exact ih.ended s hs
      · have heq := sentencesOf_cons_of_ne ts ht
        cases hss : sentencesOf ts with
        | nil =>
            rw [hss] at heq
            refine ⟨flatten_sentencesOf _, ?_, ?_, ?_⟩ <;> rw [heq] <;> simp
        | cons s ss =>
            rw [hss] at heq ih
            obtain ⟨hs, hssne⟩ := List.forall_mem_cons.1 ih.nonempty
            obtain ⟨hinner, hinners⟩ := List.forall_mem_cons.1 ih.inner
            refine ⟨flatten_sentencesOf _, ?_, ?_, ?_⟩
            · rw [heq]
              exact List.forall_mem_cons.2 ⟨by simp, hssne⟩
            · rw [heq]
              refine List.forall_mem_cons.2 ⟨fun a ha => ?_, hinners⟩
              rw [List.dropLast_cons_of_ne_nil hs] at ha
              rcases List.mem_cons.1 ha with rfl | ha
              · exact ht
              · exact hinner a ha
            · rw [heq]
              intro s' hs'
              cases ss with
              | nil => simp at hs'
              | cons s'' ss =>
                  rw [List.dropLast_cons_cons] at hs'
                  rcases List.mem_cons.1 hs' with rfl | hs'
                  · obtain ⟨z, hz, hkind⟩ := ih.ended s (by simp)
                    refine ⟨z, ?_, hkind⟩
                    rw [List.getLast?_cons, Option.mem_def.1 hz]
                    rfl
                  · exact ih.ended s' (List.mem_cons_of_mem _ hs')

/-- **Tokens partition a text, and sentences group them.** This holds for every tokenizer, whatever
its rules match, and for every text. -/
theorem tokens_partition_and_sentences_group (t : Tokenizer) (text : String) :
    Partition text (t.tokens text) ∧ Grouping (t.tokens text) (sentencesOf (t.tokens text)) :=
  ⟨(t.tiling_tokensFrom 0 text.toList).partition, grouping_sentencesOf _⟩

end Interlinear
