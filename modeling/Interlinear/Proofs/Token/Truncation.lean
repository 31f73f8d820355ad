import Interlinear.Proofs.Token.Partition
import Interlinear.Proofs.Token.SentenceEnd

set_option autoImplicit false

/-! # Tokens of a text that is cut off

The standard rules look ahead by reading alone. So where a text is cut off after the end of a
sentence, the tokens before the cut stay the same (`Tokenizer.cuttable_standard`): a rule that fails
in the whole text fails in what is left of it, even though a rule that asks what follows is content
with the end of a text. Hence the tokens of a sentence are the tokens of its text
(`Tokenizer.Cuttable.exists_piece_of_mem`). -/

namespace Interlinear

/-! ## Rules that look ahead by reading -/

namespace Rule

/-- Whether both patterns of a rule match at the start of a text only and look ahead by reading. -/
def forward (r : Rule) : Bool :=
  r.pattern.anchored && r.pattern.forward && r.follow.all fun f => f.anchored && f.forward

theorem forward_pattern {r : Rule} (h : r.forward) : r.pattern.anchored ∧ r.pattern.forward := by
  rw [forward, Bool.and_eq_true, Bool.and_eq_true] at h
  exact h.1

theorem forward_follow {r : Rule} (h : r.forward) {f : Regex} (hf : r.follow = some f) :
    f.anchored ∧ f.forward := by
  rw [forward, Bool.and_eq_true, hf, Option.all_some, Bool.and_eq_true (f.anchored)] at h
  exact h.2

theorem admitsAfter_nil (r : Rule) : r.admitsAfter [] = true := by
  rw [admitsAfter]
  split <;> rfl

theorem admitsAfter_of_follow_eq_none {r : Rule} (h : r.follow = none) (after : List Char) :
    r.admitsAfter after = true := by
  rw [admitsAfter, h]

/-- A text that may follow, cut off but not empty, is a beginning of a text that may follow. -/
theorem admitsAfter_of_take {r : Rule} (h : r.forward) {after : List Char} {n : Nat}
    (hafter : after.take n ≠ []) (hadmits : r.admitsAfter (after.take n) = true) :
    r.admitsAfter after = true := by
  cases hf : r.follow with
  | none => exact admitsAfter_of_follow_eq_none hf after
  | some f =>
      obtain ⟨ha, hfwd⟩ := forward_follow h hf
      simp only [admitsAfter, hf, Bool.or_eq_true, List.isEmpty_iff] at hadmits ⊢
      rcases hadmits with hnil | hmatch
      · exact absurd hnil hafter
      · exact Or.inr (Regex.isMatch_of_isMatch_take ha hfwd hmatch)

/-- A rule finds the same token in a text that is cut off at the end of the token or later; a rule
that asks what follows is content with the end of the text. -/
theorem reach?_take_eq_some {r : Rule} (h : r.forward) {text : List Char} {n k : Nat}
    (hreach : r.reach? text = some n) (hk : n ≤ k) (hfollow : r.follow ≠ none → n = k) :
    r.reach? (text.take k) = some n := by
  obtain ⟨ha, hf⟩ := forward_pattern h
  obtain ⟨d, hd, rfl, hn, -⟩ := reach?_eq_some_iff.1 hreach
  have hcut := Regex.find?_take_of_taken_le ha hf hd hk
  refine reach?_eq_some_iff.2 ⟨d.cut k, hcut, rfl, hn, ?_⟩
  by_cases hnone : r.follow = none
  · exact admitsAfter_of_follow_eq_none hnone _
  · have hdrop : (text.take k).drop d.taken = [] := by
      rw [← hfollow hnone, List.drop_eq_nil_iff, List.length_take]
      exact Nat.min_le_left _ _
    rw [hdrop]
    exact admitsAfter_nil r

/-- A rule that finds no token finds none in a text that is cut off, unless it asks what follows and
its match goes up to the cut or beyond. -/
theorem reach?_take_eq_none {r : Rule} (h : r.forward) {text : List Char} {k : Nat}
    (hreach : r.reach? text = none)
    (hcut : ∀ d, r.pattern.find? text = some d → r.follow ≠ none → d.taken < k) :
    r.reach? (text.take k) = none := by
  obtain ⟨ha, hf⟩ := forward_pattern h
  rw [Option.eq_none_iff_forall_ne_some] at hreach ⊢
  intro n hn
  obtain ⟨e, he, rfl, hpos, hafter⟩ := reach?_eq_some_iff.1 hn
  have hmatch : r.pattern.isMatch (text.take k) := by rw [Regex.isMatch, he]; rfl
  obtain ⟨d, hd⟩ := Option.isSome_iff_exists.1 (Regex.isMatch_of_isMatch_take ha hf hmatch)
  have hreject : d.taken ≠ 0 → r.admitsAfter (text.drop d.taken) ≠ true := by
    intro hd0 hadmits
    exact hreach _ (reach?_eq_some_iff.2 ⟨d, hd, rfl, hd0, hadmits⟩)
  have heq : d.taken ≤ k → e.taken = d.taken := by
    intro hle
    rw [Regex.find?_take_of_taken_le ha hf hd hle] at he
    obtain rfl := Option.some.inj he
    rfl
  by_cases hnone : r.follow = none
  · have hd0 : d.taken = 0 := by
      by_contra hd0
      exact hreject hd0 (admitsAfter_of_follow_eq_none hnone _)
    exact hpos (by rw [heq (by omega), hd0])
  · have hlt := hcut d hd hnone
    rw [heq (by omega)] at hpos hafter
    rw [List.drop_take] at hafter
    refine hreject hpos ?_
    by_cases hnil : text.drop d.taken = []
    · rw [hnil]
      exact admitsAfter_nil r
    · refine admitsAfter_of_take h ?_ hafter
      rw [Ne, List.take_eq_nil_iff]
      intro hor
      rcases hor with hzero | hnil'
      · omega
      · exact hnil hnil'

end Rule

theorem forward_standard : ∀ r ∈ Tokenizer.standard.rules, r.forward := by
  rw [Tokenizer.rules_standard]
  decide +kernel

/-! ## The first token -/

namespace Tokenizer

/-- Some token that begins in `piece` ends a sentence where `piece` ends and `after` begins. -/
def EndsAt (t : Tokenizer) (piece after : List Char) : Prop :=
  ∃ q < piece.length, t.next ((piece ++ after).drop q) = (.sentenceEnd, piece.length - q)

theorem endsAt_of_next {t : Tokenizer} {piece after : List Char} (hpiece : piece ≠ [])
    (hnext : t.next (piece ++ after) = (.sentenceEnd, piece.length)) : t.EndsAt piece after :=
  ⟨0, List.length_pos_iff.2 hpiece, hnext⟩

theorem EndsAt.append_left {t : Tokenizer} {piece after : List Char} (h : t.EndsAt piece after)
    (first : List Char) : t.EndsAt (first ++ piece) after := by
  obtain ⟨q, hq, hnext⟩ := h
  refine ⟨first.length + q, ?_, ?_⟩
  · rw [List.length_append]
    omega
  · rw [← List.drop_drop, List.append_assoc, List.drop_left, hnext, List.length_append,
      Nat.add_sub_add_left]

/-- A text may be cut off where a sentence ends: if its first token is not beyond the cut, and only
at the cut if it ends a sentence itself, it stays the same. -/
def Cuttable (t : Tokenizer) : Prop :=
  ∀ {piece after : List Char} {kind : TokenKind} {n : Nat}, t.EndsAt piece after →
    t.next (piece ++ after) = (kind, n) → n ≤ piece.length →
    (kind = .sentenceEnd → n = piece.length) → t.next piece = (kind, n)

/-- **The standard rules allow a text to be cut off.** No rule that fails in the whole text finds a
token in what is left of it. -/
theorem cuttable_standard : standard.Cuttable := by
  rintro piece after kind n ⟨q, hq, hend⟩ hnext hle hlast
  have htake : (piece ++ after).take piece.length = piece := List.take_left
  generalize piece ++ after = text at hend hnext htake
  have hfound : standard.rules.findSome? (found? piece)
      = standard.rules.findSome? (found? text) := by
    rw [← htake]
    refine List.findSome?_eq_of_first ?_ ?_
    · intro r hr hnone
      rw [found?, Option.map_eq_none_iff] at hnone ⊢
      refine Rule.reach?_take_eq_none (forward_standard r hr) hnone ?_
      intro d hd hfollow
      -- A match up to the cut or beyond would leave no room for the token that ends there.
      by_contra hlt
      exact next_ne_of_reach?_eq_none hr hfollow hd hnone (by omega) _ hend
    · intro r hr found hfirst hfound
      obtain ⟨m, hm, rfl⟩ := Option.map_eq_some_iff.1 hfound
      rw [next, hfirst, Option.getD_some] at hnext
      obtain ⟨rfl, rfl⟩ := Prod.mk.inj hnext
      have hfollow : r.follow ≠ none → m = piece.length := by
        intro hfollow
        refine hlast ?_
        rcases (standard_sentenceEnd r hr).2 hfollow with rfl | rfl <;> rfl
      rw [found?, Rule.reach?_take_eq_some (forward_standard r hr) hm hle hfollow]
      rfl
  rw [← hnext, next, next, hfound]

/-! ## The tokens of a sentence -/

section Cuttable

variable {t : Tokenizer}

/-- If the first sentence of a text ends with a token that ends sentences, the text consists of the
text of the sentence, whose tokens are those of the sentence, and of another text, whose sentences
are the others. -/
theorem Cuttable.exists_piece_of_ended (ht : t.Cuttable) {text : List Char} {start : Nat}
    {s : List Token} {ss : List (List Token)}
    (h : sentencesOf (t.tokensFrom start 0 text) = s :: ss)
    (hend : ∃ z ∈ s.getLast?, z.kind = .sentenceEnd) :
    ∃ piece after : List Char, text = piece ++ after ∧ t.EndsAt piece after ∧
      t.tokensFrom start 0 piece = s ∧
      sentencesOf (t.tokensFrom (start + Text.byteLength (String.ofList piece)) 0 after) = ss := by
  have hne : text ≠ [] := by
    rintro rfl
    simp [tokensFrom, sentencesOf] at h
  obtain ⟨first, rest, kind, htext, hfirst, hnext⟩ := t.exists_first hne
  rw [htext] at h hnext ⊢
  rw [t.tokensFrom_append start hfirst hnext] at h
  by_cases hkind : kind = .sentenceEnd
  · -- The sentence is its first token.
    rw [sentencesOf_cons_of_eq _ hkind] at h
    obtain ⟨rfl, rfl⟩ := List.cons.inj h
    have hends : t.EndsAt first rest := endsAt_of_next hfirst (by rw [hnext, hkind])
    have hcut : t.next (first ++ []) = (kind, first.length) := by
      rw [List.append_nil]
      exact ht hends hnext (Nat.le_refl _) fun _ => rfl
    refine ⟨first, rest, rfl, hends, ?_, rfl⟩
    have htokens := t.tokensFrom_append start hfirst hcut
    rwa [List.append_nil] at htokens
  · rw [sentencesOf_cons_of_ne _ hkind] at h
    cases hrest : sentencesOf (t.tokensFrom (start + Text.byteLength (String.ofList first)) 0 rest)
      with
    | nil =>
        rw [hrest] at h
        obtain ⟨rfl, rfl⟩ := List.cons.inj h
        obtain ⟨z, hz, hzkind⟩ := hend
        obtain rfl := Option.some.inj hz
        exact absurd hzkind hkind
    | cons s' ss' =>
        -- The sentence goes on with the first sentence of the rest, whose end is that of both.
        rw [hrest] at h
        obtain ⟨rfl, rfl⟩ := List.cons.inj h
        have hs' : s' ≠ [] := (grouping_sentencesOf _).nonempty s' (by rw [hrest]; simp)
        rw [List.getLast?_cons_of_ne_nil hs'] at hend
        obtain ⟨piece, after, rfl, hends, htokens, hss⟩ :=
          Cuttable.exists_piece_of_ended ht hrest hend
        have hends' : t.EndsAt (first ++ piece) after := hends.append_left first
        have hcut : t.next (first ++ piece) = (kind, first.length) := by
          refine ht hends' ?_ ?_ fun hkind' => absurd hkind' hkind
          · rw [List.append_assoc, hnext]
          · rw [List.length_append]
            exact Nat.le_add_right _ _
        refine ⟨first ++ piece, after, ?_, hends', ?_, ?_⟩
        · rw [List.append_assoc]
        · rw [t.tokensFrom_append start hfirst hcut, htokens]
        · rw [Text.byteLength_ofList_append, ← Nat.add_assoc, hss]
termination_by text.length
decreasing_by
  have hpos := List.length_pos_iff.2 hfirst
  rw [htext, List.length_append]
  omega

/-- Every sentence of a text has the tokens of some piece of the text. -/
theorem Cuttable.exists_piece_of_mem (ht : t.Cuttable) {text : List Char} {start : Nat}
    {s : List Token} (hs : s ∈ sentencesOf (t.tokensFrom start 0 text)) :
    ∃ before piece after : List Char, text = before ++ piece ++ after ∧ piece ≠ [] ∧
      t.tokensFrom (start + Text.byteLength (String.ofList before)) 0 piece = s := by
  generalize hss : sentencesOf (t.tokensFrom start 0 text) = ss at hs
  induction ss generalizing start text with
  | nil => simp at hs
  | cons s' ss ih =>
      have hgroup := grouping_sentencesOf (t.tokensFrom start 0 text)
      rw [hss] at hgroup
      by_cases hend : ∃ z ∈ s'.getLast?, z.kind = .sentenceEnd
      · obtain ⟨piece, after, rfl, ⟨q, hq, -⟩, htokens, hafter⟩ :=
          ht.exists_piece_of_ended hss hend
        rcases List.mem_cons.1 hs with rfl | hs
        · refine ⟨[], piece, after, rfl, ?_, htokens⟩
          exact List.ne_nil_of_length_pos (by omega)
        · obtain ⟨before, piece', after', rfl, hne, htokens'⟩ := ih hafter hs
          refine ⟨piece ++ before, piece', after', ?_, hne, ?_⟩
          · simp only [List.append_assoc]
          · rwa [Text.byteLength_ofList_append, ← Nat.add_assoc]
      · have hnil : ss = [] := by
          by_contra hne
          refine hend (hgroup.ended s' ?_)
          rw [List.dropLast_cons_of_ne_nil hne]
          exact List.mem_cons_self
        subst hnil
        obtain rfl := List.mem_singleton.1 hs
        have htokens : t.tokensFrom start 0 text = s := by
          rw [← hgroup.flatten, List.flatten_singleton]
        refine ⟨[], text, [], by simp, ?_, htokens⟩
        rintro rfl
        exact hgroup.nonempty s hs htokens.symm

end Cuttable

end Tokenizer

end Interlinear
