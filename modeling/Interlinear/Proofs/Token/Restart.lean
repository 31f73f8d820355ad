import Interlinear.Proofs.Token.Partition

set_option autoImplicit false

/-! # Tokens from a boundary on

A token is found by looking at the text from its start on, and nothing that comes before is seen. So
the tokens after a boundary are those of the text that is left there (`Tokenizer.exists_rest`), and
what comes before only moves them (`Tokenizer.tokensFrom_add`). Both together say that a tokenizer
may stop at any boundary and start again (`Tokenizer.tokens_restart`). -/

namespace Interlinear

/-! ## Moving tokens -/

/-- The token in a text with `p` more bytes before it. -/
def Token.shift (p : Nat) (t : Token) : Token := { t with start := p + t.start }

theorem Tokenizer.tokensFrom_add (t : Tokenizer) (p start skip : Nat) (text : List Char) :
    t.tokensFrom (p + start) skip text = (t.tokensFrom start skip text).map (·.shift p) := by
  induction text generalizing start skip with
  | nil => simp [tokensFrom]
  | cons c rest ih =>
      cases skip with
      | zero =>
          simp only [tokensFrom, List.map_cons, Nat.add_assoc, ih]
          rfl
      | succ skip => exact ih start skip

/-! ## Boundaries -/

/-- The number of bytes up to the end of the last token; `start` if there is none. -/
def Token.boundary (start : Nat) (ts : List Token) : Nat := (ts.getLast?.map Token.stop).getD start

theorem Token.boundary_cons (start : Nat) (a : Token) (ts : List Token) :
    boundary start (a :: ts) = boundary a.stop ts := by
  rw [boundary, boundary, List.getLast?_cons]
  cases ts.getLast? <;> rfl

namespace Tokenizer

/-- Where the tokens are parted, the text is, and the later ones are the tokens of what is left. -/
theorem exists_rest {t : Tokenizer} {start : Nat} {text : List Char} {ts us : List Token}
    (h : t.tokensFrom start 0 text = ts ++ us) :
    ∃ before rest : List Char, text = before ++ rest ∧
      Token.boundary start ts = start + Text.byteLength (String.ofList before) ∧
      t.tokensFrom (Token.boundary start ts) 0 rest = us := by
  induction ts generalizing start text with
  | nil => exact ⟨[], text, rfl, rfl, h⟩
  | cons a ts ih =>
      have hne : text ≠ [] := by
        rintro rfl
        simp [tokensFrom] at h
      obtain ⟨first, rest, kind, rfl, hfirst, hnext⟩ := t.exists_first hne
      rw [t.tokensFrom_append start hfirst hnext] at h
      obtain ⟨rfl, hrest⟩ := List.cons.inj h
      obtain ⟨before, rest, rfl, hboundary, hus⟩ := ih hrest
      rw [Token.boundary_cons]
      refine ⟨first ++ before, rest, ?_, ?_, hus⟩
      · rw [List.append_assoc]
      · calc Token.boundary (start + Text.byteLength (String.ofList first)) ts
            = start + Text.byteLength (String.ofList first)
                + Text.byteLength (String.ofList before) := hboundary
          _ = start + Text.byteLength (String.ofList (first ++ before)) := by
              rw [Text.byteLength_ofList_append, Nat.add_assoc]

/-- Where a token stands in a text, it is what the tokenizer finds at the front of what follows. -/
theorem exists_next_at {t : Tokenizer} {text : String} {a : Token} (ha : a ∈ t.tokens text) :
    ∃ before rest : List Char, text.toList = before ++ rest ∧
      a.start = Text.byteLength (String.ofList before) ∧ rest ≠ [] ∧
      t.next rest = (a.kind, a.text.toList.length) ∧ a.text.toList <+: rest := by
  obtain ⟨ts, us, hparted⟩ := List.append_of_mem ha
  obtain ⟨before, rest, htext, hboundary, hus⟩ := exists_rest hparted
  have hne : rest ≠ [] := by
    rintro rfl
    simp [tokensFrom] at hus
  obtain ⟨first, rest, kind, rfl, hfirst, hnext⟩ := t.exists_first hne
  rw [t.tokensFrom_append _ hfirst hnext] at hus
  obtain ⟨rfl, -⟩ := List.cons.inj hus
  rw [Nat.zero_add] at hboundary
  refine ⟨before, first ++ rest, htext, hboundary, hne, ?_, ?_⟩
  · rw [String.toList_ofList]
    exact hnext
  · rw [String.toList_ofList]
    exact List.prefix_append first rest

/-- The tokens after a boundary, as tokens of the text from there on. -/
theorem exists_slice_of_append {t : Tokenizer} {text : String} {ts us : List Token}
    (h : t.tokens text = ts ++ us) :
    ∃ rest, Text.slice? text (Token.boundary 0 ts) (Text.byteLength text) = some rest ∧
      us = (t.tokens rest).map (·.shift (Token.boundary 0 ts)) := by
  obtain ⟨before, rest, htext, hboundary, hus⟩ := exists_rest h
  rw [Nat.zero_add] at hboundary
  refine ⟨String.ofList rest, ?_, ?_⟩
  · refine Text.slice?_eq_some_iff.2 ⟨String.ofList before, "", ?_, hboundary.symm, ?_⟩
    · rw [← String.toList_inj, htext]
      simp
    · have hlength : Text.byteLength text
          = Text.byteLength (String.ofList before) + Text.byteLength (String.ofList rest) := by
        rw [← Text.byteLength_ofList_append, ← htext, String.ofList_toList]
      rw [hboundary, hlength]
  · rw [tokens, String.toList_ofList, ← tokensFrom_add, Nat.add_zero, hus]

/-- **Tokenizing may be restarted at every boundary.** From there on, the tokens of a text are those
of the rest of the text, moved by what comes before; so their kinds and their texts are the same
after every text that could stand before them. -/
theorem tokens_restart (t : Tokenizer) {text : String} {ts us : List Token}
    (h : t.tokens text = ts ++ us) :
    ∃ rest, Text.slice? text (Token.boundary 0 ts) (Text.byteLength text) = some rest ∧
      us = (t.tokens rest).map (·.shift (Token.boundary 0 ts)) ∧
      ∀ {text' : String} {ts' us' : List Token}, t.tokens text' = ts' ++ us' →
        Text.slice? text' (Token.boundary 0 ts') (Text.byteLength text') = some rest →
        us'.map (fun a => (a.kind, a.text)) = us.map fun a => (a.kind, a.text) := by
  obtain ⟨rest, hslice, hus⟩ := exists_slice_of_append h
  refine ⟨rest, hslice, hus, ?_⟩
  intro text' ts' us' h' hslice'
  obtain ⟨rest', hrest', hus'⟩ := exists_slice_of_append h'
  have hsame : rest' = rest := Option.some.inj (hrest'.symm.trans hslice')
  -- Moving a token changes neither its kind nor its text.
  have hmoved : ∀ p, ((t.tokens rest).map (·.shift p)).map (fun a => (a.kind, a.text))
      = (t.tokens rest).map fun a => (a.kind, a.text) := by
    intro p
    rw [List.map_map]
    rfl
  rw [hus', hus, hsame, hmoved, hmoved]

/-- Where a token begins nothing is seen before it, so there is an edge of a word in a word. -/
theorem tokens_restart_edges :
    ∃ t rest, ofRules [⟨.word, r"\bé", none⟩] = .ok t ∧
      t.tokens "éé" = [⟨.word, "é", 0⟩] ++ [⟨.word, "é", 2⟩] ∧
      Text.slice? "éé" 2 4 = some rest ∧ [⟨.word, "é", 2⟩] = (t.tokens rest).map (·.shift 2) := by
  have hmade : (ofRules [⟨.word, r"\bé", none⟩]).toOption.map (·.tokens "éé")
      = some ([⟨.word, "é", 0⟩] ++ [⟨.word, "é", 2⟩]) := by decide +kernel
  cases hof : ofRules [⟨.word, r"\bé", none⟩] with
  | error fault =>
      rw [hof] at hmade
      cases hmade
  | ok t =>
      rw [hof] at hmade
      have htokens : t.tokens "éé" = [⟨.word, "é", 0⟩] ++ [⟨.word, "é", 2⟩] :=
        Option.some.inj hmade
      obtain ⟨rest, hslice, hrest, -⟩ := tokens_restart t htokens
      exact ⟨t, rest, rfl, htokens, hslice, hrest⟩

end Tokenizer

end Interlinear
