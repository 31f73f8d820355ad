import Interlinear.Proofs.Token.Truncation

set_option autoImplicit false

/-! # The characters of tokens

All standard rules match where a token begins, so a token that a rule found consists of characters
that the pattern of the rule reads (`Tokenizer.exists_rule_of_mem_tokens`). What is known of the
classes in the patterns for a kind of tokens then holds of the characters of these tokens, and the
classes are known from the rules: those for blank space read nothing else
(`isBlank_of_mem_tokens`), and few read line feeds (`lineFeed_not_mem_of_mem_tokens`). -/

namespace Interlinear

/-! ## The characters that a rule reads -/

/-- What a rule finds at the front of a text is what a match there has taken. -/
theorem Rule.exists_run_of_reach? {r : Rule} (hr : r.pattern.anchored) {text : List Char} {n : Nat}
    (h : r.reach? text = some n) :
    ∃ d ∈ r.pattern.run (.start text), d.taken = n ∧ n ≠ 0 := by
  obtain ⟨d, hd, hn, hpos, -⟩ := reach?_eq_some_iff.1 h
  rw [Regex.find?_of_anchored hr] at hd
  exact ⟨d, List.mem_of_head? hd, hn, hpos⟩

/-- The characters of the token that a rule finds are of classes in its pattern. -/
theorem Rule.exists_class_of_reach? {r : Rule} (hr : r.pattern.anchored) {text : List Char} {n : Nat}
    (h : r.reach? text = some n) :
    ∀ x ∈ text.take n, ∃ s ∈ r.pattern.classes, s.contains x = true := by
  obtain ⟨d, hrun, rfl, -⟩ := exists_run_of_reach? hr h
  obtain ⟨piece, htext, -, hpiece⟩ := Regex.reachesBy_of_mem_run hrun
  rwa [(Regex.reaches_of_mem_run hrun).take_eq htext]

namespace Tokenizer

/-- A token is what the tokenizer finds at the front of some rest of the text. -/
theorem exists_next_of_mem {t : Tokenizer} {start skip : Nat} {text : List Char} {a : Token}
    (ha : a ∈ t.tokensFrom start skip text) :
    ∃ (rest : List Char) (n : Nat), rest ≠ [] ∧ t.next rest = (a.kind, n) ∧
      a.text.toList = rest.take n := by
  induction text generalizing start skip with
  | nil => simp [tokensFrom] at ha
  | cons c rest ih =>
      cases skip with
      | succ skip => exact ih ha
      | zero =>
          rw [tokensFrom] at ha
          rcases List.mem_cons.1 ha with rfl | ha
          · exact ⟨c :: rest, (t.next (c :: rest)).2, by simp, rfl, String.toList_ofList⟩
          · exact ih ha

/-- A token, unless it has no rule of its own, consists of characters that a rule for its kind
reads. -/
theorem exists_rule_of_mem_tokens {text : String} {a : Token} (ha : a ∈ standard.tokens text)
    (hkind : a.kind ≠ .other) :
    ∃ r ∈ standard.rules, r.kind = a.kind ∧
      ∀ x ∈ a.text.toList, ∃ s ∈ r.pattern.classes, s.contains x = true := by
  obtain ⟨rest, n, -, hnext, htext⟩ := exists_next_of_mem ha
  obtain ⟨r, hr, hrkind, hreach⟩ := exists_of_next hnext hkind
  refine ⟨r, hr, hrkind, ?_⟩
  rw [htext]
  exact Rule.exists_class_of_reach? (Rule.forward_pattern (forward_standard r hr)).1 hreach

end Tokenizer

/-! ## Blank space -/

/-- Whether the tokens of a kind are blank space. -/
def TokenKind.isBlank : TokenKind → Bool
  | paragraphBreak | lineBreak | space => true
  | comment | sentenceEnd | tag | word | cardinal | punctuation | other => false

/-- Whether a class is put together of blank characters. -/
def CharClass.isBlank : CharClass → Bool
  | blank => true
  | range lo hi => lo == hi && Text.isBlank lo
  | union a b => a.isBlank && b.isBlank
  | _ => false

theorem CharClass.isBlank_of_contains {s : CharClass} (hs : s.isBlank = true) {x : Char}
    (hx : s.contains x = true) : Text.isBlank x = true := by
  induction s with
  | blank => exact hx
  | range lo hi =>
      rw [isBlank, Bool.and_eq_true, beq_iff_eq] at hs
      obtain ⟨rfl, hlo⟩ := hs
      rwa [contains_single.1 hx]
  | union a b iha ihb =>
      rw [isBlank, Bool.and_eq_true] at hs
      rw [contains, Bool.or_eq_true] at hx
      rcases hx with hx | hx
      · exact iha hs.1 hx
      · exact ihb hs.2 hx
  | none | any | digit | word | property | inter | diff | symmDiff | compl | anyCase | asciiCase =>
      cases hs

/-- Whether the tokens of a kind may go over the end of a line. -/
def TokenKind.mayBreak : TokenKind → Bool
  | comment | paragraphBreak | lineBreak | space => true
  | sentenceEnd | tag | word | cardinal | punctuation | other => false

/-- What the standard rules for blank space read is blank, and only those for tokens that may go
over the end of a line, and for other characters, read line feeds. -/
theorem standard_classes : ∀ r ∈ Tokenizer.standard.rules, ∀ s ∈ r.pattern.classes,
    (r.kind.isBlank = true → s.isBlank = true) ∧
    (r.kind.mayBreak = false → r.kind ≠ .other → s.contains '\n' = false) := by
  rw [Tokenizer.rules_standard]
  decide +kernel

/-- **Blank tokens are blank.** All their characters are. -/
theorem isBlank_of_mem_tokens {text : String} {a : Token}
    (ha : a ∈ Tokenizer.standard.tokens text) (hkind : a.kind.isBlank = true) :
    ∀ x ∈ a.text.toList, Text.isBlank x = true := by
  have hother : a.kind ≠ .other := by
    intro h
    rw [h] at hkind
    cases hkind
  obtain ⟨r, hr, hrkind, hclasses⟩ := Tokenizer.exists_rule_of_mem_tokens ha hother
  intro x hx
  obtain ⟨s, hs, hmem⟩ := hclasses x hx
  refine CharClass.isBlank_of_contains ((standard_classes r hr s hs).1 ?_) hmem
  rw [hrkind]
  exact hkind

/-- The rules for other characters come after the one for the end of a line, and their tokens are
single characters. -/
theorem standard_other : Tokenizer.standard.rules
      = Tokenizer.standard.rules.take 5 ++ .lineEnd :: Tokenizer.standard.rules.drop 6 ∧
    (∀ r ∈ Tokenizer.standard.rules.take 5, r.kind ≠ .other) ∧
    ∀ r ∈ Tokenizer.standard.rules.drop 6, r.kind = .other →
      r.pattern = Rule.patternOf (.set (.compl .word)) ∨
      r.pattern = .seq (Rule.patternOf .empty) (.set .any) := by
  rw [Tokenizer.rules_standard]
  decide +kernel

namespace Tokenizer

/-- A line feed is found by the rule for the end of a line, if by none before it. -/
theorem next_lineFeed (rest : List Char) : (standard.next ('\n' :: rest)).1 ≠ .other := by
  obtain ⟨hrules, hbefore, -⟩ := standard_other
  have hlineEnd : found? ('\n' :: rest) .lineEnd = some (.lineBreak, 1) := by
    have hfind : Rule.lineEnd.pattern.find? ('\n' :: rest) = some ⟨some '\n', rest, 1, [], []⟩ := by
      rw [Rule.lineEnd, Rule.patternOf, Regex.find?_textStart]
      rfl
    have hreach : Rule.lineEnd.reach? ('\n' :: rest) = some 1 :=
      Rule.reach?_eq_some_iff.2 ⟨_, hfind, rfl, Nat.one_ne_zero, rfl⟩
    rw [found?, hreach]
    rfl
  rw [next, hrules, List.findSome?_append]
  cases hfound : (standard.rules.take 5).findSome? (found? ('\n' :: rest)) with
  | some found =>
      obtain ⟨r, hr, hfound⟩ := List.exists_of_findSome?_eq_some hfound
      obtain ⟨n, -, rfl⟩ := Option.map_eq_some_iff.1 hfound
      exact hbefore r hr
  | none =>
      rw [Option.none_or, List.findSome?_cons, hlineEnd, Option.getD_some]
      decide

/-- Tokens without a rule of their own are single characters. -/
theorem eq_one_of_next {rest : List Char} {n : Nat} (h : standard.next rest = (.other, n)) :
    n = 1 := by
  obtain ⟨hrules, hbefore, hafter⟩ := standard_other
  rw [next] at h
  cases hfound : standard.rules.findSome? (found? rest) with
  | none =>
      rw [hfound] at h
      exact (congrArg Prod.snd h).symm
  | some found =>
      rw [hfound, Option.getD_some] at h
      subst h
      obtain ⟨r, hr, hfound⟩ := List.exists_of_findSome?_eq_some hfound
      obtain ⟨m, hreach, hm⟩ := Option.map_eq_some_iff.1 hfound
      obtain ⟨hkind, rfl⟩ := Prod.mk.inj hm
      obtain ⟨d, hd, rfl, -⟩ := Rule.reach?_eq_some_iff.1 hreach
      rw [hrules, List.mem_append, List.mem_cons] at hr
      rcases hr with hr | rfl | hr
      · exact absurd hkind (hbefore r hr)
      · cases hkind
      · rcases hafter r hr hkind with hpattern | hpattern
        · rw [hpattern] at hd
          obtain ⟨-, -, -, htaken⟩ := Regex.find?_textStart_set hd
          exact htaken
        · rw [hpattern, Regex.find?_of_anchored (by rfl)] at hd
          obtain ⟨c, hc, hcd⟩ := Regex.exists_of_mem_run_seq (List.mem_of_head? hd)
          obtain ⟨b, hb, hbc⟩ := Regex.exists_of_mem_run_seq hc
          obtain rfl : b = .start rest := List.mem_singleton.1 hb
          obtain rfl : c = .start rest := List.mem_singleton.1 hbc
          obtain ⟨-, -, -, htaken, -⟩ := Cursor.mem_read hcd
          exact htaken

end Tokenizer

/-- **Tokens that stay on their line.** A token has no line feed, unless it is a comment or blank
space. -/
theorem lineFeed_not_mem_of_mem_tokens {text : String} {a : Token}
    (ha : a ∈ Tokenizer.standard.tokens text) (hkind : a.kind.mayBreak = false) :
    '\n' ∉ a.text.toList := by
  by_cases hother : a.kind = .other
  · obtain ⟨rest, n, hrest, hnext, htext⟩ := Tokenizer.exists_next_of_mem ha
    rw [hother] at hnext
    obtain rfl := Tokenizer.eq_one_of_next hnext
    cases rest with
    | nil => exact absurd rfl hrest
    | cons c rest =>
        rw [htext, List.take_succ_cons, List.take_zero, List.mem_singleton]
        rintro rfl
        exact Tokenizer.next_lineFeed rest (by rw [hnext])
  · obtain ⟨r, hr, hrkind, hclasses⟩ := Tokenizer.exists_rule_of_mem_tokens ha hother
    intro hmem
    obtain ⟨s, hs, hcontains⟩ := hclasses _ hmem
    rw [← hrkind] at hkind hother
    rw [(standard_classes r hr s hs).2 hkind hother] at hcontains
    cases hcontains

end Interlinear
