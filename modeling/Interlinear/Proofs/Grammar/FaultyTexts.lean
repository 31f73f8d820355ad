import Interlinear.Proofs.Grammar.Cutting
import Interlinear.Proofs.Regex.Unmatched
import Interlinear.Token.Tokenizer

set_option autoImplicit false

/-! # Texts that are no patterns

A rule of a tokenizer and a form of a template are not read as patterns of their own but between
parentheses. A text that is no pattern is refused there too (`refused_of_not_isExpression`), with
one exception: a parenthesis in it may close the group around it, and what follows then stands
outside. So `a)(b` is no pattern, but it is read as `(a)(b)` and matches `ab`. -/

namespace Interlinear

/-- A text, read as a pattern, comes to a parenthesis that closes none of its own groups. -/
def HasUnmatched (text : String) : Prop := Regex.Unmatched false [] text.toList

theorem not_isExpression_of_hasUnmatched {text : String} (h : HasUnmatched text) :
    ¬IsExpression text := by
  rintro ⟨r, hr⟩
  obtain ⟨t, ht, -⟩ := Regex.ofPattern_eq_ok_iff.1 hr
  rw [Regex.Unmatched.tree?_eq_none h] at ht
  cases ht

/-- A text of which all is read as tokens has no unmatched parenthesis, if these never close more
groups than they open. -/
theorem not_hasUnmatched_of_tokens? {text : String} {ts : List Regex.Token} {depth : Nat}
    (hts : Regex.tokens? text.toList = some ts)
    (hdepth : ts.foldlM Regex.Token.depthAfter? 0 = some depth) : ¬HasUnmatched text := by
  intro h
  cases (Regex.Unmatched.foldlM_depthAfter? h (Regex.cuts_of_tokens? hts)).symm.trans hdepth

/-! ## Between parentheses -/

/-- A text is a pattern if it is one between parentheses and has none that is unmatched. -/
theorem isExpression_of_enclosed {text wrapped : String} {more : List Char} {r : Regex}
    (hmatched : ¬HasUnmatched text) (hmore : more = [] ∨ more = ['$'])
    (hwrapped : wrapped.toList = '^' :: '(' :: '?' :: ':' :: (text.toList ++ ')' :: more))
    (h : Regex.ofPattern wrapped = .ok r) : IsExpression text := by
  obtain ⟨T, hT, hroom, -⟩ := Regex.ofPattern_eq_ok_iff.1 h
  rw [hwrapped] at hT
  obtain ⟨t, ht, hle⟩ := Regex.exists_tree?_of_enclosed hmatched hmore hT
  exact ⟨_, Regex.ofPattern_eq_ok_iff.2 ⟨t, ht, hle.trans hroom, rfl⟩⟩

/-- Of the texts that a rule admits, those are patterns that have no unmatched parenthesis. -/
theorem isExpression_iff_of_atStart {text : String} {r : Regex} (h : Rule.atStart text = .ok r) :
    IsExpression text ↔ ¬HasUnmatched text := by
  refine ⟨fun htext h => not_isExpression_of_hasUnmatched h htext, fun hmatched => ?_⟩
  rw [Rule.atStart] at h
  split at h
  next r' hr' =>
    refine isExpression_of_enclosed hmatched (Or.inl rfl) ?_ hr'
    simp [String.toList_append]
  next => cases h

/-- Of the forms that a template admits, those are patterns that have no unmatched parenthesis. -/
theorem isExpression_iff_of_whole {form : String} {w : Option Regex}
    (h : Matcher.whole form = .ok w) : IsExpression form ↔ ¬HasUnmatched form := by
  refine ⟨fun hform h => not_isExpression_of_hasUnmatched h hform, fun hmatched => ?_⟩
  rw [Matcher.whole] at h
  split at h
  next hempty =>
    rw [String.isEmpty_iff.1 hempty]
    decide
  next =>
    obtain ⟨r, hr, -⟩ := Except.map_eq_ok_iff.1 h
    refine isExpression_of_enclosed hmatched (Or.inr rfl) ?_ hr
    simp [String.toList_append]

/-! ## Rules and templates -/

namespace Rule

theorem exists_faultyRule_of_atStart {text : String} {e : Error} (h : atStart text = .error e) :
    ∃ fault, e = .faultyRule fault := by
  rw [atStart] at h
  split at h
  next => cases h
  next fault _ => exact ⟨fault, (Except.error.inj h).symm⟩

/-- Rules can only be at fault in their patterns. -/
theorem exists_faultyRule_of_ofText {t : RuleText} {e : Error} (h : ofText t = .error e) :
    ∃ fault, e = .faultyRule fault := by
  rw [ofText] at h
  rcases Except.bind_eq_error_iff.1 h with hpattern | ⟨pattern, -, h⟩
  · exact exists_faultyRule_of_atStart hpattern
  cases hfollow : t.follow with
  | none =>
      rw [hfollow] at h
      cases h
  | some f =>
      rw [hfollow] at h
      rcases Except.bind_eq_error_iff.1 h with hf | ⟨follow, -, h⟩
      · exact exists_faultyRule_of_atStart (Except.map_eq_error_iff.1 hf)
      · cases h

/-- All patterns of a rule that is made ready are admitted. -/
theorem of_ofText_eq_ok {t : RuleText} {rule : Rule} (h : ofText t = .ok rule) {text : String}
    (htext : t.pattern = text ∨ t.follow = some text) : ∃ r, atStart text = .ok r := by
  rw [ofText] at h
  obtain ⟨pattern, hpattern, h⟩ := Except.bind_eq_ok_iff.1 h
  rcases htext with rfl | hfollow
  · exact ⟨pattern, hpattern⟩
  · rw [hfollow] at h
    obtain ⟨follow, hf, -⟩ := Except.bind_eq_ok_iff.1 h
    obtain ⟨r, hr, -⟩ := Except.map_eq_ok_iff.1 hf
    exact ⟨r, hr⟩

end Rule

/-- Rules are refused if the pattern of one of them is not admitted. -/
theorem Tokenizer.exists_faultyRule {rules : List RuleText} {text : String}
    (hrules : ∃ rule ∈ rules, rule.pattern = text ∨ rule.follow = some text)
    (htext : ∀ r, Rule.atStart text ≠ .ok r) :
    ∃ fault, ofRules rules = .error (.faultyRule fault) := by
  obtain ⟨rule, hrule, hpattern⟩ := hrules
  cases hrules : rules.mapM Rule.ofText with
  | ok made =>
      obtain ⟨r, hr⟩ := Except.exists_mapM_eq_ok_iff.1 ⟨made, hrules⟩ rule hrule
      obtain ⟨r', hr'⟩ := Rule.of_ofText_eq_ok hr hpattern
      exact absurd hr' (htext r')
  | error e =>
      obtain ⟨other, -, hother⟩ := Except.exists_of_mapM_eq_error hrules
      obtain ⟨fault, rfl⟩ := Rule.exists_faultyRule_of_ofText hother
      exact ⟨fault, by rw [ofRules, hrules]; rfl⟩

/-- A template is of no use if one of its forms is not admitted. -/
theorem CompiledPattern.matcher?_eq_none {p : Pattern} {form : String}
    (hp : p.select.form = form ∨ ∃ m ∈ p.select.morphemes, m.form = form)
    (hform : ∀ w, Matcher.whole form ≠ .ok w) : (ofPattern p).matcher? = none := by
  rw [Option.eq_none_iff_forall_ne_some]
  intro m hm
  obtain ⟨hwhole, hpieces⟩ := Matcher.whole_of_ofTemplate (matcher?_ofPattern_eq_some_iff.1 hm)
  rcases hp with rfl | ⟨template, htemplate, rfl⟩
  · exact hform _ hwhole
  · obtain ⟨w, hw⟩ := Except.exists_mapM_eq_ok_iff.1 ⟨_, hpieces⟩ template.form
      (List.mem_map_of_mem htemplate)
    exact hform w hw

/-- **Texts that are no patterns are refused**, unless they have an unmatched parenthesis. Neither
are they the pattern of a rule or of what follows a token, nor does a pattern with such a form admit
a candidate or a piece. -/
theorem refused_of_not_isExpression {text : String} (htext : ¬IsExpression text)
    (hmatched : ¬HasUnmatched text) :
    (∀ rules : List RuleText, (∃ rule ∈ rules, rule.pattern = text ∨ rule.follow = some text) →
      ∃ fault, Tokenizer.ofRules rules = .error (.faultyRule fault)) ∧
    ∀ p : Pattern, (p.select.form = text ∨ ∃ m ∈ p.select.morphemes, m.form = text) →
      ∀ (g : Gloss) (i : Nat) (piece : String),
        (CompiledPattern.ofPattern p).apply g = .error (.patternMismatch g.form) ∧
        (CompiledPattern.ofPattern p).restrict? g = none ∧
        (CompiledPattern.ofPattern p).morpheme? i piece = none := by
  constructor
  · intro rules hrules
    refine Tokenizer.exists_faultyRule hrules fun r hr => ?_
    exact htext ((isExpression_iff_of_atStart hr).2 hmatched)
  · intro p hp g i piece
    have hmatcher : (CompiledPattern.ofPattern p).matcher? = none := by
      refine CompiledPattern.matcher?_eq_none hp fun w hw => ?_
      exact htext ((isExpression_iff_of_whole hw).2 hmatched)
    refine ⟨?_, ?_, ?_⟩
    · have hresult : (CompiledPattern.ofPattern p).result? g = none := by
        rw [CompiledPattern.result?, hmatcher]
        rfl
      rw [CompiledPattern.apply, hresult]
    · rw [CompiledPattern.restrict?, hmatcher]
      rfl
    · rw [CompiledPattern.morpheme?, hmatcher]
      rfl

/-- A group that is not closed. -/
theorem refused_openGroup :
    ¬IsExpression "(" ∧ ¬HasUnmatched "(" ∧
      (∃ fault, Tokenizer.ofRules [⟨.word, "(", none⟩] = .error (.faultyRule fault)) ∧
      (CompiledPattern.ofPattern ⟨⟨"", .empty, "", [.ofForm "("]⟩, .ofForm ""⟩).apply (.ofForm "a")
        = .error (.patternMismatch "a") := by
  have htext : ¬IsExpression "(" := by decide +kernel
  have htokens : Regex.tokens? "(".toList = some [.openPlain] := rfl
  have hmatched : ¬HasUnmatched "(" := not_hasUnmatched_of_tokens? htokens rfl
  have hrefused := refused_of_not_isExpression htext hmatched
  refine ⟨htext, hmatched, hrefused.1 _ ⟨_, List.mem_cons_self, Or.inl rfl⟩, ?_⟩
  exact (hrefused.2 _ (Or.inr ⟨_, List.mem_cons_self, rfl⟩) _ 0 "").1

/-- A parenthesis closes the group around the text, and another one is opened after it. -/
theorem not_forall_refused_of_not_isExpression :
    ¬∀ text : String, ¬IsExpression text →
      (∀ rules : List RuleText, (∃ rule ∈ rules, rule.pattern = text ∨ rule.follow = some text) →
        ∃ e, Tokenizer.ofRules rules = .error e) ∧
      ∀ p : Pattern, (p.select.form = text ∨ ∃ m ∈ p.select.morphemes, m.form = text) →
        ∀ (g : Gloss) (i : Nat) (piece : String),
          (CompiledPattern.ofPattern p).apply g = .error (.patternMismatch g.form) ∧
          (CompiledPattern.ofPattern p).restrict? g = none ∧
          (CompiledPattern.ofPattern p).morpheme? i piece = none := by
  intro h
  have htext : ¬IsExpression "a)(b" := by decide +kernel
  obtain ⟨e, he⟩ := (h "a)(b" htext).1 [⟨.word, "a)(b", none⟩] ⟨_, List.mem_cons_self, Or.inl rfl⟩
  have hadmitted : (Tokenizer.ofRules [⟨.word, "a)(b", none⟩]).isOk = true := by decide +kernel
  rw [he] at hadmitted
  cases hadmitted

end Interlinear
