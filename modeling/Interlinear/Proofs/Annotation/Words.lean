import Interlinear.Proofs.Analysis.Outcome
import Interlinear.Proofs.Annotation.Coverage

set_option autoImplicit false

/-! # Every word has glosses

The candidates of an analysis never run out, and no converter leaves a word without spellings. The
stage that is reported for a word is that of one of its spellings. The candidates of this one are
among the glosses of the word, whatever the sign of the number is
(`Reading.candidates_subset_glossesOf`). So every annotated word has a gloss
(`Annotator.glosses_ne_nil_of_mem_annotate`). -/

namespace Interlinear

/-! ## Spellings -/

namespace Converter

theorem applyTo_ne_nil (c : Converter) {spellings : List String} (h : spellings ≠ []) :
    c.applyTo spellings ≠ [] := List.flatMap_orSelf_ne_nil c.convert h

theorem spellings_ne_nil (cs : List Converter) (word : String) : spellings cs word ≠ [] := by
  rw [spellings]
  refine List.foldlRecOn (motive := fun spellings : List String => spellings ≠ []) _ _ (by simp) ?_
  intro spellings h c _
  exact c.applyTo_ne_nil h

end Converter

/-! ## Readings -/

namespace Reading

/-- The stage of a word is that of one of its readings. -/
theorem exists_stage_eq_stageOf {rs : List Reading} (h : rs ≠ []) :
    ∃ r ∈ rs, r.analysis.stage = stageOf rs := by
  -- There is a highest stage, and so the default is not used.
  have : Std.MaxEqOr Int32 := ⟨fun a b => (ite_eq_or_eq (a ≤ b) b a).symm⟩
  obtain ⟨highest, hhighest⟩ := Option.isSome_iff_exists.1
    (List.isSome_max?_of_ne_nil (mt List.map_eq_nil_iff.1 h : rs.map (·.analysis.stage) ≠ []))
  obtain ⟨r, hr, hstage⟩ := List.mem_map.1 (List.max?_mem hhighest)
  refine ⟨r, hr, ?_⟩
  rw [stageOf, hhighest, hstage, Option.getD_some]

/-- The reading with the stage of the word is kept: it is resolved if any is. -/
theorem candidates_subset_glossesOf {rs : List Reading} {r : Reading} (hr : r ∈ rs)
    (hstage : r.analysis.stage = stageOf rs) : r.analysis.candidates ⊆ glossesOf rs := by
  intro g hg
  refine List.mem_flatMap.2 ⟨r, ?_, hg⟩
  split
  next hresolved => exact List.mem_filter.2 ⟨hr, by simpa [hstage] using hresolved⟩
  next => exact hr

end Reading

/-! ## Words -/

namespace Annotator

/-- Where the glosses of a word come from: a number has its own gloss, and any other word all the
candidates for one of its spellings, which is analyzed up to the stage that is reported. -/
inductive Analyzed (a : Annotator) (text : String) : Origin → List Gloss → Prop where
  | number : Analyzed a text .tokenizer [cardinalGloss text]
  | word {spelling : String} {analysis : Analysis} {glosses : List Gloss}
      (hspelling : spelling ∈ Converter.spellings a.converters text)
      (hanalysis : analysis = a.analyzer.analyze (Text.lowered spelling))
      (hcandidates : analysis.candidates ⊆ glosses) :
      Analyzed a text (.analyzer analysis.stage) glosses

variable {a : Annotator}

theorem Analyzed.ne_nil {text : String} {origin : Origin} {glosses : List Gloss}
    (h : a.Analyzed text origin glosses) : glosses ≠ [] := by
  cases h with
  | number => simp
  | @word spelling analysis _ hspelling hanalysis hcandidates =>
      subst hanalysis
      have houtcome := a.analyzer.outcome_analyze (Text.lowered spelling)
      obtain ⟨g, hg⟩ :=
        List.exists_mem_of_ne_nil _ (Analyzer.candidates_ne_nil_of_outcome houtcome)
      exact List.ne_nil_of_mem (hcandidates hg)

/-- The gloss of a proper noun takes nothing away. -/
theorem subset_withProperNoun (afterWord : Bool) (word : String) (glosses : List Gloss) :
    glosses ⊆ withProperNoun afterWord word glosses := by
  rw [withProperNoun]
  split
  · exact List.subset_cons_self _ _
  · exact List.Subset.refl _

theorem analyzed_word (a : Annotator) (afterWord : Bool) (text : String) :
    a.Analyzed text (.analyzer (Reading.stageOf (a.readings text)))
      (withProperNoun afterWord text (Reading.glossesOf (a.readings text))) := by
  have hreadings : a.readings text ≠ [] :=
    mt List.map_eq_nil_iff.1 (Converter.spellings_ne_nil a.converters text)
  obtain ⟨r, hr, hstage⟩ := Reading.exists_stage_eq_stageOf hreadings
  have hkept := Reading.candidates_subset_glossesOf hr hstage
  obtain ⟨spelling, hspelling, rfl⟩ := List.mem_map.1 hr
  rw [← hstage]
  exact .word hspelling rfl (List.Subset.trans hkept (subset_withProperNoun afterWord text _))

theorem analyzed_of_mem_token? {afterWord : Bool} {t : Token} {word : String} {origin : Origin}
    {glosses : List Gloss} (h : .word word origin glosses ∈ a.token? afterWord t) :
    a.Analyzed word origin glosses := by
  unfold token? at h
  cases hkind : t.kind with
  | comment | tag | sentenceEnd | punctuation | other | paragraphBreak | lineBreak | space =>
      rw [hkind] at h
      cases h
  | cardinal =>
      rw [hkind] at h
      cases h
      exact .number
  | word =>
      rw [hkind] at h
      cases h
      exact a.analyzed_word afterWord t.text

/-- **No word loses its analyses.** Whatever the dictionaries, the stages and the converters of an
annotator are, every word of the annotation of a text has a gloss. It has all candidates of the
analysis of one of its spellings, the one that reports the stage of the word, and these are never
none. The stages may be those of any plan: their numbers may be negative, and a stop may accept
candidates that are not resolved. -/
theorem glosses_ne_nil_of_mem_annotate (a : Annotator) (text : String) {s : AnnotatedSentence}
    (hs : s ∈ a.annotate text) {word : String} {origin : Origin} {glosses : List Gloss}
    (hword : .word word origin glosses ∈ s.tokens) :
    glosses ≠ [] ∧ a.Analyzed word origin glosses := by
  obtain ⟨t, -, afterWord, htoken⟩ := exists_of_mem_annotate hs hword
  have hanalyzed := analyzed_of_mem_token? htoken
  exact ⟨hanalyzed.ne_nil, hanalyzed⟩

/-- Looks words up in a stage with a negative number, and is content with those not found. -/
def lookupBelowZero : Grammar where
  token := [⟨.stage (-5), ["apply", "lookup"]⟩, ⟨.stop, ["parsed"]⟩, ⟨.stop, ["unknown"]⟩]
  sentence := []
  sections := .empty

/-- Gives no spelling for any word. -/
def silentConverter : Converter := ⟨"silent", "Gives nothing", fun _ => []⟩

/-- A word whose stage is negative although it is resolved. -/
theorem glosses_ne_nil_of_lookupBelowZero :
    ∃ z, Analyzer.ofPlan Analyzer.stemAndEnding (.compile lookupBelowZero) false = .ok z ∧
      ∃ s ∈ annotate ⟨z, [silentConverter]⟩ "kan", ∃ glosses,
        .word "kan" (.analyzer (-5)) glosses ∈ s.tokens ∧ glosses ≠ [] ∧
          Analyzed ⟨z, [silentConverter]⟩ "kan" (.analyzer (-5)) glosses := by
  have htokens : (Analyzer.ofPlan Analyzer.stemAndEnding (.compile lookupBelowZero)
      false).toOption.map (fun z => (annotate ⟨z, [silentConverter]⟩ "kan").map (·.tokens)) =
      some [[.word "kan" (.analyzer (-5)) [⟨"kan", .ofList ["n"], "neck", []⟩]]] := by
    unfold annotate
    rw [Tokenizer.standard_eq]
    decide +kernel
  cases hz : Analyzer.ofPlan Analyzer.stemAndEnding (.compile lookupBelowZero) false with
  | error e =>
      rw [hz] at htokens
      cases htokens
  | ok z =>
      rw [hz] at htokens
      obtain ⟨s, hs, hkan⟩ := List.map_eq_singleton_iff.1 (Option.some.inj htokens)
      have hmem : s ∈ annotate ⟨z, [silentConverter]⟩ "kan" := by
        rw [hs]
        exact List.mem_singleton_self s
      have hword : .word "kan" (.analyzer (-5)) [⟨"kan", .ofList ["n"], "neck", []⟩] ∈
          s.tokens := by
        rw [hkan]
        exact List.mem_singleton_self _
      exact ⟨z, rfl, s, hmem, _, hword, glosses_ne_nil_of_mem_annotate _ _ hmem hword⟩

end Annotator

end Interlinear
