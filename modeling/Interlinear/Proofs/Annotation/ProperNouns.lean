import Interlinear.Annotation.Annotator
import Interlinear.Lists
import Interlinear.Proofs.Text.TitleCase

set_option autoImplicit false

/-! # Proper nouns of decomposed text

A word in title case that comes after another word is offered as a proper noun, unless it is known
as one (`Annotator.offersProperNoun_iff`). Text is decomposed before it is annotated, and a word
whose letters are taken apart may not be in title case any more; it is offered alike as long as no
letter that is taken apart stands right before another one
(`Annotator.offersProperNoun_decomposed_iff`). -/

namespace Interlinear

namespace Annotator

variable {a : Annotator} {word : String}

/-- After another word, the first gloss of a word is that of a proper noun. -/
def OffersProperNoun (a : Annotator) (word : String) : Prop :=
  ∃ origin glosses, a.word true word = .word word origin (properNounGloss word :: glosses)

/-- No reading of a word is that of a proper noun. -/
def KnowsNoProperNoun (a : Annotator) (word : String) : Prop :=
  ∀ g ∈ Reading.glossesOf (a.readings word), g.tags.contains properNounTag = false

theorem contains_properNounTag (text : String) :
    (properNounGloss text).tags.contains properNounTag = true :=
  rfl

theorem offersProperNoun_iff (h : a.KnowsNoProperNoun word) :
    a.OffersProperNoun word ↔ Text.isTitle word = true := by
  have hnone : (Reading.glossesOf (a.readings word)).any (·.tags.contains properNounTag) = false :=
    List.any_eq_false.2 fun g hg => by rw [h g hg]; exact Bool.false_ne_true
  rw [OffersProperNoun, Annotator.word, withProperNoun, hnone]
  cases htitle : Text.isTitle word with
  | true => simp
  | false =>
      simp only [Bool.and_false, Bool.false_and, Bool.false_eq_true, if_false, iff_false]
      rintro ⟨origin, glosses, heq⟩
      obtain ⟨-, -, hglosses⟩ := AnnotatedToken.word.inj heq
      have hknown := h (properNounGloss word) (hglosses ▸ List.mem_cons_self)
      rw [contains_properNounTag] at hknown
      contradiction

/-- Without dictionaries, no word is known as a proper noun. -/
theorem exists_knowsNoProperNoun : ∃ a : Annotator, ∀ word, a.KnowsNoProperNoun word := by
  refine ⟨⟨⟨.empty, [], false⟩, []⟩, fun word g hg => ?_⟩
  obtain rfl : g = Gloss.ofForm (Text.lowered word) := List.mem_singleton.1 hg
  rfl

/-- A decomposed word is in title case if each letter with case is uppercase unless it comes right
after one that is not taken apart. So a word is in title case, and offered as a proper noun, just as
its decomposed form is, as long as no letter that is taken apart stands right before another one.
Any other word is taken out of title case. -/
theorem offersProperNoun_decomposed_iff
    (h : ∀ c ∈ word.toList, Text.iotaSubscript ∉ Text.canonicalExpansion c) :
    (Text.isTitle (Text.decomposed word) = true ↔
        Text.TitleCase (fun c => ¬ Text.IsComposite c) word.toList) ∧
      (¬ Text.HasCompositeRun word.toList →
        Text.isTitle (Text.decomposed word) = Text.isTitle word ∧
        ∀ a : Annotator, a.KnowsNoProperNoun word → a.KnowsNoProperNoun (Text.decomposed word) →
          (a.OffersProperNoun (Text.decomposed word) ↔ a.OffersProperNoun word)) ∧
      (Text.isTitle word = true →
        (Text.isTitle (Text.decomposed word) = true ↔ ¬ Text.HasCompositeRun word.toList)) := by
  refine ⟨Text.isTitle_decomposed_iff h, fun hrun => ?_, Text.isTitle_decomposed_iff_of_isTitle h⟩
  have htitle := Text.isTitle_decomposed h hrun
  refine ⟨htitle, fun a hknown hknown' => ?_⟩
  rw [offersProperNoun_iff hknown', htitle, ← offersProperNoun_iff hknown]

/-- The letter `ó` stands last in `N'Kó`. -/
theorem offersProperNoun_nko :
    ∃ a : Annotator, (∀ c ∈ "N'Kó".toList, Text.iotaSubscript ∉ Text.canonicalExpansion c) ∧
      ¬ Text.HasCompositeRun "N'Kó".toList ∧ a.OffersProperNoun "N'Kó" ∧
      a.OffersProperNoun (Text.decomposed "N'Kó") := by
  obtain ⟨a, hknown⟩ := exists_knowsNoProperNoun
  have hmarks : ∀ c ∈ "N'Kó".toList, Text.iotaSubscript ∉ Text.canonicalExpansion c :=
    List.forall_mem_of_all (by decide +kernel)
  have htitle : Text.isTitle "N'Kó" = true := by decide +kernel
  have hdecomposed : Text.isTitle (Text.decomposed "N'Kó") = true := by decide +kernel
  obtain ⟨-, halike, hrun⟩ := offersProperNoun_decomposed_iff hmarks
  have hrun := (hrun htitle).1 hdecomposed
  have hoffers := (offersProperNoun_iff (hknown _)).2 htitle
  exact ⟨a, hmarks, hrun, hoffers, ((halike hrun).2 a (hknown _) (hknown _)).2 hoffers⟩

/-- In `Fàn`, the letter `à` stands right before another one, and the word is offered as a proper
noun only as long as it is composed. What is written with an iota subscript need not stay as it is
either: `ᾼ` is neither uppercase nor lowercase, but is taken apart into an uppercase letter and a
lowercase mark. -/
theorem not_forall_isTitle_decomposed :
    ¬ (∀ word : String, Text.isTitle (Text.decomposed word) = Text.isTitle word) ∧
      (∃ a : Annotator, a.KnowsNoProperNoun "F\u00E0n" ∧
        a.KnowsNoProperNoun (Text.decomposed "F\u00E0n") ∧ a.OffersProperNoun "F\u00E0n" ∧
        ¬ a.OffersProperNoun (Text.decomposed "F\u00E0n")) ∧
      Text.isTitle "\u1FBC" = false ∧ Text.isTitle (Text.decomposed "\u1FBC") = true := by
  obtain ⟨a, hknown⟩ := exists_knowsNoProperNoun
  have htitle : Text.isTitle "F\u00E0n" = true := by decide +kernel
  have hdecomposed : Text.isTitle (Text.decomposed "F\u00E0n") = false := by decide +kernel
  refine ⟨fun hall => ?_, ⟨a, hknown _, hknown _, ?_, ?_⟩, by decide +kernel, by decide +kernel⟩
  · have := hall "F\u00E0n"
    rw [htitle, hdecomposed] at this
    contradiction
  · exact (offersProperNoun_iff (hknown _)).2 htitle
  · rw [offersProperNoun_iff (hknown _), hdecomposed]
    exact Bool.false_ne_true

end Annotator

end Interlinear
