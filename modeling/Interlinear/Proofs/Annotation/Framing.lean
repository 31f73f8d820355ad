import Interlinear.Annotation.Annotator
import Interlinear.Proofs.Analysis.Candidates
import Interlinear.Proofs.Annotation.Coverage
import Interlinear.Proofs.Annotation.Lines
import Interlinear.Proofs.Dictionary.Lines
import Interlinear.Proofs.Text.Controls
import Interlinear.Proofs.Token.Characters
import Interlinear.Proofs.Union.Members

set_option autoImplicit false

/-! # Annotated tokens are on one line

What is printed of a token comes from three places: the text, the spellings of a word, and the
dictionaries. The first has no line feed in a token other than a comment, the second bring none in,
and the glosses of the third are on one line. A plan that only looks words up puts nothing else into
a gloss (`Annotator.Plain.oneLine_of_mem_annotate`). -/

namespace Interlinear

open Text

/-! ## Unions -/

/-- All glosses that are found in a union are on one line. -/
def Union.OneLine (u : Union) : Prop := ∀ d ∈ u.members, d.OneLine

namespace Union

variable {u : Union}

theorem oneLine_empty : empty.OneLine := fun _ hd => absurd hd List.not_mem_nil

theorem OneLine.register (hu : u.OneLine) {d : Dictionary} (hd : d.OneLine) :
    (u.register d).2.OneLine := by
  intro m hm
  rcases mem_members_register hm with rfl | hm
  · exact hd
  · exact hu m hm

theorem OneLine.of_mem_glosses (hu : u.OneLine) {key : String} {g : Gloss}
    (hg : g ∈ u.glosses key) : g.OneLine := by
  obtain ⟨d, hd, hg⟩ := List.mem_flatMap.1 hg
  cases hfind : d.find? key with
  | none => simp [hfind] at hg
  | some glosses =>
      rw [hfind, Option.getD_some] at hg
      exact hu d hd key glosses hfind g hg

end Union

/-! ## Analyses -/

namespace Analyzer

variable {a : Analyzer}

/-- What is found for a gloss on one line is on one line. -/
theorem keeps_oneLine (hu : a.union.OneLine) : a.Keeps .lookup Gloss.OneLine := by
  have hentries : ∀ g, ∀ e ∈ a.entries g, e.OneLine :=
    fun g e he => hu.of_mem_glosses (List.mem_filter.1 he).1
  intro g hg r hr
  rcases of_mem_lookup hr with rfl | hr | ⟨ms, rfl, hms⟩
  · exact hg
  · exact hentries g r hr
  · refine hg.withMorphemes fun m' hm' => ?_
    obtain ⟨m, hm, rfl | hm'⟩ := hms m' hm'
    · exact hg.of_mem_morphemes hm
    · exact hentries m m' hm'

/-- The stages do nothing but look candidates up. -/
def LooksUp (a : Analyzer) : Prop :=
  ∀ st ∈ a.stages, ∀ t, st.transform? = some t → t = .lookup

theorem oneLine_of_mem_analyze (hlooks : a.LooksUp) (hu : a.union.OneLine) {word : String}
    (hword : Text.OneLine word) : ∀ g ∈ (a.analyze word).candidates, g.OneLine := by
  refine forall_mem_candidates_runFrom ?_ unresolvedStage ?_
  · intro st hst t ht
    rw [hlooks st hst t ht]
    exact keeps_oneLine hu
  · rw [List.forall_mem_singleton]
    exact .ofForm hword

end Analyzer

/-! ## Words -/

namespace Annotator

/-- Words are only looked up, what is found is on one line, and no spelling of a word has control
characters that the word does not have. -/
structure Plain (a : Annotator) : Prop where
  looksUp : a.analyzer.LooksUp
  union : a.analyzer.union.OneLine
  converters : ∀ c ∈ a.converters, c.Conservative

variable {a : Annotator} (h : a.Plain)

include h

theorem Plain.oneLine_of_mem_readings {word : String} (hword : Text.OneLine word) {r : Reading}
    (hr : r ∈ a.readings word) : ∀ g ∈ r.analysis.candidates, g.OneLine := by
  obtain ⟨s, hs, rfl⟩ := List.mem_map.1 hr
  refine Analyzer.oneLine_of_mem_analyze h.looksUp h.union fun hmem => hword ?_
  have hfeed : IsControl '\n' := by decide
  exact Converter.control_mem_of_mem_spellings h.converters hfeed hs
    (control_mem_of_mem_lowered hfeed hmem)

/-- The glosses of a word are those of its readings. -/
theorem Plain.oneLine_of_mem_glossesOf {word : String} (hword : Text.OneLine word) :
    ∀ g ∈ Reading.glossesOf (a.readings word), g.OneLine := by
  intro g hg
  obtain ⟨r, hr, hg⟩ := List.mem_flatMap.1 hg
  refine h.oneLine_of_mem_readings hword ?_ g hg
  split at hr
  · exact (List.mem_filter.1 hr).1
  · exact hr

omit h in
theorem oneLine_properNounGloss {word : String} (hword : Text.OneLine word) :
    (properNounGloss word).OneLine :=
  .mk hword (by decide) hword (by simp)

omit h in
theorem oneLine_cardinalGloss {text : String} (htext : Text.OneLine text) :
    (cardinalGloss text).OneLine :=
  .mk htext (by decide) (by decide) (by simp)

theorem Plain.oneLine_word (afterWord : Bool) {text : String} (htext : Text.OneLine text) :
    (a.word afterWord text).OneLine := by
  have hglosses := h.oneLine_of_mem_glossesOf htext
  refine ⟨htext, ?_⟩
  rw [withProperNoun]
  split
  · exact List.forall_mem_cons.2 ⟨oneLine_properNounGloss htext, hglosses⟩
  · exact hglosses

/-! ## Tokens -/

theorem Plain.oneLine_of_mem_token? {afterWord : Bool} {t : Token} {annotated : AnnotatedToken}
    (ht : t.kind.mayBreak = false → Text.OneLine t.text)
    (hannotated : annotated ∈ a.token? afterWord t) : annotated.OneLine := by
  unfold token? at hannotated
  cases hkind : t.kind with
  | comment =>
      rw [hkind] at hannotated
      obtain rfl := Option.some.inj hannotated
      trivial
  | tag | sentenceEnd | punctuation | other =>
      rw [hkind] at hannotated ht
      obtain rfl := Option.some.inj hannotated
      exact ht rfl
  | paragraphBreak | lineBreak | space =>
      rw [hkind] at hannotated
      cases hannotated
  | cardinal =>
      rw [hkind] at hannotated ht
      obtain rfl := Option.some.inj hannotated
      exact ⟨ht rfl, List.forall_mem_singleton.2 (oneLine_cardinalGloss (ht rfl))⟩
  | word =>
      rw [hkind] at hannotated ht
      obtain rfl := Option.some.inj hannotated
      exact h.oneLine_word afterWord (ht rfl)

/-- **Annotated tokens are on one line.** Comments may go over several lines of the text; they are
brought onto one line when they are printed. -/
theorem Plain.oneLine_of_mem_annotate (text : String) :
    ∀ s ∈ a.annotate text, ∀ t ∈ s.tokens, t.OneLine := by
  intro s hs annotated hannotated
  obtain ⟨t, ht, afterWord, hannotated⟩ := exists_of_mem_annotate hs hannotated
  exact h.oneLine_of_mem_token? (fun hkind => lineFeed_not_mem_of_mem_tokens ht hkind) hannotated

end Annotator

end Interlinear
