import Interlinear.Analysis.Analyzer
import Interlinear.Proofs.Analysis.Segmentation
import Interlinear.Proofs.Except
import Interlinear.Proofs.Gloss.Resolution

set_option autoImplicit false

/-! # Candidates composed of keys

A pattern with templates for several morphemes takes a form apart into keys of the dictionaries.
What comes of it can be said without the steps in which it is found (`Analyzer.compositions`): for
every cut of the form whose pieces have the forms of the templates, and for every way to fill the
places of the templates, one candidate. A place is filled with the piece itself if its template has
a meaning, and with the resolved entries of the piece otherwise (`Analyzer.fillings`).

The analyzer gets there by another way. It has a short cut for candidates that are resolved at once,
it keeps a morpheme for which nothing is found, and it leaves out what is not resolved at the end.
None of this can be told from the results (`Analyzer.decompose_all_compositions`). -/

namespace Interlinear

/-! ## Templates -/

namespace Gloss

/-- Whether a text as a whole matches the form of a template. No text matches a form that is not a
regular expression. -/
def admitsForm (template : Gloss) (text : String) : Bool :=
  match Matcher.whole template.form with
  | .ok r => admits r text
  | .error _ => false

/-- A piece as a morpheme with the tags and the meaning of a template. -/
def fill (template : Gloss) (piece : String) : Gloss :=
  ⟨piece, template.tags, template.meaning, []⟩

/-- Whether each piece has the form of the template in its place. -/
def admitForms (templates : List Gloss) (pieces : List String) : Bool :=
  (List.zipWith admitsForm templates pieces).all id

end Gloss

namespace Matcher

theorem whole_of_ofTemplate {select : Gloss} {m : Matcher} (h : ofTemplate select = .ok m) :
    whole select.form = .ok m.form ∧
      (select.morphemes.map (·.form)).mapM whole = .ok m.pieces := by
  rw [ofTemplate] at h
  -- There may be nothing to split, but all that follows is the same.
  split at h
  all_goals
    obtain ⟨split, -, h⟩ := Except.bind_eq_ok_iff.1 h
    obtain ⟨form, hform, h⟩ := Except.bind_eq_ok_iff.1 h
    obtain ⟨pieces, hpieces, h⟩ := Except.bind_eq_ok_iff.1 h
    obtain rfl := Except.ok.inj h
    exact ⟨hform, hpieces⟩

/-- The regular expression for the piece of a template is made of the template's form. -/
theorem exists_piece_of_ofTemplate {select template : Gloss} {m : Matcher} {i : Nat}
    (h : ofTemplate select = .ok m) (ht : select.morphemes[i]? = some template) :
    ∃ r, m.pieces[i]? = some r ∧ whole template.form = .ok r := by
  have hi := congrArg (·[i]?) (Except.mapM_eq_ok_iff.1 (whole_of_ofTemplate h).2)
  simp only [List.getElem?_map, ht, Option.map_some] at hi
  obtain ⟨r, hr, hwhole⟩ := Option.map_eq_some_iff.1 hi.symm
  exact ⟨r, hr, hwhole.symm⟩

end Matcher

namespace CompiledPattern

theorem morpheme?_ofPattern {pattern : Pattern} {m : Matcher} {i : Nat} {template : Gloss}
    (hm : (ofPattern pattern).matcher? = some m)
    (ht : pattern.select.morphemes[i]? = some template) (piece : String) :
    (ofPattern pattern).morpheme? i piece
      = if template.admitsForm piece then some (template.fill piece) else none := by
  obtain ⟨r, hr, hwhole⟩ :=
    Matcher.exists_piece_of_ofTemplate (matcher?_ofPattern_eq_some_iff.1 hm) ht
  have hselect : (ofPattern pattern).pattern.select.morphemes[i]? = some template := ht
  rw [morpheme?, hm, hselect]
  simp only [Option.bind_eq_bind, Option.bind_some, hr, Gloss.admitsForm, hwhole]
  rfl

/-- The morphemes made of as many pieces as there are templates. -/
theorem morphemes?_ofPattern {pattern : Pattern} {m : Matcher}
    (hm : (ofPattern pattern).matcher? = some m) {pieces : List String}
    (hlen : pieces.length = pattern.select.morphemes.length) :
    (ofPattern pattern).morphemes? pieces =
      if Gloss.admitForms pattern.select.morphemes pieces
      then some (List.zipWith Gloss.fill pattern.select.morphemes pieces) else none :=
  List.mapM_mapIdx_eq_zipWith hlen fun _ _ piece ht => morpheme?_ofPattern hm ht piece

end CompiledPattern

namespace Analyzer

variable (a : Analyzer)

/-! ## Combinations of morphemes -/

/-- The short cut for resolved candidates is none: their morphemes stand for themselves. -/
theorem lookup_eq_choices {g : Gloss} (h : g.morphemes ≠ []) :
    a.lookup g = (choices (g.morphemes.map a.readings)).map g.withMorphemes := by
  rw [lookup]
  by_cases hg : g.isResolved
  · have hall : ∀ m ∈ g.morphemes, m.isResolved = true := by
      rw [Gloss.isResolved_eq] at hg
      simpa [h] using hg
    have hsame : g.morphemes.map a.readings = g.morphemes.map fun m => [m] := by
      refine List.map_congr_left fun m hm => ?_
      rw [readings, if_pos (hall m hm)]
    rw [if_pos hg, hsame, choices_map_singleton, List.map_singleton, g.withMorphemes_self]
  · rw [if_neg hg, if_neg (by simpa using h)]

/-- The resolved candidates are those all of whose morphemes are resolved. -/
theorem filter_isResolved_lookup {g : Gloss} (h : g.morphemes ≠ []) :
    (a.lookup g).filter (·.isResolved) =
      (choices (g.morphemes.map fun m => (a.readings m).filter (·.isResolved))).map
        g.withMorphemes := by
  have hall : ∀ c ∈ choices (g.morphemes.map a.readings),
      (g.withMorphemes c).isResolved = c.all Gloss.isResolved := by
    intro c hc
    have hlen := length_of_mem_choices hc
    refine g.isResolved_withMorphemes ?_
    rintro rfl
    exact h (by simpa using hlen.symm)
  rw [a.lookup_eq_choices h, List.filter_map, Function.comp_def, List.filter_congr hall,
    filter_choices, List.map_map]
  rfl

/-! ## Places of templates -/

/-- What may stand for a piece in the place of a template: the piece with the tags and the meaning
of the template if that has a meaning, and the resolved entries of the piece that are compatible
with the tags of the template otherwise. -/
def fillings (template : Gloss) (piece : String) : List Gloss :=
  if template.meaning.isEmpty then
    (a.union.glosses (a.key piece)).filter fun e =>
      e.isResolved && e.tags.compatible template.tags
  else [template.fill piece]

theorem satisfies_tags (e : Gloss) (tags : TagSet) :
    e.satisfies ⟨"", tags, "", []⟩ = e.tags.compatible tags := by
  obtain ⟨form, etags, meaning, morphemes⟩ := e
  have hempty : "".isEmpty = true := rfl
  simp [Gloss.satisfies, hempty]

theorem filter_isResolved_readings (template : Gloss) (piece : String) :
    (a.readings (template.fill piece)).filter (·.isResolved) = a.fillings template piece := by
  rw [readings, fillings]
  by_cases hmeaning : template.meaning.isEmpty
  · have hunresolved : (template.fill piece).isResolved = false := by
      simp [Gloss.fill, Gloss.isResolved, hmeaning]
    have hentries : a.entries (template.fill piece)
        = (a.union.glosses (a.key piece)).filter (·.tags.compatible template.tags) := by
      rw [entries, Gloss.fill]
      simp only [String.isEmpty_iff.1 hmeaning, satisfies_tags]
    rw [if_pos hmeaning, if_neg (by simp [hunresolved]), ← List.filter_filter, ← hentries]
    -- A piece that is not found stays as it is, but it is not resolved.
    by_cases hnil : (a.entries (template.fill piece)).isEmpty
    · simp [List.isEmpty_iff.1 hnil, hunresolved]
    · simp [hnil]
  · have hresolved : (template.fill piece).isResolved = true := by
      simp [Gloss.fill, Gloss.isResolved, hmeaning]
    rw [if_neg hmeaning, if_pos hresolved, List.filter_cons_of_pos hresolved, List.filter_nil]

theorem map_filter_readings_fill (templates : List Gloss) (pieces : List String) :
    (List.zipWith Gloss.fill templates pieces).map (fun m => (a.readings m).filter (·.isResolved))
      = List.zipWith a.fillings templates pieces := by
  rw [List.map_zipWith]
  simp only [filter_isResolved_readings]

/-! ## Compositions -/

/-- The candidates that a pattern composes of a narrowed candidate and a form: one for each cut of
the form into pieces that have the forms of the templates, and for each way to fill the places of
the templates, the first place varying slowest. -/
def compositions (pattern : Pattern) (base : Gloss) (form : String) : List Gloss :=
  let templates := pattern.select.morphemes
  let cuts := (segmentations a.union form templates.length).filter (Gloss.admitForms templates)
  cuts.flatMap fun pieces =>
    (choices (List.zipWith a.fillings templates pieces)).map fun morphemes =>
      (base.withMorphemes morphemes).overlay pattern.mark

theorem length_of_mem_segmentations {u : Union} {form : String} {parts : Nat} (h : 0 < parts)
    {pieces : List String} (hp : pieces ∈ segmentations u form parts) : pieces.length = parts := by
  rw [segmentations_eq_cutsInto u form h] at hp
  exact (mem_cutsInto.1 hp).1

theorem decompose_eq_compositions {pattern : Pattern} {g base : Gloss}
    (hparts : 2 ≤ pattern.select.morphemes.length)
    (hbase : (CompiledPattern.ofPattern pattern).restrict? g = some base) :
    a.decompose (.ofPattern pattern) g = a.compositions pattern base (a.key g.form) := by
  have harity : (CompiledPattern.ofPattern pattern).arity = pattern.select.morphemes.length := rfl
  obtain ⟨m, hm, -⟩ := Option.bind_eq_some_iff.1 hbase
  rw [decompose, if_neg (by omega), hbase, compositions, List.flatMap_filter]
  dsimp only
  -- Cut by cut: one whose pieces have not the forms of the templates comes to nothing.
  refine List.flatMap_congr fun pieces hpieces => ?_
  have hlen : pieces.length = pattern.select.morphemes.length :=
    length_of_mem_segmentations (by omega) hpieces
  rw [CompiledPattern.morphemes?_ofPattern hm hlen]
  by_cases hfits : Gloss.admitForms pattern.select.morphemes pieces
  · have hne : (base.withMorphemes
        (List.zipWith Gloss.fill pattern.select.morphemes pieces)).morphemes ≠ [] := by
      rw [← List.length_pos_iff]
      simp only [Gloss.withMorphemes, List.length_zipWith]
      omega
    rw [if_pos hfits, if_pos hfits]
    dsimp only
    rw [a.filter_isResolved_lookup hne, List.map_map]
    dsimp only [Gloss.withMorphemes]
    rw [map_filter_readings_fill]
    rfl
  · rw [if_neg hfits, if_neg hfits]

theorem of_mem_compositions {pattern : Pattern} {base r : Gloss} {form : String}
    (hparts : 2 ≤ pattern.select.morphemes.length) (hr : r ∈ a.compositions pattern base form) :
    r.morphemes.length = pattern.select.morphemes.length ∧ r.isResolved = true := by
  obtain ⟨pieces, hpieces, hr⟩ := List.mem_flatMap.1 hr
  obtain ⟨ms, hms, rfl⟩ := List.mem_map.1 hr
  have hcut : pieces.length = pattern.select.morphemes.length :=
    length_of_mem_segmentations (by omega) (List.mem_filter.1 hpieces).1
  have hlen : ms.length = pattern.select.morphemes.length := by
    rw [length_of_mem_choices hms, List.length_zipWith]
    omega
  have hne : ms ≠ [] := by
    rintro rfl
    simp at hlen
    omega
  have hall : ms.all Gloss.isResolved = true := by
    rw [List.all_eq_true]
    intro m hm
    rw [← map_filter_readings_fill] at hms
    obtain ⟨l, hl, hml⟩ := mem_of_mem_choices hms hm
    obtain ⟨filled, -, rfl⟩ := List.mem_map.1 hl
    exact (List.mem_filter.1 hml).2
  constructor
  · rw [Gloss.length_morphemes_overlay]
    exact hlen
  · refine Gloss.isResolved_overlay _ _ ?_
    rw [Gloss.isResolved_withMorphemes base hne]
    exact hall

/-- **Decomposition finds all compositions.** A pattern with several templates makes nothing of a
candidate if it cannot be used or does not admit the candidate. Otherwise it makes what can be
composed of the narrowed candidate, for all cuts of the key of its form in their order. Each result
has as many morphemes as there are templates, and it is resolved, whatever its marks are. -/
theorem decompose_all_compositions {pattern : Pattern}
    (hparts : 2 ≤ pattern.select.morphemes.length) (g : Gloss) :
    (∀ fault, Matcher.ofTemplate pattern.select = .error fault →
      a.decompose (.ofPattern pattern) g = []) ∧
    ((CompiledPattern.ofPattern pattern).restrict? g = none →
      a.decompose (.ofPattern pattern) g = []) ∧
    (∀ base, (CompiledPattern.ofPattern pattern).restrict? g = some base →
      a.decompose (.ofPattern pattern) g = a.compositions pattern base (a.key g.form)) ∧
    ∀ r ∈ a.decompose (.ofPattern pattern) g,
      r.morphemes.length = pattern.select.morphemes.length ∧ r.isResolved = true := by
  have harity : ¬(CompiledPattern.ofPattern pattern).arity < 2 := by
    show ¬pattern.select.morphemes.length < 2
    omega
  have hrejected : (CompiledPattern.ofPattern pattern).restrict? g = none →
      a.decompose (.ofPattern pattern) g = [] := by
    intro h
    rw [decompose, if_neg harity, h]
  refine ⟨?_, hrejected, fun base => a.decompose_eq_compositions hparts, ?_⟩
  · intro fault h
    refine hrejected ?_
    rw [CompiledPattern.restrict?, CompiledPattern.matcher?, CompiledPattern.ofPattern, h]
    rfl
  · intro r hr
    cases hbase : (CompiledPattern.ofPattern pattern).restrict? g with
    | none =>
        rw [hrejected hbase] at hr
        simp at hr
    | some base =>
        rw [a.decompose_eq_compositions hparts hbase] at hr
        exact a.of_mem_compositions hparts hr

/-- Dictionary entries of which some have no meaning, and some share a key. -/
def necks : Union :=
  let entries : List (String × Gloss) := [
    ("kan", ⟨"kan", .ofList ["n"], "neck", []⟩), ("kan", ⟨"kan", .ofList ["v"], "be equal", []⟩),
    ("kan", ⟨"kan", .empty, "voice", []⟩), ("kan", ⟨"kan", .ofList ["n"], "", []⟩),
    ("ka", ⟨"ka", .ofList ["n"], "earth", []⟩), ("w", .ofForm "w"), ("nw", .ofForm "nw"),
    ("k", .ofForm "k"), ("anw", .ofForm "anw")]
  .ofList (entries.foldl (fun b e => b.insert e.1 e.2) Builder.empty).build.toOption.toList

/-- A noun and an ending, which is marked as such. -/
def ending : Pattern where
  select := ⟨"", .ofList ["n"], "", [⟨"ka.?", .ofList ["n"], "", []⟩, ⟨"n?w", .empty, "PL", []⟩]⟩
  mark := ⟨"", .ofList ["n.pl"], "", [.empty, ⟨"", .ofList ["mrph"], "", []⟩]⟩

theorem decompose_necks :
    2 ≤ ending.select.morphemes.length ∧
    (Analyzer.mk necks [] true).decompose (.ofPattern ending) (.ofForm "kànw") =
      let composed : Gloss → String → Gloss := fun stem w =>
        ⟨"kànw", .ofList ["n.pl"], "", [stem, ⟨w, .ofList ["mrph"], "PL", []⟩]⟩
      [composed ⟨"kan", .ofList ["n"], "neck", []⟩ "w", composed ⟨"kan", .empty, "voice", []⟩ "w",
        composed ⟨"ka", .ofList ["n"], "earth", []⟩ "nw"] := by
  have hparts : 2 ≤ ending.select.morphemes.length := by decide
  have hbase : (CompiledPattern.ofPattern ending).restrict? (.ofForm "kànw")
      = some ⟨"kànw", .ofList ["n"], "", []⟩ := by decide +kernel
  obtain ⟨-, -, hcompositions, -⟩ :=
    decompose_all_compositions ⟨necks, [], true⟩ hparts (.ofForm "kànw")
  refine ⟨hparts, (hcompositions _ hbase).trans ?_⟩
  decide +kernel

end Analyzer

end Interlinear
