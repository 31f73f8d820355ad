import Interlinear.Proofs.Analysis.Candidates
import Interlinear.Proofs.Analysis.Segmentation
import Interlinear.Proofs.Dictionary.Multimap
import Interlinear.Proofs.Grammar.Forms

set_option autoImplicit false

/-! # Analyses do not see the members of a union

An analysis asks a union for glosses of keys and whether it has keys, and nothing else. So two
unions that give the same answers (`Union.Agrees`) give the same analyses. The answers need to be
the same for texts without the end mark of an index only, because an analysis of such a text never
comes to ask about another one: its candidates stay free of the mark (`Gloss.Unmarked`) at every
stage. -/

namespace Interlinear

/-- Two unions give the same answers about all texts without the end mark. -/
structure Union.Agrees (u v : Union) : Prop where
  glosses : ∀ {key : String}, Index.Unmarked key → u.glosses key = v.glosses key
  contains : ∀ {key : String}, Index.Unmarked key → u.contains key = v.contains key

/-- The glosses of a union are free of the end mark. -/
def Union.Clean (u : Union) : Prop :=
  ∀ {key : String}, Index.Unmarked key → ∀ g ∈ u.glosses key, g.Unmarked

/-! ## Searching -/

namespace Union.Agrees

variable {u v : Union} (h : u.Agrees v)

include h

theorem lookup {key : String} (hkey : Index.Unmarked key) : u.lookup key = v.lookup key := by
  rw [Union.lookup, Union.lookup, h.glosses hkey]

theorem prefixes {form : String} (hform : Index.Unmarked form) :
    u.prefixes form = v.prefixes form := by
  rw [Union.prefixes_eq_filter, Union.prefixes_eq_filter]
  refine List.filter_congr fun key hkey => h.contains (hform.of_subset ?_)
  exact (mem_map_beginnings.1 hkey).2.subset

theorem cutsInto (parts : Nat) {text : List Char} (htext : Index.endMark ∉ text) :
    cutsInto u parts text = Interlinear.cutsInto v parts text := by
  induction parts generalizing text with
  | zero => rfl
  | succ parts ih =>
      have hform : Index.Unmarked (String.ofList text) := by
        rwa [Index.Unmarked, String.toList_ofList]
      rw [Interlinear.cutsInto, Interlinear.cutsInto, h.prefixes hform]
      refine List.flatMap_congr fun key _ => ?_
      rw [ih fun hmem => htext (List.mem_of_mem_drop hmem)]

theorem segmentations {form : String} (hform : Index.Unmarked form) (parts : Nat) :
    segmentations u form parts = Interlinear.segmentations v form parts := by
  by_cases hparts : parts = 0
  · rw [hparts]
    rfl
  · have hpos := Nat.pos_of_ne_zero hparts
    rw [segmentations_eq_cutsInto u form hpos, segmentations_eq_cutsInto v form hpos,
      h.cutsInto parts hform]

end Union.Agrees

/-! ## Candidates without the end mark -/

namespace Gloss

theorem unmarked_iff {g : Gloss} : g.Unmarked ↔ ∀ s ∈ g.forms, Index.Unmarked s := by
  rw [forms, List.forall_mem_cons, List.forall_mem_map]
  rfl

theorem Unmarked.of_formsWithin {g h : Gloss} (hg : g.Unmarked) (hh : h.FormsWithin g) :
    h.Unmarked := by
  rw [unmarked_iff] at hg ⊢
  intro s hs
  obtain ⟨t, ht, hst⟩ := hh s hs
  exact (hg t ht).of_subset hst

theorem unmarked_ofForm {form : String} (h : Index.Unmarked form) : (ofForm form).Unmarked :=
  ⟨h, by simp [ofForm]⟩

end Gloss

namespace Analyzer

variable {a : Analyzer}

theorem unmarked_key {form : String} (h : Index.Unmarked form) : Index.Unmarked (a.key form) := by
  rw [key]
  split
  · exact h.toneless
  · exact h

section Clean

variable (hclean : a.union.Clean)

include hclean

theorem unmarked_of_mem_entries {g e : Gloss} (hg : Index.Unmarked g.form)
    (he : e ∈ a.entries g) : e.Unmarked :=
  hclean (unmarked_key hg) e (List.mem_filter.1 he).1

theorem unmarked_of_mem_lookup {g r : Gloss} (hg : g.Unmarked) (hr : r ∈ a.lookup g) :
    r.Unmarked := by
  rcases of_mem_lookup hr with rfl | hr | ⟨ms, rfl, hms⟩
  · exact hg
  · exact unmarked_of_mem_entries hclean hg.1 hr
  · refine ⟨hg.1, fun m' hm' => ?_⟩
    obtain ⟨m, hm, rfl | hm'⟩ := hms m' hm'
    · exact hg.2 m' hm
    · exact (unmarked_of_mem_entries hclean (hg.2 m hm) hm').1

omit hclean in
theorem unmarked_of_mem_parse {p : CompiledPattern} {g r : Gloss} (hg : g.Unmarked)
    (hr : r ∈ parse p g) : r.Unmarked := by
  have hsome : p.result? g = some r := Option.mem_toList.1 hr
  exact hg.of_formsWithin (CompiledPattern.formsWithin_of_result? hsome)

omit hclean in
/-- A candidate whose form was cut into keys is free of the end mark if it was so before. -/
theorem unmarked_withMorphemes {p : CompiledPattern} {g base : Gloss} {pieces : List String}
    {ms : List Gloss} (hg : g.Unmarked) (hbase : p.restrict? g = some base) (hparts : 0 < p.arity)
    (hpieces : pieces ∈ segmentations a.union (a.key g.form) p.arity)
    (hms : p.morphemes? pieces = some ms) : (base.withMorphemes ms).Unmarked := by
  rw [segmentations_eq_cutsInto _ _ hparts] at hpieces
  have hjoin := (mem_cutsInto.1 hpieces).2.2
  have hform : base.form = g.form :=
    (List.cons.inj (CompiledPattern.forms_of_restrict? hbase)).1
  rw [Gloss.unmarked_iff, Gloss.forms_withMorphemes, CompiledPattern.map_form_of_morphemes? hms,
    hform]
  refine List.forall_mem_cons.2 ⟨hg.1, fun piece hpiece => ?_⟩
  refine (unmarked_key (a := a) hg.1).of_subset fun c hc => ?_
  rw [← hjoin]
  exact List.mem_flatMap.2 ⟨piece, hpiece, hc⟩

theorem unmarked_of_mem_decompose {p : CompiledPattern} {g r : Gloss} (hg : g.Unmarked)
    (hr : r ∈ a.decompose p g) : r.Unmarked := by
  unfold decompose at hr
  split at hr
  · exact unmarked_of_mem_parse hg hr
  next harity =>
    split at hr
    · simp at hr
    next base hbase =>
      obtain ⟨pieces, hpieces, hr⟩ := List.mem_flatMap.1 hr
      split at hr
      · simp at hr
      next ms hms =>
        obtain ⟨c, hc, rfl⟩ := List.mem_map.1 hr
        have hcut := unmarked_withMorphemes hg hbase (by omega) hpieces hms
        have hc := unmarked_of_mem_lookup hclean hcut (List.mem_filter.1 hc).1
        exact hc.of_formsWithin (Gloss.formsWithin_of_forms_eq (p.forms_marked c))

theorem unmarked_of_mem_act {action : Action} {p : CompiledPattern} {g r : Gloss}
    (hg : g.Unmarked) (hr : r ∈ a.act action p g) : r.Unmarked := by
  cases action with
  | parse => exact unmarked_of_mem_parse hg hr
  | decompose => exact unmarked_of_mem_decompose hclean hg hr

omit hclean in
theorem unmarked_headD {g : Gloss} (hg : g.Unmarked) {results : List Gloss}
    (h : ∀ r ∈ results, r.Unmarked) : (results.headD g).Unmarked := by
  cases results with
  | nil => exact hg
  | cons r results => exact h r List.mem_cons_self

theorem unmarked_of_mem_sequence {action : Action} {patterns : List CompiledPattern} {g : Gloss}
    (hg : g.Unmarked) : ∀ r ∈ a.sequence action g patterns, r.Unmarked := by
  rw [sequence]
  refine List.foldlRecOn (motive := fun results : List Gloss => ∀ r ∈ results, r.Unmarked) _ _
    (by simp) ?_
  intro results hresults p _ r hr
  rcases List.mem_append.1 hr with hr | hr
  · exact unmarked_of_mem_act hclean (unmarked_headD hg hresults) hr
  · exact hresults r hr

/-- No transform brings the end mark in. -/
theorem keeps_unmarked (t : Transform) : a.Keeps t Gloss.Unmarked := by
  intro g hg r hr
  cases t with
  | lookup => exact unmarked_of_mem_lookup hclean hg hr
  | parallel action patterns =>
      obtain ⟨p, -, hr⟩ := List.mem_flatMap.1 hr
      exact unmarked_of_mem_act hclean hg hr
  | sequential action patterns => exact unmarked_of_mem_sequence hclean hg r hr

end Clean

/-! ## Another union -/

/-- An analyzer that asks another union. -/
def withUnion (a : Analyzer) (v : Union) : Analyzer := { a with union := v }

section Agrees

variable {v : Union} (h : a.union.Agrees v)

include h

theorem entries_withUnion {g : Gloss} (hg : Index.Unmarked g.form) :
    (a.withUnion v).entries g = a.entries g := by
  rw [entries, entries, h.glosses (unmarked_key hg)]
  rfl

theorem readings_withUnion {m : Gloss} (hm : Index.Unmarked m.form) :
    (a.withUnion v).readings m = a.readings m := by
  rw [readings, readings, entries_withUnion h hm]

theorem lookup_withUnion {g : Gloss} (hg : g.Unmarked) : (a.withUnion v).lookup g = a.lookup g := by
  have hreadings : g.morphemes.map (a.withUnion v).readings = g.morphemes.map a.readings :=
    List.map_congr_left fun m hm => readings_withUnion h (hg.2 m hm)
  rw [lookup, lookup, entries_withUnion h hg.1, hreadings]

theorem decompose_withUnion {p : CompiledPattern} {g : Gloss} (hg : g.Unmarked) :
    (a.withUnion v).decompose p g = a.decompose p g := by
  unfold decompose
  split
  · rfl
  next harity =>
    cases hbase : p.restrict? g with
    | none => rfl
    | some base =>
        have hsame : segmentations a.union (a.key g.form) p.arity
            = segmentations v (a.key g.form) p.arity :=
          h.segmentations (unmarked_key hg.1) p.arity
        show (segmentations v (a.key g.form) p.arity).flatMap _
          = (segmentations a.union (a.key g.form) p.arity).flatMap _
        rw [← hsame]
        refine List.flatMap_congr fun pieces hpieces => ?_
        cases hms : p.morphemes? pieces with
        | none => rfl
        | some ms =>
            have hcut := unmarked_withMorphemes hg hbase (by omega) hpieces hms
            show (((a.withUnion v).lookup (base.withMorphemes ms)).filter _).map _ = _
            rw [lookup_withUnion h hcut]

theorem act_withUnion {action : Action} {p : CompiledPattern} {g : Gloss} (hg : g.Unmarked) :
    (a.withUnion v).act action p g = a.act action p g := by
  cases action with
  | parse => rfl
  | decompose => exact decompose_withUnion h hg

variable (hclean : a.union.Clean)

include hclean

theorem sequence_withUnion {action : Action} {patterns : List CompiledPattern} {g : Gloss}
    (hg : g.Unmarked) :
    (a.withUnion v).sequence action g patterns = a.sequence action g patterns := by
  have hfoldl : ∀ rs : List Gloss, (∀ r ∈ rs, r.Unmarked) →
      patterns.foldl (fun rs p => (a.withUnion v).act action p (rs.headD g) ++ rs) rs
        = patterns.foldl (fun rs p => a.act action p (rs.headD g) ++ rs) rs := by
    induction patterns with
    | nil => exact fun _ _ => rfl
    | cons p patterns ih =>
        intro results hresults
        have hhead := unmarked_headD hg hresults
        rw [List.foldl_cons, List.foldl_cons, act_withUnion h hhead]
        refine ih _ fun r hr => ?_
        rcases List.mem_append.1 hr with hr | hr
        · exact unmarked_of_mem_act hclean hhead hr
        · exact hresults r hr
  exact hfoldl [] (by simp)

theorem transform_withUnion {t : Transform} {g : Gloss} (hg : g.Unmarked) :
    (a.withUnion v).transform t g = a.transform t g := by
  cases t with
  | lookup => exact lookup_withUnion h hg
  | parallel action patterns => exact List.flatMap_congr fun p _ => act_withUnion h hg
  | sequential action patterns => exact sequence_withUnion h hclean hg

theorem applyTo_withUnion {t : Transform} {candidates : List Gloss}
    (hc : ∀ g ∈ candidates, g.Unmarked) :
    (a.withUnion v).applyTo t candidates = a.applyTo t candidates := by
  refine List.flatMap_congr fun g hg => ?_
  rw [transform_withUnion h hclean (hc g hg)]

theorem addTo_withUnion {t : Transform} {candidates : List Gloss}
    (hc : ∀ g ∈ candidates, g.Unmarked) :
    (a.withUnion v).addTo t candidates = a.addTo t candidates := by
  refine congrArg (candidates ++ ·) (List.flatMap_congr fun g hg => ?_)
  rw [transform_withUnion h hclean (hc g hg)]

/-- The stages of an analysis go the same way over a union that gives the same answers. -/
theorem runFrom_withUnion (stages : List Stage) {last : Int32} {candidates : List Gloss}
    (hc : ∀ g ∈ candidates, g.Unmarked) :
    (a.withUnion v).runFrom last candidates stages = a.runFrom last candidates stages := by
  induction stages generalizing last candidates with
  | nil => rfl
  | cons stage stages ih =>
      cases stage with
      | stop acceptance =>
          rw [runFrom, runFrom, ih hc]
      | apply id t =>
          rw [runFrom, runFrom, applyTo_withUnion h hclean hc, ih hc,
            ih ((keeps_unmarked hclean t).applyTo hc)]
      | add id t =>
          rw [runFrom, runFrom, addTo_withUnion h hclean hc, ih hc,
            ih ((keeps_unmarked hclean t).addTo hc)]

theorem analyze_withUnion {word : String} (hword : Index.Unmarked word) :
    (a.withUnion v).analyze word = a.analyze word := by
  refine runFrom_withUnion h hclean a.stages ?_
  rw [List.forall_mem_singleton]
  exact Gloss.unmarked_ofForm hword

end Agrees

end Analyzer

/-! ## Indistinguishable unions -/

/-- No search and no analysis of a text without the end mark tells two unions apart. -/
structure Union.Indistinguishable (u v : Union) : Prop where
  lookup : ∀ {key : String}, Index.Unmarked key → u.lookup key = v.lookup key
  contains : ∀ {key : String}, Index.Unmarked key → u.contains key = v.contains key
  prefixes : ∀ {form : String}, Index.Unmarked form → u.prefixes form = v.prefixes form
  segmentations : ∀ {form : String}, Index.Unmarked form → ∀ parts,
    segmentations u form parts = segmentations v form parts
  /-- Analyzers of the same plan, if there are any, find the same stage and candidates. -/
  analyze : ∀ (grammar : Option Grammar) (toneless : Bool) {word : String}, Index.Unmarked word →
    (Analyzer.ofPlan u (.ofGrammar grammar) toneless).map (·.analyze word)
      = (Analyzer.ofPlan v (.ofGrammar grammar) toneless).map (·.analyze word)

theorem Union.Agrees.indistinguishable {u v : Union} (h : u.Agrees v) (hclean : u.Clean) :
    u.Indistinguishable v where
  lookup := h.lookup
  contains := h.contains
  prefixes := h.prefixes
  segmentations := h.segmentations
  analyze grammar toneless word hword := by
    rw [Analyzer.ofPlan, Analyzer.ofPlan]
    cases (Plan.ofGrammar grammar).stages with
    | error e => rfl
    | ok stages =>
        have hsame := Analyzer.analyze_withUnion (a := ⟨u, stages, toneless⟩) h hclean hword
        exact congrArg Except.ok hsame.symm

end Interlinear
