import Interlinear.Proofs.Analysis.Composition
import Interlinear.Proofs.FirstOccurrences
import Interlinear.Proofs.Grammar.Compilation

set_option autoImplicit false

/-! # Patterns that cannot be used

A pattern with a form that is no regular expression makes nothing of any candidate, so every
transform is the same without it (`Analyzer.transform_withoutUnusable`). A grammar can therefore be
rid of such patterns: as long as their sections stay, the same plans are made ready, and every word
is analyzed alike (`Analyzer.analyze_withoutUnusable`).

All that is heard of these patterns are warnings, when a plan is made ready. A section is looked at
when a step first names it, so each of its patterns is reported once
(`Plan.compileFrom_of_writes`). -/

namespace Interlinear

/-! ## Grammars without unusable patterns -/

namespace Pattern

/-- Why a pattern cannot be used, if it cannot. -/
def fault? (p : Pattern) : Option PatternFault :=
  match Matcher.ofTemplate p.select with
  | .ok _ => none
  | .error fault => some fault

/-- Whether all forms of a pattern are regular expressions. -/
def isUsable (p : Pattern) : Bool := p.fault?.isNone

end Pattern

/-- The sections with those of their patterns that pass a test. -/
def Sections.filterPatterns (s : Sections) (q : Pattern → Bool) : Sections where
  toList := s.toList.map fun (name, patterns) => (name, patterns.filter q)
  ascending := by
    rw [List.map_map]
    exact s.ascending

theorem Sections.get?_filterPatterns (s : Sections) (q : Pattern → Bool) (name : String) :
    (s.filterPatterns q).get? name = (s.get? name).map (·.filter q) := by
  rw [get?, get?, filterPatterns, List.find?_map, Option.map_map, Option.map_map]
  rfl

/-- The grammar with the patterns that can be used, in the same sections. -/
def Grammar.withoutUnusable (g : Grammar) : Grammar :=
  { g with sections := g.sections.filterPatterns Pattern.isUsable }

/-- Whether a pattern that was made ready can be used. -/
def CompiledPattern.isUsable (p : CompiledPattern) : Bool := p.matcher?.isSome

theorem CompiledPattern.isUsable_ofPattern (p : Pattern) :
    (ofPattern p).isUsable = p.isUsable := by
  rw [isUsable, matcher?, ofPattern, Pattern.isUsable, Pattern.fault?]
  cases Matcher.ofTemplate p.select with
  | ok m => rfl
  | error fault => rfl

theorem CompiledPattern.warning?_ofPattern (name : String) (p : Pattern) :
    (ofPattern p).warning? name = p.fault?.map (.unusablePattern name p.select ·) := by
  rw [warning?, ofPattern, Pattern.fault?]
  cases Matcher.ofTemplate p.select with
  | ok m => rfl
  | error fault => rfl

namespace Transform

/-- A transform with the patterns that can be used. -/
def withoutUnusable : Transform → Transform
  | lookup => lookup
  | parallel action patterns => parallel action (patterns.filter (·.isUsable))
  | sequential action patterns => sequential action (patterns.filter (·.isUsable))

end Transform

/-- A stage with the patterns that can be used. -/
def Stage.withoutUnusable : Stage → Stage
  | stop acceptance => stop acceptance
  | apply id t => apply id t.withoutUnusable
  | add id t => add id t.withoutUnusable

/-! ## The stages of the two grammars -/

theorem filter_isUsable_map_ofPattern (patterns : List Pattern) :
    (patterns.map CompiledPattern.ofPattern).filter (·.isUsable)
      = (patterns.filter Pattern.isUsable).map .ofPattern := by
  rw [List.filter_map]
  refine congrArg _ (List.filter_congr fun p _ => ?_)
  exact CompiledPattern.isUsable_ofPattern p

section

variable {sections : Sections}

theorem Transform.AskedBy.withoutUnusable {operands : List String} {t : Transform}
    (h : t.AskedBy sections operands) :
    t.withoutUnusable.AskedBy (sections.filterPatterns Pattern.isUsable) operands := by
  cases t with
  | lookup => exact h
  | parallel action compiled | sequential action compiled =>
      obtain ⟨name, patterns, hoperands, hpatterns, rfl⟩ := h
      refine ⟨name, patterns.filter Pattern.isUsable, hoperands, ?_,
        filter_isUsable_map_ofPattern patterns⟩
      rw [Sections.get?_filterPatterns, hpatterns]
      rfl

theorem Step.Writes.withoutUnusable {s : Step} {st : Stage} (h : s.Writes sections st) :
    s.Writes (sections.filterPatterns Pattern.isUsable) st.withoutUnusable := by
  cases st with
  | stop acceptance => exact h
  | apply id t | add id t =>
      obtain ⟨operands, hs, ht⟩ := h
      exact ⟨operands, hs, ht.withoutUnusable⟩

theorem Step.Supported.of_withoutUnusable {s : Step}
    (h : s.Supported (sections.filterPatterns Pattern.isUsable)) : s.Supported sections := by
  cases h with
  | stop h => exact .stop h
  | lookup h => exact .lookup h
  | patterns hchange hcombination haction hsection =>
      rw [Sections.get?_filterPatterns, Option.map_eq_some_iff] at hsection
      obtain ⟨patterns, hpatterns, -⟩ := hsection
      exact .patterns hchange hcombination haction hpatterns

/-! ## The sections that a plan uses -/

/-- The section that a step names, if it names one. -/
def Step.sectionName? (s : Step) : Option String :=
  match s.kind, s.operands with
  | .stage _, [_, _, _, name] => some name
  | _, _ => none

namespace Plan

variable {used : UsedSections}

/-- The sections that were used, in order, are those that some names were first given to. -/
def UsedFor (used : UsedSections) (names : List String) : Prop :=
  used.map (·.1) = names.eraseDups

theorem usedFor_nil : UsedFor [] [] := rfl

/-- A section is made ready when it is first named. -/
theorem useSection_of_usedFor (hused : Faithful sections used) {names : List String}
    (hnames : UsedFor used names) {name : String} {patterns : List Pattern}
    (hpatterns : sections.get? name = some patterns) :
    ∃ used', useSection sections used name = (.ok (patterns.map .ofPattern), used') ∧
      Faithful sections used' ∧ UsedFor used' (names ++ [name]) := by
  obtain ⟨used', huse, hused'⟩ := useSection_of_get?_eq_some hused hpatterns
  refine ⟨used', huse, hused', ?_⟩
  have hmem : name ∈ used.map (·.1) ↔ name ∈ names := by rw [hnames, List.mem_eraseDups]
  rw [useSection, hpatterns] at huse
  cases hfind : used.find? (·.1 == name) with
  | some kept =>
      rw [hfind] at huse
      obtain rfl := (Prod.mk.inj huse).2
      have hkept : kept.1 = name := by simpa using List.find?_some hfind
      have hname : name ∈ used.map (·.1) :=
        List.mem_map.2 ⟨kept, List.mem_of_find?_eq_some hfind, hkept⟩
      rw [UsedFor, eraseDups_append_singleton_of_mem (hmem.1 hname)]
      exact hnames
  | none =>
      rw [hfind] at huse
      obtain rfl := (Prod.mk.inj huse).2
      have hname : name ∉ used.map (·.1) := by
        intro hname
        obtain ⟨kept, hkept, heq⟩ := List.mem_map.1 hname
        exact List.find?_eq_none.1 hfind kept hkept (by simpa using heq)
      rw [UsedFor, eraseDups_append_singleton_of_not_mem (mt hmem.2 hname), ← hnames,
        List.map_append]
      rfl

theorem transform_of_askedBy (hused : Faithful sections used) {names : List String}
    (hnames : UsedFor used names) {s : Step} {id : Int32} {change : String}
    {operands : List String} (hs : s = ⟨.stage id, change :: operands⟩) {t : Transform}
    (ht : t.AskedBy sections operands) :
    ∃ used', transform sections used s operands = (.ok t, used') ∧ Faithful sections used' ∧
      UsedFor used' (names ++ s.sectionName?.toList) := by
  subst hs
  cases t with
  | lookup =>
      obtain rfl : operands = ["lookup"] := ht
      refine ⟨used, rfl, hused, ?_⟩
      rw [show Step.sectionName? ⟨.stage id, [change, "lookup"]⟩ = none from rfl]
      simpa using hnames
  | parallel action compiled | sequential action compiled =>
      obtain ⟨name, patterns, rfl, hpatterns, rfl⟩ := ht
      obtain ⟨used', huse, hused'⟩ := useSection_of_usedFor hused hnames hpatterns
      refine ⟨used', ?_, hused'⟩
      cases action <;> simp [transform, action?, Action.name, huse]

/-- A step becomes the stage that it writes, and the section that it names is used. -/
theorem stage_of_writes (hused : Faithful sections used) {names : List String}
    (hnames : UsedFor used names) {s : Step} {st : Stage} (h : s.Writes sections st) :
    ∃ used', stage sections used s = (.ok st, used') ∧ Faithful sections used' ∧
      UsedFor used' (names ++ s.sectionName?.toList) := by
  cases st with
  | stop acceptance =>
      obtain rfl : s = ⟨.stop, [acceptance.name]⟩ := h
      refine ⟨used, ?_, hused, by simpa [Step.sectionName?] using hnames⟩
      cases acceptance <;> rfl
  | apply id t | add id t =>
      obtain ⟨operands, hs, ht⟩ := h
      obtain ⟨used', htransform, hused'⟩ := transform_of_askedBy hused hnames hs ht
      refine ⟨used', ?_, hused'⟩
      subst hs
      simp [stage, htransform, Except.map]

/-- **What a plan uses.** Steps that write stages become these stages, and the sections that they
name are used in the order in which they are named first. -/
theorem compileFrom_of_writes (hused : Faithful sections used) {names : List String}
    (hnames : UsedFor used names) {steps : List Step} {stages : List Stage}
    (h : List.Forall₂ (Step.Writes sections) steps stages) :
    (compileFrom sections used steps).stages = .ok stages ∧
      Faithful sections (compileFrom sections used steps).used ∧
      UsedFor (compileFrom sections used steps).used
        (names ++ steps.filterMap Step.sectionName?) := by
  induction h generalizing used names with
  | nil =>
      refine ⟨rfl, hused, ?_⟩
      rw [List.filterMap_nil, List.append_nil]
      exact hnames
  | @cons s st steps stages hs _ ih =>
      obtain ⟨used', hstage, hused', hnames'⟩ := stage_of_writes hused hnames hs
      obtain ⟨hstages, hrest⟩ := ih hused' hnames'
      have hconcat : (s :: steps).filterMap Step.sectionName?
          = s.sectionName?.toList ++ steps.filterMap Step.sectionName? := by
        rw [List.filterMap_cons]
        cases s.sectionName? <;> rfl
      rw [compileFrom, hstage, hconcat, ← List.append_assoc]
      refine ⟨?_, hrest⟩
      show (compileFrom sections used' steps).stages.map (st :: ·) = _
      rw [hstages]
      rfl

end Plan

end

namespace Plan

/-- The steps of a grammar without unusable patterns become the same stages without them. -/
theorem compile_withoutUnusable {g : Grammar} {stages : List Stage}
    (h : (compile g).stages = .ok stages) :
    (compile g.withoutUnusable).stages = .ok (stages.map Stage.withoutUnusable) := by
  have hwrites := (writes_of_compile_eq_ok h).imp fun _ _ => Step.Writes.withoutUnusable
  exact (compileFrom_of_writes faithful_nil usedFor_nil (List.forall₂_map_right_iff.2 hwrites)).1

theorem exists_compile_withoutUnusable_iff {g : Grammar} :
    (∃ stages, (compile g.withoutUnusable).stages = .ok stages) ↔
      ∃ stages, (compile g).stages = .ok stages := by
  constructor
  · intro h
    rw [exists_compile_eq_ok_iff] at h ⊢
    exact fun s hs => (h s hs).of_withoutUnusable
  · rintro ⟨stages, h⟩
    exact ⟨_, compile_withoutUnusable h⟩

/-- Each pattern that cannot be used gives a warning in each section that is used, once. -/
theorem warnings_compile {g : Grammar} {stages : List Stage}
    (h : (compile g).stages = .ok stages) :
    (compile g).warnings = (g.token.filterMap Step.sectionName?).eraseDups.flatMap fun name =>
      ((g.sections.get? name).getD []).filterMap fun p =>
        p.fault?.map (.unusablePattern name p.select ·) := by
  obtain ⟨-, hfaithful, hnames⟩ :=
    compileFrom_of_writes faithful_nil usedFor_nil (writes_of_compile_eq_ok h)
  rw [List.nil_append] at hnames
  rw [warnings, ← hnames, List.flatMap_map]
  refine List.flatMap_congr fun kept hkept => ?_
  obtain ⟨patterns, hpatterns, hmade⟩ := hfaithful kept hkept
  show kept.2.filterMap (·.warning? kept.1) = _
  rw [hmade, hpatterns, Option.getD_some, List.filterMap_map]
  refine List.filterMap_congr fun p _ => ?_
  exact CompiledPattern.warning?_ofPattern kept.1 p

end Plan

/-! ## Analyses -/

namespace Analyzer

variable (a : Analyzer)

/-- Nothing is made of a candidate with a pattern that cannot be used. -/
theorem act_of_not_usable {p : CompiledPattern} (h : p.isUsable = false) (action : Action)
    (g : Gloss) : a.act action p g = [] := by
  have hmatcher : p.matcher? = none := by simpa [CompiledPattern.isUsable] using h
  have hparse : parse p g = [] := by
    rw [parse, CompiledPattern.result?, hmatcher]
    rfl
  cases action with
  | parse => exact hparse
  | decompose =>
      rw [act, decompose]
      split
      · exact hparse
      · rw [CompiledPattern.restrict?, hmatcher]
        rfl

/-- A transform is the same without the patterns that cannot be used. -/
theorem transform_withoutUnusable (t : Transform) (g : Gloss) :
    a.transform t.withoutUnusable g = a.transform t g := by
  cases t with
  | lookup => rfl
  | parallel action patterns =>
      show (patterns.filter (·.isUsable)).flatMap (a.act action · g) = patterns.flatMap _
      rw [List.flatMap_filter]
      refine List.flatMap_congr fun p _ => ?_
      split
      next => rfl
      next h => exact (a.act_of_not_usable (by simpa using h) action g).symm
  | sequential action patterns =>
      -- What an unusable pattern puts before the results is nothing.
      show a.sequence action g (patterns.filter (·.isUsable)) = a.sequence action g patterns
      rw [sequence, sequence, List.foldl_filter]
      congr 1
      funext results p
      split
      next => rfl
      next h => rw [a.act_of_not_usable (by simpa using h), List.nil_append]

theorem runFrom_withoutUnusable (last : Int32) (candidates : List Gloss) (stages : List Stage) :
    a.runFrom last candidates (stages.map Stage.withoutUnusable)
      = a.runFrom last candidates stages := by
  have happly : ∀ t candidates,
      a.applyTo t.withoutUnusable candidates = a.applyTo t candidates := by
    intro t candidates
    simp only [applyTo, transform_withoutUnusable]
  have hadd : ∀ t candidates, a.addTo t.withoutUnusable candidates = a.addTo t candidates := by
    intro t candidates
    rw [addTo, addTo, funext (a.transform_withoutUnusable t)]
  induction stages generalizing last candidates with
  | nil => rfl
  | cons st stages ih =>
      cases st with
      | stop acceptance =>
          simp only [List.map_cons, Stage.withoutUnusable, runFrom, ih]
      | apply id t =>
          simp only [List.map_cons, Stage.withoutUnusable, runFrom, happly, ih]
      | add id t =>
          simp only [List.map_cons, Stage.withoutUnusable, runFrom, hadd, ih]

/-- What stages come to does not depend on the plan that they are taken from. -/
theorem runFrom_of_stages (u : Union) (toneless : Bool) (plan plan' : List Stage) (last : Int32)
    (candidates : List Gloss) (stages : List Stage) :
    (⟨u, plan, toneless⟩ : Analyzer).runFrom last candidates stages
      = (⟨u, plan', toneless⟩ : Analyzer).runFrom last candidates stages := by
  induction stages generalizing last candidates with
  | nil => rfl
  | cons st stages ih =>
      cases st with
      | stop acceptance =>
          rw [runFrom, runFrom, ih]
      | apply id t =>
          rw [runFrom, runFrom, ih, ih]
          rfl
      | add id t =>
          rw [runFrom, runFrom, ih, ih]
          rfl

theorem analyze_withoutUnusable (word : String) :
    (⟨a.union, a.stages.map Stage.withoutUnusable, a.toneless⟩ : Analyzer).analyze word
      = a.analyze word := by
  rw [analyze, analyze, runFrom_of_stages _ _ _ a.stages]
  exact a.runFrom_withoutUnusable _ _ _

/-- **Unusable patterns.** An analyzer is made with a grammar just if one is made with the grammar
rid of all patterns that cannot be used, and both analyze every word alike. When the analyzer is
made, each of these patterns in the sections that steps name is reported once: section by section
in the order in which they are named first, and in the order in which the patterns stand there. -/
theorem analyze_alike_without_unusable (u : Union) (g : Grammar) (toneless : Bool) :
    ((∃ a, ofPlan u (Plan.ofGrammar (some g)) toneless = .ok a) ↔
      ∃ a, ofPlan u (Plan.ofGrammar (some g.withoutUnusable)) toneless = .ok a) ∧
    (∀ a a', ofPlan u (Plan.ofGrammar (some g)) toneless = .ok a →
      ofPlan u (Plan.ofGrammar (some g.withoutUnusable)) toneless = .ok a' →
      ∀ word, a'.analyze word = a.analyze word) ∧
    ∀ a, ofPlan u (Plan.ofGrammar (some g)) toneless = .ok a →
      ∃ names, FirstOccurrences (g.token.filterMap Step.sectionName?) names ∧
        (Plan.ofGrammar (some g)).warnings = names.flatMap fun name =>
          ((g.sections.get? name).getD []).filterMap fun p =>
            p.fault?.map (.unusablePattern name p.select ·) := by
  have hmade : ∀ g : Grammar, (∃ a, ofPlan u (Plan.ofGrammar (some g)) toneless = .ok a) ↔
      ∃ stages, (Plan.compile g).stages = .ok stages := by
    intro g
    simp only [ofPlan_eq_ok_iff]
    exact ⟨fun ⟨_, stages, h, _⟩ => ⟨stages, h⟩, fun ⟨stages, h⟩ => ⟨_, stages, h, rfl⟩⟩
  refine ⟨?_, ?_, ?_⟩
  · rw [hmade, hmade, Plan.exists_compile_withoutUnusable_iff]
  · intro a a' ha ha' word
    obtain ⟨stages, hstages, rfl⟩ := ofPlan_eq_ok_iff.1 ha
    obtain ⟨stages', hstages', rfl⟩ := ofPlan_eq_ok_iff.1 ha'
    have hsame := (Plan.compile_withoutUnusable hstages).symm.trans hstages'
    rw [← Except.ok.inj hsame]
    exact analyze_withoutUnusable ⟨u, stages, toneless⟩ word
  · intro a ha
    obtain ⟨stages, hstages, rfl⟩ := ofPlan_eq_ok_iff.1 ha
    exact ⟨_, firstOccurrences_eraseDups _, Plan.warnings_compile hstages⟩

/-- Two steps name the section, and the pattern is reported once. -/
example :
    let affixes : List Pattern := [⟨.ofForm "(w", .empty⟩, ⟨.ofForm ".+w", .empty⟩]
    let steps : List Step := [⟨.stage 0, ["add", "parallel", "parse", "affixes"]⟩,
      ⟨.stage 1, ["apply", "sequential", "decompose", "affixes"]⟩]
    (Plan.compile ⟨steps, [], .ofList [("affixes", affixes)]⟩).warnings.map Warning.message
      = ["MalformedPatternTemplateError: affixes: (w::: regex parse error:"] := by
  decide +kernel

end Analyzer

end Interlinear
