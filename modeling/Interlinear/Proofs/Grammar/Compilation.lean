import Interlinear.Analysis.Analyzer
import Interlinear.Proofs.Except
import Mathlib.Data.List.Forall2

set_option autoImplicit false

/-! # Which plans can be carried out

A token plan is made ready step by step, and the patterns of a section are kept from the first step
that names it for the later ones. What comes of a plan can be told without going through it: a step
is supported or not by its own operands and the sections of the grammar (`Step.Supported`), a plan
is made ready just if all its steps are supported, and then it consists of the stages that the steps
write, one each (`Step.Writes`).

The invariant is that what is kept of a section are its patterns made ready (`Plan.Faithful`). Every
step keeps it (`Plan.stage_faithful`), so what is kept makes no difference for any step, and all
steps together come to what each of them comes to by itself (`Plan.compileFrom_faithful`). -/

namespace Interlinear

/-! ## Names -/

/-- The name of an action in the operands of a step. -/
def Action.name : Action → String
  | parse => "parse"
  | decompose => "decompose"

/-- The name of what a stop accepts. -/
def Acceptance.name : Acceptance → String
  | resolved => "parsed"
  | unknown => "unknown"

theorem Plan.action?_eq_some_iff {name : String} {action : Action} :
    action? name = some action ↔ name = action.name := by
  constructor
  · intro h
    unfold action? at h
    split at h
    · obtain rfl := Option.some.inj h
      rfl
    · obtain rfl := Option.some.inj h
      rfl
    · cases h
  · rintro rfl
    cases action
    · rfl
    · rfl

section Sections

variable (sections : Sections)

/-! ## Steps and stages -/

/-- The shapes of the steps that a grammar with some sections can have in its token plan. -/
inductive Step.Supported : Step → Prop where
  | stop {operand : String} (h : operand = "parsed" ∨ operand = "unknown") :
      Supported ⟨.stop, [operand]⟩
  | lookup {id : Int32} {change : String} (h : change = "apply" ∨ change = "add") :
      Supported ⟨.stage id, [change, "lookup"]⟩
  | patterns {id : Int32} {change combination action name : String} {patterns : List Pattern}
      (hchange : change = "apply" ∨ change = "add")
      (hcombination : combination = "parallel" ∨ combination = "sequential")
      (haction : action = "parse" ∨ action = "decompose")
      (hsection : sections.get? name = some patterns) :
      Supported ⟨.stage id, [change, combination, action, name]⟩

/-- The operands, after the first one, that ask for what is to be made of each candidate. The
patterns are those of a section, made ready one by one. -/
def Transform.AskedBy (operands : List String) : Transform → Prop
  | .lookup => operands = ["lookup"]
  | .parallel action compiled => ∃ name patterns, operands = ["parallel", action.name, name] ∧
      sections.get? name = some patterns ∧ compiled = patterns.map .ofPattern
  | .sequential action compiled => ∃ name patterns,
      operands = ["sequential", action.name, name] ∧
      sections.get? name = some patterns ∧ compiled = patterns.map .ofPattern

/-- The stage that a step writes. -/
def Step.Writes (s : Step) : Stage → Prop
  | .stop acceptance => s = ⟨.stop, [acceptance.name]⟩
  | .apply id t => ∃ operands, s = ⟨.stage id, "apply" :: operands⟩ ∧ t.AskedBy sections operands
  | .add id t => ∃ operands, s = ⟨.stage id, "add" :: operands⟩ ∧ t.AskedBy sections operands

/-- An error that refuses a step: it is of no known shape, or it names a section that there is
not. -/
def Step.RefusedWith (s : Step) (e : Error) : Prop :=
  e = .unsupportedStep s ∨
    ∃ name ∈ s.operands, sections.get? name = none ∧ e = .unknownSection name

variable {sections}

/-- A step that is refused is a fault of the plan. -/
theorem Step.RefusedWith.category_eq {s : Step} {e : Error} (h : s.RefusedWith sections e) :
    e.category = .plan := by
  rcases h with rfl | ⟨name, -, -, rfl⟩
  · rfl
  · rfl

theorem Transform.AskedBy.length_eq {operands : List String} {t : Transform}
    (h : t.AskedBy sections operands) : operands = ["lookup"] ∨ operands.length = 3 := by
  cases t with
  | lookup => exact .inl h
  | parallel action compiled | sequential action compiled =>
      obtain ⟨name, patterns, rfl, -⟩ := h
      exact .inr rfl

/-- Where three operands ask for something, each of them is known. -/
theorem Transform.AskedBy.of_three {combination action name : String} {t : Transform}
    (h : t.AskedBy sections [combination, action, name]) :
    (combination = "parallel" ∨ combination = "sequential") ∧ (∃ a : Action, action = a.name) ∧
      ∃ patterns, sections.get? name = some patterns := by
  cases t with
  | lookup => cases h
  | parallel a compiled =>
      obtain ⟨name', patterns, heq, hpatterns, -⟩ := h
      simp only [List.cons.injEq, and_true] at heq
      obtain ⟨rfl, rfl, rfl⟩ := heq
      exact ⟨.inl rfl, ⟨a, rfl⟩, patterns, hpatterns⟩
  | sequential a compiled =>
      obtain ⟨name', patterns, heq, hpatterns, -⟩ := h
      simp only [List.cons.injEq, and_true] at heq
      obtain ⟨rfl, rfl, rfl⟩ := heq
      exact ⟨.inr rfl, ⟨a, rfl⟩, patterns, hpatterns⟩

/-- A stage that is no stop is written by the operands after the first. -/
theorem Step.Writes.exists_askedBy {id : Int32} {change : String} {operands : List String}
    {st : Stage} (h : Step.Writes sections ⟨.stage id, change :: operands⟩ st) :
    ∃ t : Transform, t.AskedBy sections operands := by
  cases st with
  | stop acceptance => cases h
  | apply id' t | add id' t =>
      obtain ⟨operands', heq, ht⟩ := h
      obtain ⟨-, rfl⟩ := List.cons.inj (Step.mk.inj heq).2
      exact ⟨t, ht⟩

theorem Step.supported_of_askedBy {id : Int32} {change : String} {operands : List String}
    (hchange : change = "apply" ∨ change = "add") {t : Transform} (h : t.AskedBy sections operands) :
    Step.Supported sections ⟨.stage id, change :: operands⟩ := by
  have haction : ∀ action : Action,
      action.name = "parse" ∨ action.name = "decompose" := by
    intro action
    cases action
    · exact .inl rfl
    · exact .inr rfl
  cases t with
  | lookup =>
      obtain rfl : operands = ["lookup"] := h
      exact .lookup hchange
  | parallel action compiled =>
      obtain ⟨name, patterns, rfl, hsection, -⟩ := h
      exact .patterns hchange (.inl rfl) (haction action) hsection
  | sequential action compiled =>
      obtain ⟨name, patterns, rfl, hsection, -⟩ := h
      exact .patterns hchange (.inr rfl) (haction action) hsection

/-- The supported steps are those that write a stage. -/
theorem Step.supported_iff_exists_writes {s : Step} :
    s.Supported sections ↔ ∃ st, s.Writes sections st := by
  constructor
  · -- A change puts whatever the operands after it ask for into a stage of its own kind.
    have hwrites : ∀ {id : Int32} {change : String} {operands : List String} {t : Transform},
        change = "apply" ∨ change = "add" → t.AskedBy sections operands →
        ∃ st, Step.Writes sections ⟨.stage id, change :: operands⟩ st := by
      rintro id change operands t (rfl | rfl) ht
      · exact ⟨.apply id t, operands, rfl, ht⟩
      · exact ⟨.add id t, operands, rfl, ht⟩
    intro h
    cases h with
    | stop h =>
        rcases h with rfl | rfl
        · exact ⟨.stop .resolved, rfl⟩
        · exact ⟨.stop .unknown, rfl⟩
    | lookup h => exact hwrites (t := .lookup) h rfl
    | @patterns id change combination action name patterns hchange hcombination haction hsection =>
        obtain ⟨a, rfl⟩ : ∃ a : Action, action = a.name := by
          rcases haction with rfl | rfl
          · exact ⟨.parse, rfl⟩
          · exact ⟨.decompose, rfl⟩
        rcases hcombination with rfl | rfl
        · exact hwrites (t := .parallel a _) hchange ⟨name, patterns, rfl, hsection, rfl⟩
        · exact hwrites (t := .sequential a _) hchange ⟨name, patterns, rfl, hsection, rfl⟩
  · rintro ⟨st, h⟩
    cases st with
    | stop acceptance =>
        obtain rfl : s = ⟨.stop, [acceptance.name]⟩ := h
        cases acceptance
        · exact .stop (.inl rfl)
        · exact .stop (.inr rfl)
    | apply id t =>
        obtain ⟨operands, rfl, ht⟩ := h
        exact supported_of_askedBy (.inl rfl) ht
    | add id t =>
        obtain ⟨operands, rfl, ht⟩ := h
        exact supported_of_askedBy (.inr rfl) ht

namespace Plan

/-! ## Sections that were used -/

/-- What is kept of a section are its patterns, made ready. -/
def Faithful (sections : Sections) (used : UsedSections) : Prop :=
  ∀ kept ∈ used, ∃ patterns, sections.get? kept.1 = some patterns ∧
    kept.2 = patterns.map .ofPattern

theorem faithful_nil : Faithful sections [] := fun _ h => absurd h List.not_mem_nil

variable {used : UsedSections}

/-- What is kept was made of a section of the grammar. -/
theorem Faithful.of_find? (h : Faithful sections used) {name : String}
    {kept : String × List CompiledPattern} (hfind : used.find? (·.1 == name) = some kept) :
    ∃ patterns, sections.get? name = some patterns ∧ kept.2 = patterns.map .ofPattern := by
  obtain ⟨patterns, hpatterns, hkept⟩ := h kept (List.mem_of_find?_eq_some hfind)
  have hname : kept.1 = name := by simpa using List.find?_some hfind
  rw [hname] at hpatterns
  exact ⟨patterns, hpatterns, hkept⟩

/-- A step that names a section gets its patterns, whether they were used before or not. -/
theorem useSection_of_get?_eq_some (h : Faithful sections used) {name : String}
    {patterns : List Pattern} (hpatterns : sections.get? name = some patterns) :
    ∃ used', useSection sections used name = (.ok (patterns.map .ofPattern), used') ∧
      Faithful sections used' := by
  unfold useSection
  cases hfind : used.find? (·.1 == name) with
  | some kept =>
      obtain ⟨patterns', hpatterns', hkept⟩ := h.of_find? hfind
      rw [hpatterns] at hpatterns'
      obtain rfl := Option.some.inj hpatterns'
      dsimp only
      exact ⟨used, by rw [hkept], h⟩
  | none =>
      rw [hpatterns]
      refine ⟨_, rfl, ?_⟩
      intro kept hkept
      rcases List.mem_append.1 hkept with hkept | hkept
      · exact h kept hkept
      · obtain rfl := List.mem_singleton.1 hkept
        exact ⟨patterns, hpatterns, rfl⟩

theorem useSection_of_get?_eq_none (h : Faithful sections used) {name : String}
    (hnone : sections.get? name = none) :
    useSection sections used name = (.error (.unknownSection name), used) := by
  have hfind : used.find? (·.1 == name) = none := by
    refine Option.eq_none_iff_forall_ne_some.2 fun kept hkept => ?_
    obtain ⟨patterns, hpatterns, -⟩ := h.of_find? hkept
    rw [hnone] at hpatterns
    cases hpatterns
  rw [useSection, hfind, hnone]

/-! ## One step -/

/-- What comes of making something ready: what it was to be, or an error that refuses the step where
nothing is right. What is kept of the sections stays faithful. -/
def Comes {α : Type} (sections : Sections) (s : Step) (right : α → Prop)
    (r : Except Error α × UsedSections) : Prop :=
  Faithful sections r.2 ∧
    match r.1 with
    | .ok x => right x
    | .error e => (∀ x, ¬ right x) ∧ s.RefusedWith sections e

theorem transform_faithful (h : Faithful sections used) {s : Step} {change : String}
    {operands : List String} (hs : s.operands = change :: operands) :
    Comes sections s (Transform.AskedBy sections operands) (transform sections used s operands) := by
  unfold transform
  split
  next => exact ⟨h, rfl⟩
  next combination actionName name =>
    cases haction : action? actionName with
    | none =>
        refine ⟨h, fun t ht => ?_, .inl rfl⟩
        obtain ⟨-, ⟨action, hname⟩, -⟩ := ht.of_three
        rw [action?_eq_some_iff.2 hname] at haction
        cases haction
    | some action =>
        obtain rfl := action?_eq_some_iff.1 haction
        dsimp only
        cases hsection : sections.get? name with
        | none =>
            rw [useSection_of_get?_eq_none h hsection]
            refine ⟨h, fun t ht => ?_, .inr ⟨name, by rw [hs]; simp, hsection, rfl⟩⟩
            obtain ⟨-, -, patterns, hpatterns⟩ := ht.of_three
            rw [hsection] at hpatterns
            cases hpatterns
        | some patterns =>
            obtain ⟨used', huse, hused'⟩ := useSection_of_get?_eq_some h hsection
            rw [huse]
            dsimp only
            split
            next hparallel => exact ⟨hused', name, patterns, by rw [hparallel], hsection, rfl⟩
            next hparallel =>
              split
              next hsequential =>
                exact ⟨hused', name, patterns, by rw [hsequential], hsection, rfl⟩
              next hsequential =>
                refine ⟨hused', fun t ht => ?_, .inl rfl⟩
                rcases ht.of_three.1 with hcombination | hcombination
                · exact hparallel hcombination
                · exact hsequential hcombination
  next hlookup hthree =>
    refine ⟨h, fun t ht => ?_, .inl rfl⟩
    rcases ht.length_eq with hoperands | hlength
    · exact hlookup hoperands
    · obtain ⟨combination, action, name, hoperands⟩ := List.length_eq_three.1 hlength
      exact hthree _ _ _ hoperands

/-- Making a stage of what was made of its operands. -/
theorem Comes.map {α β : Type} {s : Step} {right : α → Prop} {right' : β → Prop}
    {r : Except Error α × UsedSections} (h : Comes sections s right r) {f : α → β}
    (hf : ∀ x, right x → right' (f x)) (hright : ∀ y, right' y → ∃ x, right x) :
    Comes sections s right' (r.1.map f, r.2) := by
  obtain ⟨r, used'⟩ := r
  obtain ⟨hused, h⟩ := h
  refine ⟨hused, ?_⟩
  cases r with
  | ok x => exact hf x h
  | error e =>
      refine ⟨fun y hy => ?_, h.2⟩
      obtain ⟨x, hx⟩ := hright y hy
      exact h.1 x hx

/-- **What one step comes to.** Whatever sections were used before, a step becomes the stage that it
writes, or it is refused because it does not write any. -/
theorem stage_faithful (h : Faithful sections used) (s : Step) :
    Comes sections s (s.Writes sections) (stage sections used s) := by
  obtain ⟨kind, operands⟩ := s
  unfold stage
  split
  next hkind hoperands =>
    obtain rfl : kind = .stop := hkind
    obtain rfl : operands = ["parsed"] := hoperands
    exact ⟨h, rfl⟩
  next hkind hoperands =>
    obtain rfl : kind = .stop := hkind
    obtain rfl : operands = ["unknown"] := hoperands
    exact ⟨h, rfl⟩
  next id rest hkind hoperands =>
    obtain rfl : kind = .stage id := hkind
    obtain rfl : operands = "apply" :: rest := hoperands
    exact (transform_faithful h rfl).map (fun t ht => ⟨rest, rfl, ht⟩) fun _ hst => hst.exists_askedBy
  next id rest hkind hoperands =>
    obtain rfl : kind = .stage id := hkind
    obtain rfl : operands = "add" :: rest := hoperands
    exact (transform_faithful h rfl).map (fun t ht => ⟨rest, rfl, ht⟩) fun _ hst => hst.exists_askedBy
  next hparsed hunknown happly hadd =>
    refine ⟨h, ?_, .inl rfl⟩
    intro st hst
    cases st with
    | stop acceptance =>
        obtain ⟨rfl, rfl⟩ := Step.mk.inj hst
        cases acceptance
        · exact hparsed rfl rfl
        · exact hunknown rfl rfl
    | apply id t =>
        obtain ⟨operands, heq, -⟩ := hst
        obtain ⟨rfl, rfl⟩ := Step.mk.inj heq
        exact happly _ _ rfl rfl
    | add id t =>
        obtain ⟨operands, heq, -⟩ := hst
        obtain ⟨rfl, rfl⟩ := Step.mk.inj heq
        exact hadd _ _ rfl rfl

/-! ## All steps -/

/-- The first step of a plan that is not supported is refused with an error. -/
def FirstRefused (sections : Sections) (steps : List Step) (e : Error) : Prop :=
  ∃ before s after, steps = before ++ s :: after ∧ (∀ t ∈ before, t.Supported sections) ∧
    ¬ s.Supported sections ∧ s.RefusedWith sections e

theorem FirstRefused.cons {s : Step} {steps : List Step} {e : Error} (hs : s.Supported sections)
    (h : FirstRefused sections steps e) : FirstRefused sections (s :: steps) e := by
  obtain ⟨before, t, after, rfl, hbefore, ht⟩ := h
  exact ⟨s :: before, t, after, rfl, List.forall_mem_cons.2 ⟨hs, hbefore⟩, ht⟩

theorem FirstRefused.category_eq {steps : List Step} {e : Error}
    (h : FirstRefused sections steps e) : e.category = .plan := by
  obtain ⟨before, s, after, -, -, -, hs⟩ := h
  exact hs.category_eq

theorem FirstRefused.exists_not_supported {steps : List Step} {e : Error}
    (h : FirstRefused sections steps e) : ∃ s ∈ steps, ¬ s.Supported sections := by
  obtain ⟨before, s, after, rfl, -, hs, -⟩ := h
  exact ⟨s, by simp, hs⟩

/-- **What a plan comes to.** All its steps become the stages that they write, or the first one that
is not supported is refused. -/
theorem compileFrom_faithful (h : Faithful sections used) (steps : List Step) :
    match (compileFrom sections used steps).stages with
    | .ok stages => List.Forall₂ (Step.Writes sections) steps stages
    | .error e => FirstRefused sections steps e := by
  induction steps generalizing used with
  | nil => exact .nil
  | cons s steps ih =>
      rw [compileFrom]
      have hs := stage_faithful h s
      cases hst : stage sections used s with
      | mk r used' =>
          rw [hst] at hs
          obtain ⟨hused', hs⟩ := hs
          cases r with
          | error e =>
              obtain ⟨hnone, hrefused⟩ := hs
              refine ⟨[], s, steps, rfl, by simp, ?_, hrefused⟩
              rw [Step.supported_iff_exists_writes]
              rintro ⟨st, hwrites⟩
              exact hnone st hwrites
          | ok st =>
              have hsupported : s.Supported sections :=
                Step.supported_iff_exists_writes.2 ⟨st, hs⟩
              have hrest := ih hused'
              dsimp only
              cases hstages : (compileFrom sections used' steps).stages with
              | error e =>
                  rw [hstages] at hrest
                  exact FirstRefused.cons hsupported hrest
              | ok stages =>
                  rw [hstages] at hrest
                  exact .cons hs hrest

/-- Steps that write stages are all supported. -/
theorem supported_of_writes {steps : List Step} {stages : List Stage}
    (h : List.Forall₂ (Step.Writes sections) steps stages) : ∀ s ∈ steps, s.Supported sections := by
  induction h with
  | nil => simp
  | @cons s st steps stages hs _ ih =>
      exact List.forall_mem_cons.2 ⟨Step.supported_iff_exists_writes.2 ⟨st, hs⟩, ih⟩

theorem writes_of_compile_eq_ok {g : Grammar} {stages : List Stage}
    (h : (compile g).stages = .ok stages) :
    List.Forall₂ (Step.Writes g.sections) g.token stages := by
  have hall := compileFrom_faithful (@faithful_nil g.sections) g.token
  rw [← compile, h] at hall
  exact hall

theorem firstRefused_of_compile_eq_error {g : Grammar} {e : Error}
    (h : (compile g).stages = .error e) : FirstRefused g.sections g.token e := by
  have hall := compileFrom_faithful (@faithful_nil g.sections) g.token
  rw [← compile, h] at hall
  exact hall

/-- A plan is made ready just if all its steps are supported. -/
theorem exists_compile_eq_ok_iff {g : Grammar} :
    (∃ stages, (compile g).stages = .ok stages) ↔ ∀ s ∈ g.token, s.Supported g.sections := by
  constructor
  · rintro ⟨stages, h⟩
    exact supported_of_writes (writes_of_compile_eq_ok h)
  · intro h
    cases hstages : (compile g).stages with
    | ok stages => exact ⟨stages, rfl⟩
    | error e =>
        obtain ⟨s, hs, hnot⟩ := (firstRefused_of_compile_eq_error hstages).exists_not_supported
        exact absurd (h s hs) hnot

end Plan

end Sections

namespace Analyzer

variable {u : Union} {p : Plan} {toneless : Bool}

theorem ofPlan_eq_ok_iff {a : Analyzer} :
    ofPlan u p toneless = .ok a ↔ ∃ stages, p.stages = .ok stages ∧ a = ⟨u, stages, toneless⟩ := by
  rw [ofPlan, Except.map_eq_ok_iff]
  constructor
  · rintro ⟨stages, hstages, rfl⟩
    exact ⟨stages, hstages, rfl⟩
  · rintro ⟨stages, hstages, rfl⟩
    exact ⟨stages, hstages, rfl⟩

theorem ofPlan_eq_error_iff {e : Error} : ofPlan u p toneless = .error e ↔ p.stages = .error e := by
  rw [ofPlan]
  cases p.stages with
  | ok stages =>
      constructor
      · intro h
        cases h
      · intro h
        cases h
  | error e' =>
      constructor
      · intro h
        rw [Except.error.inj h]
      · intro h
        rw [Except.error.inj h]
        rfl

/-- **Which grammars an analyzer can be made with.** An analyzer is made just if all steps of the
token plan are supported, and then its stages are those that the steps write, one each and in order.
Otherwise the first step that is not supported is refused, as a fault of the plan. The sentence plan
makes no difference. -/
theorem ofPlan_ofGrammar (u : Union) (g : Grammar) (toneless : Bool) :
    ((∃ a, ofPlan u (Plan.ofGrammar (some g)) toneless = .ok a) ↔
      ∀ s ∈ g.token, s.Supported g.sections) ∧
    (∀ a, ofPlan u (Plan.ofGrammar (some g)) toneless = .ok a →
      a.union = u ∧ a.toneless = toneless ∧
      List.Forall₂ (Step.Writes g.sections) g.token a.stages) ∧
    (∀ e, ofPlan u (Plan.ofGrammar (some g)) toneless = .error e →
      e.category = .plan ∧ Plan.FirstRefused g.sections g.token e) ∧
    ∀ sentence, ofPlan u (Plan.ofGrammar (some { g with sentence := sentence })) toneless
      = ofPlan u (Plan.ofGrammar (some g)) toneless := by
  have hplan : Plan.ofGrammar (some g) = Plan.compile g := rfl
  refine ⟨?_, ?_, ?_, fun sentence => rfl⟩
  · rw [hplan, ← Plan.exists_compile_eq_ok_iff]
    constructor
    · rintro ⟨a, ha⟩
      obtain ⟨stages, hstages, -⟩ := ofPlan_eq_ok_iff.1 ha
      exact ⟨stages, hstages⟩
    · rintro ⟨stages, hstages⟩
      exact ⟨_, ofPlan_eq_ok_iff.2 ⟨stages, hstages, rfl⟩⟩
  · intro a ha
    obtain ⟨stages, hstages, rfl⟩ := ofPlan_eq_ok_iff.1 ha
    exact ⟨rfl, rfl, Plan.writes_of_compile_eq_ok hstages⟩
  · intro e he
    have hrefused := Plan.firstRefused_of_compile_eq_error (ofPlan_eq_error_iff.1 he)
    exact ⟨hrefused.category_eq, hrefused⟩

end Analyzer

end Interlinear
