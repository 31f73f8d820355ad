import Interlinear.Analysis.Analyzer
import Interlinear.Dictionary.Builder
import Interlinear.Proofs.Gloss.Resolution
import Interlinear.Proofs.Grammar.Compilation

set_option autoImplicit false

/-! # What an analysis comes to

An analysis carries out stages until one of them ends it. Its answer can be told from the lists of
candidates that there are before each of the stages (`Analyzer.candidatesAt`), which are those of a
run that never ends: an analysis ends at the first stop that accepts a candidate, with the
candidates that it accepts, or it does not end before the plan does (`Analyzer.outcome_analyze`).

The number that an analysis reports is kept along the way. The invariant is that it is the number of
the last stage that changed the candidates, or that it is -1 and they are what they were at first
(`Analyzer.Tells`). At first there is one candidate, which is not resolved. So if all stops of a
plan wait for resolved candidates, -1 is never reported at a stop, and the sign of the number tells
whether there was an end (`Analyzer.analyze_of_parsed_stops`). -/

namespace Interlinear

/-! ## The stages of a plan -/

/-- The kind of the steps that a stage is made of. -/
def Stage.kind : Stage → StepKind
  | .stop _ => .stop
  | .apply id _ => .stage id
  | .add id _ => .stage id

/-- A stage that is made of a step is of its kind, and if it is a stop, it accepts what the step
names. -/
structure Step.MadeInto (s : Step) (st : Stage) : Prop where
  kind : st.kind = s.kind
  operands : ∀ acceptance, st = .stop acceptance → s.operands = [acceptance.name]

theorem Step.Writes.madeInto {sections : Sections} {s : Step} {st : Stage}
    (h : s.Writes sections st) : s.MadeInto st := by
  cases st with
  | stop acceptance =>
      obtain rfl : s = ⟨.stop, [acceptance.name]⟩ := h
      refine ⟨rfl, fun acceptance' hst => ?_⟩
      cases hst
      rfl
  | apply id t | add id t =>
      obtain ⟨operands, rfl, -⟩ := h
      exact ⟨rfl, fun acceptance hst => by cases hst⟩

namespace Plan

/-- The stages are made of the steps, one each and in their order. -/
theorem madeInto_of_compile {g : Grammar} {stages : List Stage}
    (h : (compile g).stages = .ok stages) : List.Forall₂ Step.MadeInto g.token stages :=
  (writes_of_compile_eq_ok h).imp fun _ _ => Step.Writes.madeInto

theorem map_kind_of_madeInto {steps : List Step} {stages : List Stage}
    (h : List.Forall₂ Step.MadeInto steps stages) : stages.map Stage.kind = steps.map (·.kind) := by
  induction h with
  | nil => rfl
  | cons hst _ ih => rw [List.map_cons, List.map_cons, hst.kind, ih]

theorem exists_madeInto_of_mem {steps : List Step} {stages : List Stage}
    (h : List.Forall₂ Step.MadeInto steps stages) {st : Stage} (hst : st ∈ stages) :
    ∃ s ∈ steps, s.MadeInto st := by
  induction h with
  | nil => simp at hst
  | @cons s st' steps stages hs _ ih =>
      rcases List.mem_cons.1 hst with rfl | hst
      · exact ⟨s, List.mem_cons_self, hs⟩
      · obtain ⟨t, ht, hmade⟩ := ih hst
        exact ⟨t, List.mem_cons_of_mem s ht, hmade⟩

end Plan

namespace Analyzer

variable (a : Analyzer) (word : String)

/-! ## Candidates on the way -/

/-- The candidates after a stage that does not end the analysis. -/
def changed (candidates : List Gloss) : Stage → List Gloss
  | .stop _ => candidates
  | .apply _ t => a.applyTo t candidates
  | .add _ t => a.addTo t candidates

/-- The candidates before the stage at a place, if the analysis has not ended before. -/
def candidatesAt (i : Nat) : List Gloss := (a.stages.take i).foldl a.changed [.ofForm word]

theorem candidatesAt_succ {i : Nat} {st : Stage} (h : a.stages[i]? = some st) :
    a.candidatesAt word (i + 1) = a.changed (a.candidatesAt word i) st := by
  simp [candidatesAt, List.take_add_one, h]

theorem candidatesAt_of_length_le {i : Nat} (h : a.stages.length ≤ i) :
    a.candidatesAt word i = a.candidatesAt word a.stages.length := by
  rw [candidatesAt, candidatesAt, List.take_of_length_le h, List.take_length]

/-- No stage takes all candidates away. -/
theorem changed_ne_nil {candidates : List Gloss} (h : candidates ≠ []) (st : Stage) :
    a.changed candidates st ≠ [] := by
  cases st with
  | stop acceptance => exact h
  | apply id t => exact List.flatMap_orSelf_ne_nil (a.transform t) h
  | add id t => exact List.append_ne_nil_of_left_ne_nil h _

theorem candidatesAt_ne_nil (i : Nat) : a.candidatesAt word i ≠ [] := by
  rw [candidatesAt]
  refine List.foldlRecOn (motive := fun candidates : List Gloss => candidates ≠ []) _ _ (by simp) ?_
  intro candidates h st _
  exact a.changed_ne_nil h st

/-! ## The last change -/

/-- The last stage before a place that changed the candidates has this number. -/
def LastChange (i : Nat) (id : Int32) : Prop :=
  ∃ j < i, (a.stages.map Stage.kind)[j]? = some (.stage id) ∧
    a.candidatesAt word (j + 1) ≠ a.candidatesAt word j ∧
    ∀ k, j < k → k < i → a.candidatesAt word (k + 1) = a.candidatesAt word k

/-- What the number that is kept tells about the stages before a place. -/
def Tells (i : Nat) (last : Int32) : Prop :=
  (last = unresolvedStage ∧ a.candidatesAt word i = [.ofForm word]) ∨ a.LastChange word i last

variable {a word}

theorem tells_zero : a.Tells word 0 unresolvedStage := .inl ⟨rfl, rfl⟩

/-- A stage that changes nothing leaves the number as it is. -/
theorem Tells.succ_of_eq {i : Nat} {last : Int32} (h : a.Tells word i last)
    (heq : a.candidatesAt word (i + 1) = a.candidatesAt word i) : a.Tells word (i + 1) last := by
  rcases h with ⟨hlast, hfirst⟩ | ⟨j, hj, hkind, hne, hsame⟩
  · exact .inl ⟨hlast, heq.trans hfirst⟩
  · refine .inr ⟨j, by omega, hkind, hne, fun k hjk hk => ?_⟩
    by_cases hki : k = i
    · rw [hki, heq]
    · exact hsame k hjk (by omega)

/-- A stage that changes the candidates is the last one to have done so. -/
theorem tells_succ_of_ne {i : Nat} {st : Stage} {id : Int32} (hst : a.stages[i]? = some st)
    (hkind : st.kind = .stage id) (hne : a.candidatesAt word (i + 1) ≠ a.candidatesAt word i) :
    a.Tells word (i + 1) id := by
  refine .inr ⟨i, by omega, ?_, hne, fun k hik hk => by omega⟩
  rw [List.getElem?_map, hst, Option.map_some, hkind]

/-! ## The end -/

variable (a word)

/-- The stage at a place is a stop that accepts one of the candidates there. -/
def EndsAt (i : Nat) (acceptance : Acceptance) : Prop :=
  a.stages[i]? = some (.stop acceptance) ∧ ∃ g ∈ a.candidatesAt word i, acceptance.accepts g = true

/-- What an analysis comes to: the first end there is on the way, or all the way. -/
inductive Outcome (r : Analysis) : Prop where
  | ended (i : Nat) (acceptance : Acceptance) (hend : a.EndsAt word i acceptance)
      (hfirst : ∀ j < i, ∀ other, ¬a.EndsAt word j other)
      (hcandidates : r.candidates = (a.candidatesAt word i).filter acceptance.accepts)
      (hstage : a.Tells word i r.stage)
  | exhausted (hnone : ∀ j other, ¬a.EndsAt word j other)
      (hcandidates : r.candidates = a.candidatesAt word a.stages.length)
      (hstage : r.stage = unresolvedStage)

variable {a word}

theorem Outcome.after {r : Analysis} (h : a.Outcome word r) (change : Change) :
    a.Outcome word (r.after change) := by
  cases h with
  | ended i acceptance hend hfirst hcandidates hstage =>
      exact .ended i acceptance hend hfirst hcandidates hstage
  | exhausted hnone hcandidates hstage => exact .exhausted hnone hcandidates hstage

/-- Stages that are no stops are carried out alike: what counts is whether they change anything. -/
theorem runFrom_cons_of_kind {st : Stage} {id : Int32} (h : st.kind = .stage id) (last : Int32)
    (candidates : List Gloss) (rest : List Stage) :
    a.runFrom last candidates (st :: rest) =
      if a.changed candidates st = candidates then a.runFrom last candidates rest
      else (a.runFrom id (a.changed candidates st) rest).after
        ⟨id, (a.changed candidates st).length⟩ := by
  cases st with
  | stop acceptance => cases h
  | apply id' t =>
      cases h
      rfl
  | add id' t =>
      cases h
      rfl

/-- An analysis that has not ended before a place comes to an end from there on, or it does not. -/
theorem outcome_runFrom {rest : List Stage} {i : Nat} {last : Int32}
    (hrest : a.stages.drop i = rest) (hlast : a.Tells word i last)
    (hbefore : ∀ j < i, ∀ other, ¬a.EndsAt word j other) :
    a.Outcome word (a.runFrom last (a.candidatesAt word i) rest) := by
  -- On the stages that are left. What is kept is that there was no end, and what the number tells.
  induction rest generalizing i last with
  | nil =>
      have hle : a.stages.length ≤ i := List.drop_eq_nil_iff.1 hrest
      refine .exhausted ?_ (a.candidatesAt_of_length_le word hle) rfl
      rintro j other ⟨hstop, haccepts⟩
      have hj : j < a.stages.length := (List.getElem?_eq_some_iff.1 hstop).1
      exact hbefore j (by omega) other ⟨hstop, haccepts⟩
  | cons st rest ih =>
      have hst : a.stages[i]? = some st := by
        rw [← List.head?_drop, hrest]
        rfl
      have hdrop : a.stages.drop (i + 1) = rest := by
        rw [← List.tail_drop, hrest]
        rfl
      have hnext := a.candidatesAt_succ word hst
      -- If the stage is no end, there is none up to the next place either.
      have hgoes : (∀ other, ¬a.EndsAt word i other) →
          ∀ j < i + 1, ∀ other, ¬a.EndsAt word j other := by
        intro hi j hj other
        by_cases hji : j = i
        · rw [hji]
          exact hi other
        · exact hbefore j (by omega) other
      cases hkind : st.kind with
      | stop =>
          cases st with
          | apply id t => cases hkind
          | add id t => cases hkind
          | stop acceptance =>
              have hsame : a.candidatesAt word (i + 1) = a.candidatesAt word i := hnext
              rw [runFrom]
              by_cases hnone : (a.candidatesAt word i).filter acceptance.accepts = []
              · have hno : ∀ other, ¬a.EndsAt word i other := by
                  rintro other ⟨hstop, g, hg, haccepts⟩
                  rw [hst] at hstop
                  obtain rfl : acceptance = other := by simpa using hstop
                  have hmem := List.mem_filter.2 ⟨hg, haccepts⟩
                  rw [hnone] at hmem
                  simp at hmem
                have hrun := ih hdrop (hlast.succ_of_eq hsame) (hgoes hno)
                rw [hsame] at hrun
                simpa [hnone] using hrun
              · obtain ⟨g, hg⟩ := List.exists_mem_of_ne_nil _ hnone
                obtain ⟨hg, haccepts⟩ := List.mem_filter.1 hg
                rw [if_neg (by simpa using hnone)]
                exact .ended i acceptance ⟨hst, g, hg, haccepts⟩ hbefore rfl hlast
      | stage id =>
          have hno : ∀ other, ¬a.EndsAt word i other := by
            rintro other ⟨hstop, -⟩
            rw [hst] at hstop
            obtain rfl := Option.some.inj hstop
            cases hkind
          rw [runFrom_cons_of_kind hkind, ← hnext]
          by_cases heq : a.candidatesAt word (i + 1) = a.candidatesAt word i
          · have hrun := ih hdrop (hlast.succ_of_eq heq) (hgoes hno)
            rw [if_pos heq]
            rwa [heq] at hrun
          · rw [if_neg heq]
            exact (ih hdrop (tells_succ_of_ne hst hkind heq) (hgoes hno)).after _

/-- **Analyses end at the first chance.** -/
theorem outcome_analyze (a : Analyzer) (word : String) : a.Outcome word (a.analyze word) :=
  outcome_runFrom rfl tells_zero fun _ hj => absurd hj (Nat.not_lt_zero _)

/-! ## Plans that wait for resolved candidates -/

/-- The stage at a place is a stop, and one of the candidates there is resolved. -/
def MeetsResolved (a : Analyzer) (word : String) (i : Nat) : Prop :=
  (a.stages.map Stage.kind)[i]? = some .stop ∧ ∃ g ∈ a.candidatesAt word i, g.isResolved = true

/-- Where all stops wait for resolved candidates, an analysis ends where a stop meets one. -/
theorem meetsResolved_iff (hstops : ∀ acceptance, .stop acceptance ∈ a.stages →
      acceptance = .resolved) {i : Nat} :
    a.MeetsResolved word i ↔ a.EndsAt word i .resolved := by
  refine and_congr_left' ?_
  rw [List.getElem?_map, Option.map_eq_some_iff]
  constructor
  · rintro ⟨st, hst, hkind⟩
    cases st with
    | stop acceptance => rw [hst, hstops acceptance (List.mem_of_getElem? hst)]
    | apply id t => cases hkind
    | add id t => cases hkind
  · intro hst
    exact ⟨_, hst, rfl⟩

/-- Where a candidate is resolved, something has changed: the word alone is not. -/
theorem Tells.lastChange {i : Nat} {last : Int32} (h : a.Tells word i last)
    (hresolved : ∃ g ∈ a.candidatesAt word i, g.isResolved = true) : a.LastChange word i last := by
  rcases h with ⟨-, hfirst⟩ | h
  · obtain ⟨g, hg, hresolved⟩ := hresolved
    rw [hfirst, List.mem_singleton] at hg
    rw [hg, Gloss.isResolved_ofForm] at hresolved
    cases hresolved
  · exact h

/-- The number of a last change is that of a stage. -/
theorem LastChange.exists_kind {i : Nat} {id : Int32} (h : a.LastChange word i id) :
    .stage id ∈ a.stages.map Stage.kind := by
  obtain ⟨j, -, hkind, -⟩ := h
  exact List.mem_of_getElem? hkind

theorem candidates_ne_nil_of_outcome {r : Analysis} (h : a.Outcome word r) : r.candidates ≠ [] := by
  cases h with
  | ended i acceptance hend hfirst hcandidates hstage =>
      obtain ⟨-, g, hg, haccepts⟩ := hend
      rw [hcandidates]
      exact List.ne_nil_of_mem (List.mem_filter.2 ⟨hg, haccepts⟩)
  | exhausted hnone hcandidates hstage =>
      rw [hcandidates]
      exact a.candidatesAt_ne_nil word _

/-- **The sign of the number tells whether a word was resolved.** Let the stages of a grammar be
numbered from 0 or more, and let all its stops wait for resolved candidates. The analysis of a word
ends at the first stop that meets a resolved candidate, with all the resolved ones and the number of
the last stage before it that changed the candidates, which is never negative. If no stop of the
plan meets one, the number is -1, and the candidates are those after the whole plan. There always
are candidates.

The candidates at a place are those of a run that does not end before it. Up to the first such stop
they are those of the analysis, and if there is any such stop, there is a first one. -/
theorem analyze_of_parsed_stops {u : Union} {g : Grammar} {toneless : Bool} {a : Analyzer}
    (hcompiles : ofPlan u (.compile g) toneless = .ok a)
    (hids : ∀ s ∈ g.token, ∀ id, s.kind = .stage id → 0 ≤ id)
    (hstops : ∀ s ∈ g.token, s.kind = .stop → s.operands = ["parsed"]) (word : String) :
    a.stages.map Stage.kind = g.token.map (·.kind) ∧
    (a.analyze word).candidates ≠ [] ∧
    (0 ≤ (a.analyze word).stage ↔ ∃ i, a.MeetsResolved word i) ∧
    (∀ i, a.MeetsResolved word i → (∀ j < i, ¬a.MeetsResolved word j) →
      (a.analyze word).candidates = (a.candidatesAt word i).filter (·.isResolved) ∧
      a.LastChange word i (a.analyze word).stage) ∧
    ((∀ i, ¬a.MeetsResolved word i) →
      (a.analyze word).stage = -1 ∧
      (a.analyze word).candidates = a.candidatesAt word g.token.length) := by
  obtain ⟨stages, hstages, rfl⟩ := Except.map_eq_ok_iff.1 hcompiles
  have hmade := Plan.madeInto_of_compile hstages
  have hkinds := Plan.map_kind_of_madeInto hmade
  have hresolved : ∀ acceptance, .stop acceptance ∈ stages → acceptance = .resolved := by
    intro acceptance hst
    obtain ⟨s, hs, hst⟩ := Plan.exists_madeInto_of_mem hmade hst
    have hname := (hst.operands acceptance rfl).symm.trans (hstops s hs hst.kind.symm)
    cases acceptance with
    | resolved => rfl
    | unknown => simp [Acceptance.name] at hname
  have hmeets := @meetsResolved_iff ⟨u, stages, toneless⟩ word hresolved
  -- The stages have the numbers of the steps that they are made of.
  have hnonneg : ∀ {i : Nat} {id : Int32},
      (Analyzer.mk u stages toneless).LastChange word i id → 0 ≤ id := by
    intro i id h
    have hkind := h.exists_kind
    rw [hkinds] at hkind
    obtain ⟨s, hs, hkind⟩ := List.mem_map.1 hkind
    exact hids s hs id hkind
  have hlength : stages.length = g.token.length := hmade.length_eq.symm
  have houtcome := outcome_analyze ⟨u, stages, toneless⟩ word
  refine ⟨hkinds, candidates_ne_nil_of_outcome houtcome, ?_⟩
  generalize (Analyzer.mk u stages toneless).analyze word = r at houtcome ⊢
  cases houtcome with
  | ended i acceptance hend hfirst hcandidates hstage =>
      -- A candidate is resolved here, as the word alone is not, so some stage has changed them.
      obtain rfl := hresolved acceptance (List.mem_of_getElem? hend.1)
      have hlast := hstage.lastChange hend.2
      have hi := hmeets.2 hend
      refine ⟨iff_of_true (hnonneg hlast) ⟨i, hi⟩, ?_, fun hnone => absurd hi (hnone i)⟩
      intro j hj hbefore
      -- Both places are the first one.
      have hle : ¬j < i := fun hji => hfirst j hji .resolved (hmeets.1 hj)
      have hge : ¬i < j := fun hij => hbefore i hij hi
      obtain rfl : j = i := by omega
      exact ⟨hcandidates, hlast⟩
  | exhausted hnone hcandidates hstage =>
      have hno : ∀ i, ¬(Analyzer.mk u stages toneless).MeetsResolved word i :=
        fun i hi => hnone i .resolved (hmeets.1 hi)
      refine ⟨iff_of_false ?_ (fun ⟨i, hi⟩ => hno i hi), fun i hi => absurd hi (hno i), ?_⟩
      · rw [hstage]
        decide
      · intro _
        rw [← hlength]
        exact ⟨hstage, hcandidates⟩

/-- A noun and an ending. -/
def stemAndEnding : Union :=
  let b := Builder.empty.insert "kan" ⟨"kan", .ofList ["n"], "neck", []⟩
  .ofList ((b.insert "w" ⟨"w", .ofList ["mrph"], "PL", []⟩).build.toOption.toList)

/-- Takes words for nouns in the plural if they are not found as they are. The last step is only
reached by words that are not resolved. -/
def plurals : Grammar where
  token := [⟨.stage 0, ["apply", "lookup"]⟩, ⟨.stop, ["parsed"]⟩,
    ⟨.stage 2, ["apply", "parallel", "decompose", "plural"]⟩, ⟨.stage 5, ["add", "lookup"]⟩,
    ⟨.stop, ["parsed"]⟩, ⟨.stage 7, ["add", "sequential", "parse", "plural"]⟩]
  sentence := []
  sections := .ofList [("plural",
    [⟨⟨"", .empty, "", [⟨"", .ofList ["n"], "", []⟩, ⟨"w", .ofList ["mrph"], "", []⟩]⟩,
      .ofForm ""⟩])]

theorem analyze_plurals : ∃ a, ofPlan stemAndEnding (.compile plurals) true = .ok a ∧
    (∀ s ∈ plurals.token, ∀ id, s.kind = .stage id → 0 ≤ id) ∧
    (∀ s ∈ plurals.token, s.kind = .stop → s.operands = ["parsed"]) ∧
    (∃ i, a.MeetsResolved "kànw" i) ∧ ¬∃ i, a.MeetsResolved "wkan" i := by
  have hids : ∀ s ∈ plurals.token, ∀ id, s.kind = .stage id → 0 ≤ id := by
    intro s hs id hid
    simp only [plurals, List.mem_cons, List.not_mem_nil, or_false] at hs
    rcases hs with rfl | rfl | rfl | rfl | rfl | rfl <;> cases hid <;> decide
  have hstops : ∀ s ∈ plurals.token, s.kind = .stop → s.operands = ["parsed"] := by decide
  have hstages : (ofPlan stemAndEnding (.compile plurals) true).toOption.map
      (fun a => ((a.analyze "kànw").stage, (a.analyze "wkan").stage)) = some (5, -1) := by
    decide +kernel
  cases ha : ofPlan stemAndEnding (.compile plurals) true with
  | error e =>
      rw [ha] at hstages
      cases hstages
  | ok a =>
      rw [ha] at hstages
      obtain ⟨hplural, hneither⟩ := Prod.mk.inj (Option.some.inj hstages)
      obtain ⟨-, -, hends, -⟩ := analyze_of_parsed_stops ha hids hstops "kànw"
      obtain ⟨-, -, hgoesOn, -⟩ := analyze_of_parsed_stops ha hids hstops "wkan"
      refine ⟨a, rfl, hids, hstops, hends.1 ?_, fun h => ?_⟩
      · rw [hplural]
        decide
      · have hnonneg := hgoesOn.2 h
        rw [hneither] at hnonneg
        exact absurd hnonneg (by decide)

end Analyzer

end Interlinear
