import Interlinear.Analysis.Analyzer

set_option autoImplicit false

/-! # Patterns in sequence and in parallel

In parallel, every pattern works on the candidate itself; in sequence, each works on the newest
result. As long as no pattern accepts the candidate there is no result, so the first one that
accepts it works on the candidate either way (`sequence_of_rejected`). In sequence the results of
later patterns go before those that are there (`suffix_sequenceFrom`), and in parallel after them,
so what the first one makes of the candidate comes last there and first here
(`sequential_parallel_first_accepted`). -/

namespace Interlinear.Analyzer

/-- The results of patterns one after the other, where there are results already. -/
def sequenceFrom (a : Analyzer) (action : Action) (g : Gloss) (results : List Gloss)
    (patterns : List CompiledPattern) : List Gloss :=
  patterns.foldl (fun results p => a.act action p (results.headD g) ++ results) results

variable {a : Analyzer} {action : Action} {g : Gloss}

theorem sequence_eq_sequenceFrom (patterns : List CompiledPattern) :
    a.sequence action g patterns = a.sequenceFrom action g [] patterns := rfl

theorem sequenceFrom_cons (results : List Gloss) (p : CompiledPattern)
    (patterns : List CompiledPattern) :
    a.sequenceFrom action g results (p :: patterns)
      = a.sequenceFrom action g (a.act action p (results.headD g) ++ results) patterns := rfl

/-- Results stay where they are; those of later patterns go before them. -/
theorem suffix_sequenceFrom (results : List Gloss) (patterns : List CompiledPattern) :
    results <:+ a.sequenceFrom action g results patterns := by
  induction patterns generalizing results with
  | nil => exact List.suffix_refl results
  | cons p patterns ih =>
      rw [sequenceFrom_cons]
      have hstep : results <:+ a.act action p (results.headD g) ++ results :=
        List.suffix_append _ _
      exact hstep.trans (ih _)

section

variable {before : List CompiledPattern} (h : ∀ p ∈ before, a.act action p g = [])

include h

/-- Patterns that do not accept the candidate leave it to the next pattern. -/
theorem sequence_of_rejected (after : List CompiledPattern) :
    a.sequence action g (before ++ after) = a.sequence action g after := by
  induction before with
  | nil => rfl
  | cons p before ih =>
      obtain ⟨hp, hbefore⟩ := List.forall_mem_cons.1 h
      have hnone : a.act action p (([] : List Gloss).headD g) ++ [] = [] := by
        simpa using hp
      rw [List.cons_append, sequence_eq_sequenceFrom, sequenceFrom_cons, hnone]
      exact ih hbefore

theorem flatMap_act_of_rejected (after : List CompiledPattern) :
    (before ++ after).flatMap (fun p => a.act action p g)
      = after.flatMap fun p => a.act action p g := by
  have hnone : before.flatMap (fun p => a.act action p g) = [] := List.flatMap_eq_nil_iff.2 h
  rw [List.flatMap_append, hnone, List.nil_append]

end

/-- The first pattern that accepts the candidate gives the last results in sequence. -/
theorem suffix_sequence_cons (p : CompiledPattern) (after : List CompiledPattern) :
    a.act action p g <:+ a.sequence action g (p :: after) := by
  have hfirst : a.act action p (([] : List Gloss).headD g) ++ [] = a.act action p g := by simp
  rw [sequence_eq_sequenceFrom, sequenceFrom_cons, hfirst]
  exact suffix_sequenceFrom _ after

/-- Either no pattern accepts the candidate or one of them is the first to do so. -/
theorem rejected_or_exists_first (a : Analyzer) (action : Action) (patterns : List CompiledPattern)
    (g : Gloss) :
    (∀ p ∈ patterns, a.act action p g = []) ∨
      ∃ before p after, patterns = before ++ p :: after ∧
        (∀ q ∈ before, a.act action q g = []) ∧ a.act action p g ≠ [] := by
  cases hfind : patterns.find? (fun p => !(a.act action p g).isEmpty) with
  | none =>
      refine Or.inl fun p hp => ?_
      have hrejects := List.find?_eq_none.1 hfind p hp
      simpa using hrejects
  | some p =>
      obtain ⟨hp, before, after, rfl, hbefore⟩ := List.find?_eq_some_iff_append.1 hfind
      refine Or.inr ⟨before, p, after, rfl, fun q hq => ?_, by simpa using hp⟩
      have hrejects := hbefore q hq
      simpa using hrejects

/-- **Patterns in sequence and in parallel** accept the same candidates. What the first pattern that
accepts a candidate makes of it comes last in sequence and first in parallel. -/
theorem sequential_parallel_first_accepted (a : Analyzer) (action : Action)
    (patterns : List CompiledPattern) (g : Gloss) :
    (a.transform (.sequential action patterns) g = [] ↔
      a.transform (.parallel action patterns) g = []) ∧
    (a.transform (.parallel action patterns) g ≠ [] →
      ∃ before p after, patterns = before ++ p :: after ∧
        (∀ q ∈ before, a.act action q g = []) ∧ a.act action p g ≠ [] ∧
        a.act action p g <:+ a.transform (.sequential action patterns) g ∧
        a.act action p g <+: a.transform (.parallel action patterns) g) := by
  rw [transform, transform]
  rcases rejected_or_exists_first a action patterns g with
    hnone | ⟨before, p, after, rfl, hbefore, hp⟩
  · -- No pattern accepts the candidate: neither way is there a result.
    have hsequential : a.sequence action g patterns = [] := by
      have h := sequence_of_rejected hnone []
      rwa [List.append_nil] at h
    have hparallel : patterns.flatMap (fun p => a.act action p g) = [] :=
      List.flatMap_eq_nil_iff.2 hnone
    exact ⟨by simp [hsequential, hparallel], fun h => absurd hparallel h⟩
  · rw [sequence_of_rejected hbefore, flatMap_act_of_rejected hbefore]
    have hsuffix : a.act action p g <:+ a.sequence action g (p :: after) :=
      suffix_sequence_cons p after
    have hprefix : a.act action p g <+: (p :: after).flatMap fun p => a.act action p g := by
      rw [List.flatMap_cons]
      exact List.prefix_append _ _
    have hsequential : a.sequence action g (p :: after) ≠ [] :=
      fun h => hp (List.suffix_nil.1 (h ▸ hsuffix))
    have hparallel : (p :: after).flatMap (fun p => a.act action p g) ≠ [] :=
      fun h => hp (List.prefix_nil.1 (h ▸ hprefix))
    refine ⟨iff_of_false hsequential hparallel, fun _ => ?_⟩
    exact ⟨before, p, after, rfl, hbefore, hp, hsuffix, hprefix⟩

end Interlinear.Analyzer
