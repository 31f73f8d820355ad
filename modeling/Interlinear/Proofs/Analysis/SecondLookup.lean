import Interlinear.Dictionary.Builder
import Interlinear.Proofs.Analysis.Lookup

set_option autoImplicit false

/-! # Looking up what was found

A step that looks the candidates up leaves those alone for which there is nothing to be found. What
it finds are entries of the dictionaries, and these are candidates like any others: an entry that is
not resolved is looked up in its turn, under the key of its own form. So a second look-up changes
nothing just if each entry that the first one brought in is settled, that is, resolved or not to be
found but by itself (`Analyzer.applyTo_lookup_again_iff`). -/

namespace Interlinear

namespace Analyzer

variable (a : Analyzer)

/-! ## Settled glosses -/

/-- A morpheme that stands for itself alone: it is resolved, or nothing is found for it but
itself. -/
def SettledPart (m : Gloss) : Prop :=
  m.isResolved = true ∨ a.compatibleEntries m = [] ∨ a.compatibleEntries m = [m]

/-- A candidate that stands for itself alone: it does so as a whole or, if it has morphemes, by each
of these. -/
def Settled (g : Gloss) : Prop :=
  (g.morphemes = [] → a.SettledPart g) ∧ ∀ m ∈ g.morphemes, a.SettledPart m

/-- The entries that looking up brings in for candidates are settled: those that take the place of a
candidate as candidates, and those that take the place of a morpheme as morphemes. -/
def BringsSettled (candidates : List Gloss) : Prop :=
  ∀ g ∈ candidates, g.isResolved = false →
    (g.morphemes = [] → ∀ e ∈ a.compatibleEntries g, a.Settled e) ∧
    ∀ m ∈ g.morphemes, m.isResolved = false → ∀ e ∈ a.compatibleEntries m, a.SettledPart e

/-- What a candidate is replaced by: what is found for it, or itself if that is nothing. -/
def expansion (g : Gloss) : List Gloss := if (a.lookup g).isEmpty then [g] else a.lookup g

theorem applyTo_lookup (candidates : List Gloss) :
    a.applyTo .lookup candidates = candidates.flatMap a.expansion := rfl

theorem expansion_ne_nil (g : Gloss) : a.expansion g ≠ [] := by
  rw [expansion]
  split
  · simp
  next h => simpa using h

theorem expansion_of_isResolved {g : Gloss} (h : g.isResolved = true) : a.expansion g = [g] := by
  simp [expansion, lookup, h]

theorem expansion_of_morphemes_eq_nil {g : Gloss} (h : g.isResolved = false)
    (hnil : g.morphemes = []) :
    a.expansion g = if a.compatibleEntries g = [] then [g] else a.compatibleEntries g := by
  rw [expansion, (a.lookup_entries_or_combinations h).1 hnil]
  simp

theorem alternatives_of_mem_ne_nil (ms : List Gloss) :
    ∀ xs ∈ ms.map a.alternatives, xs ≠ [] := by
  intro xs hxs
  obtain ⟨m, -, rfl⟩ := List.mem_map.1 hxs
  exact a.alternatives_ne_nil m

theorem expansion_of_morphemes_ne_nil {g : Gloss} (hne : g.morphemes ≠ []) :
    a.expansion g = (choices (g.morphemes.map a.alternatives)).map g.withMorphemes := by
  have hfound := choices_ne_nil (a.alternatives_of_mem_ne_nil g.morphemes)
  rw [expansion, a.lookup_eq_choices hne, readings_eq_alternatives, if_neg (by simpa using hfound)]

theorem alternatives_eq_singleton_iff (m : Gloss) : a.alternatives m = [m] ↔ a.SettledPart m := by
  rw [alternatives, SettledPart, ← or_assoc]
  split
  next h => exact iff_of_true rfl (.inl h)
  next h => exact (or_iff_right h).symm

/-- A candidate is replaced by itself just if it is settled. -/
theorem expansion_eq_singleton_iff (g : Gloss) : a.expansion g = [g] ↔ a.Settled g := by
  by_cases hnil : g.morphemes = []
  · have hparts : a.Settled g ↔ a.SettledPart g := by simp [Settled, hnil]
    rw [hparts, SettledPart]
    cases hg : g.isResolved with
    | true => simp [a.expansion_of_isResolved hg]
    | false =>
        rw [a.expansion_of_morphemes_eq_nil hg hnil]
        split
        next h => simp [h]
        next h => simp [h]
  · have hinj : ∀ c, [g.withMorphemes c] = [g] ↔ c = g.morphemes := by
      intro c
      obtain ⟨form, tags, meaning, morphemes⟩ := g
      simp [Gloss.withMorphemes]
    have hone : a.expansion g = [g] ↔ choices (g.morphemes.map a.alternatives) = [g.morphemes] := by
      rw [a.expansion_of_morphemes_ne_nil hnil]
      constructor
      · intro h
        obtain ⟨c, hc⟩ := List.length_eq_one_iff.1
          ((List.length_map g.withMorphemes).symm.trans (congrArg List.length h))
        rw [hc, List.map_singleton, hinj] at h
        rw [hc, h]
      · intro h
        rw [h, List.map_singleton, hinj]
    rw [hone, choices_eq_singleton_iff (a.alternatives_of_mem_ne_nil _), List.map_inj_left]
    simp [alternatives_eq_singleton_iff, Settled, hnil]

/-! ## Two look-ups in a row -/

/-- The candidates that a candidate is replaced by are settled just if the entries among them are.
What was not replaced has no entries. -/
theorem settled_of_mem_expansion_iff (g : Gloss) :
    (∀ r ∈ a.expansion g, a.Settled r) ↔ a.BringsSettled [g] := by
  rw [BringsSettled, List.forall_mem_singleton]
  cases hg : g.isResolved with
  | true =>
      have hexp := a.expansion_of_isResolved hg
      rw [hexp, List.forall_mem_singleton, ← expansion_eq_singleton_iff]
      simp [hexp]
  | false =>
      rw [imp_iff_right rfl]
      by_cases hnil : g.morphemes = []
      · rw [a.expansion_of_morphemes_eq_nil hg hnil]
        split
        next h => simp [h, hnil, Settled, SettledPart]
        next h => simp [hnil]
      · have hpart : ∀ m, (∀ r ∈ a.alternatives m, a.SettledPart r) ↔
            (m.isResolved = false → ∀ e ∈ a.compatibleEntries m, a.SettledPart e) := by
          intro m
          rw [alternatives]
          split
          next h =>
            rw [List.forall_mem_singleton, SettledPart]
            rcases h with h | h
            · simp [h]
            · simp [h]
          next h =>
            have hm : m.isResolved = false := by simpa using fun hm => h (.inl hm)
            rw [imp_iff_right hm]
        have hmade : ∀ c ∈ choices (g.morphemes.map a.alternatives),
            (a.Settled (g.withMorphemes c) ↔ ∀ m ∈ c, a.SettledPart m) := by
          intro c hc
          have hlen := length_of_mem_choices hc
          have hc : c ≠ [] := by
            rintro rfl
            rw [List.length_map] at hlen
            exact hnil (List.length_eq_zero_iff.1 hlen.symm)
          simp [Settled, Gloss.withMorphemes, hc]
        rw [a.expansion_of_morphemes_ne_nil hnil, List.forall_mem_map, forall₂_congr hmade,
          forall_mem_choices_iff (a.alternatives_of_mem_ne_nil _), List.forall_mem_map]
        simp only [hpart, hnil, false_imp_iff, true_and]

theorem settled_of_mem_applyTo_iff (candidates : List Gloss) :
    (∀ r ∈ a.applyTo .lookup candidates, a.Settled r) ↔ a.BringsSettled candidates := by
  rw [applyTo_lookup, List.forall_mem_flatMap, BringsSettled]
  refine forall₂_congr fun g _ => ?_
  rw [settled_of_mem_expansion_iff, BringsSettled, List.forall_mem_singleton]

/-- A plan that ends with a stage shows what the stage made of the candidates. -/
theorem candidates_runFrom_apply (t : Transform) (last id : Int32) (candidates : List Gloss) :
    (a.runFrom last candidates [.apply id t]).candidates = a.applyTo t candidates := by
  rw [runFrom]
  split
  next h => exact h.symm
  next h => rfl

/-- **A second look-up.** Looking the candidates up twice in a row gives the same candidates as
doing so once, and leaves what every plan comes to as it is, with the number of its stage, just if
the entries that the first look-up brings in are settled. -/
theorem applyTo_lookup_again_iff (candidates : List Gloss) :
    (a.applyTo .lookup (a.applyTo .lookup candidates) = a.applyTo .lookup candidates ↔
      a.BringsSettled candidates) ∧
    ((∀ last id id' rest,
        a.runFrom last candidates (.apply id .lookup :: .apply id' .lookup :: rest)
          = a.runFrom last candidates (.apply id .lookup :: rest)) ↔
      a.BringsSettled candidates) := by
  have hcandidates : a.applyTo .lookup (a.applyTo .lookup candidates)
      = a.applyTo .lookup candidates ↔ a.BringsSettled candidates := by
    rw [← settled_of_mem_applyTo_iff]
    conv_lhs => rw [applyTo_lookup _ (a.applyTo .lookup candidates)]
    rw [List.flatMap_eq_self_iff fun g _ => a.expansion_ne_nil g]
    exact forall₂_congr fun g _ => a.expansion_eq_singleton_iff g
  refine ⟨hcandidates, ?_, fun h last id id' rest => ?_⟩
  · intro hruns
    rw [← hcandidates]
    by_cases hfirst : a.applyTo .lookup candidates = candidates
    · rw [hfirst, hfirst]
    · have hends := congrArg Analysis.candidates (hruns 0 0 0 [])
      rw [candidates_runFrom_apply, runFrom, if_neg hfirst] at hends
      exact (a.candidates_runFrom_apply .lookup 0 0 _).symm.trans hends
  · have hsame := hcandidates.2 h
    by_cases hfirst : a.applyTo .lookup candidates = candidates
    · rw [runFrom, if_pos hfirst, runFrom, if_pos hfirst, runFrom, if_pos hfirst]
    · rw [runFrom, if_neg hfirst, runFrom, if_pos hsame, runFrom, if_neg hfirst]

variable {a} in
/-- Where all entries are resolved, a second look-up never changes anything. -/
theorem bringsSettled_of_isResolved
    (h : ∀ key, ∀ e ∈ a.union.glosses key, e.isResolved = true) (candidates : List Gloss) :
    a.BringsSettled candidates := by
  have hentries : ∀ g, ∀ e ∈ a.compatibleEntries g, e.isResolved = true :=
    fun g e he => h _ e (List.mem_filter.1 he).1
  intro g _ _
  refine ⟨fun _ e he => ⟨fun _ => .inl (hentries g e he), fun m hm => .inl ?_⟩,
    fun m _ _ e he => .inl (hentries m e he)⟩
  have hresolved := hentries g e he
  rw [Gloss.isResolved_eq, if_neg (by simpa using List.ne_nil_of_mem hm)] at hresolved
  exact List.all_eq_true.1 hresolved m hm

/-- A word without a meaning of its own, whose entry has the form of another word. -/
def crossReference : Union :=
  let b := Builder.empty.insert "kan" (.ofForm "ka")
  .ofList ((b.insert "ka" ⟨"ka", .ofList ["n"], "name", []⟩).build.toOption.toList)

/-- An entry that is not resolved is looked up under another key than the one it was found under. -/
theorem not_forall_applyTo_lookup_again :
    ¬∀ (a : Analyzer) (candidates : List Gloss),
      a.applyTo .lookup (a.applyTo .lookup candidates) = a.applyTo .lookup candidates := by
  intro h
  have hkan := h ⟨crossReference, [], false⟩ [.ofForm "kan"]
  revert hkan
  decide +kernel

end Analyzer

end Interlinear
