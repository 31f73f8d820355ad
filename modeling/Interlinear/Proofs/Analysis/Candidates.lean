import Interlinear.Analysis.Analyzer

set_option autoImplicit false

/-! # Where candidates come from

Each candidate that a step of an analysis gives was there before, or it is made of one that was. So
a property of glosses that the transforms of all stages keep holds of every candidate that an
analysis ends with, if it holds of the first ones (`Analyzer.forall_mem_candidates_runFrom`). -/

namespace Interlinear

/-- What a stage makes of the candidates; none for a stop. -/
def Stage.transform? : Stage → Option Transform
  | .stop _ => none
  | .apply _ t | .add _ t => some t

namespace Analyzer

variable {a : Analyzer}

/-! ## Looking up -/

theorem eq_or_mem_entries_of_mem_readings {m r : Gloss} (h : r ∈ a.readings m) :
    r = m ∨ r ∈ a.entries m := by
  unfold readings at h
  split at h
  · exact .inl (List.mem_singleton.1 h)
  · dsimp only at h
    split at h
    · exact .inl (List.mem_singleton.1 h)
    · exact .inr h

/-- What is found for a candidate is the candidate itself, an entry of it, or the candidate with
other morphemes, each of which is one of its own or an entry of one. -/
theorem of_mem_lookup {g r : Gloss} (h : r ∈ a.lookup g) :
    r = g ∨ r ∈ a.entries g ∨ ∃ ms, r = g.withMorphemes ms ∧
      ∀ m' ∈ ms, ∃ m ∈ g.morphemes, m' = m ∨ m' ∈ a.entries m := by
  unfold lookup at h
  split at h
  · exact .inl (List.mem_singleton.1 h)
  · split at h
    · exact .inr (.inl h)
    · obtain ⟨ms, hms, rfl⟩ := List.mem_map.1 h
      refine .inr (.inr ⟨ms, rfl, fun m' hm' => ?_⟩)
      obtain ⟨l, hl, hm'⟩ := mem_of_mem_choices hms hm'
      obtain ⟨m, hm, rfl⟩ := List.mem_map.1 hl
      exact ⟨m, hm, eq_or_mem_entries_of_mem_readings hm'⟩

/-! ## Stages -/

theorem of_mem_applyTo {t : Transform} {candidates : List Gloss} {r : Gloss}
    (h : r ∈ a.applyTo t candidates) : ∃ g ∈ candidates, r = g ∨ r ∈ a.transform t g := by
  obtain ⟨g, hg, h⟩ := List.mem_flatMap.1 h
  dsimp only at h
  split at h
  · exact ⟨g, hg, .inl (List.mem_singleton.1 h)⟩
  · exact ⟨g, hg, .inr h⟩

theorem of_mem_addTo {t : Transform} {candidates : List Gloss} {r : Gloss}
    (h : r ∈ a.addTo t candidates) : ∃ g ∈ candidates, r = g ∨ r ∈ a.transform t g := by
  rcases List.mem_append.1 h with h | h
  · exact ⟨r, h, .inl rfl⟩
  · obtain ⟨g, hg, h⟩ := List.mem_flatMap.1 h
    exact ⟨g, hg, .inr h⟩

/-! ## Runs -/

variable {P : Gloss → Prop}

/-- A transform keeps a property of glosses. -/
def Keeps (a : Analyzer) (t : Transform) (P : Gloss → Prop) : Prop :=
  ∀ g, P g → ∀ r ∈ a.transform t g, P r

theorem Keeps.applyTo {t : Transform} (ht : a.Keeps t P) {candidates : List Gloss}
    (h : ∀ g ∈ candidates, P g) : ∀ r ∈ a.applyTo t candidates, P r := by
  intro r hr
  obtain ⟨g, hg, rfl | hr⟩ := of_mem_applyTo hr
  · exact h r hg
  · exact ht g (h g hg) r hr

theorem Keeps.addTo {t : Transform} (ht : a.Keeps t P) {candidates : List Gloss}
    (h : ∀ g ∈ candidates, P g) : ∀ r ∈ a.addTo t candidates, P r := by
  intro r hr
  obtain ⟨g, hg, rfl | hr⟩ := of_mem_addTo hr
  · exact h r hg
  · exact ht g (h g hg) r hr

theorem forall_mem_candidates_runFrom {stages : List Stage}
    (hstages : ∀ st ∈ stages, ∀ t, st.transform? = some t → a.Keeps t P) (last : Int32)
    {candidates : List Gloss} (h : ∀ g ∈ candidates, P g) :
    ∀ r ∈ (a.runFrom last candidates stages).candidates, P r := by
  -- On the stages. A stop only leaves candidates out, and the others keep the property of all.
  induction stages generalizing last candidates with
  | nil => exact h
  | cons st stages ih =>
      obtain ⟨hst, hrest⟩ := List.forall_mem_cons.1 hstages
      cases st with
      | stop acceptance =>
          rw [runFrom]
          split
          · exact ih hrest last h
          · exact fun r hr => h r (List.mem_filter.1 hr).1
      | apply id t =>
          rw [runFrom]
          split
          · exact ih hrest last h
          · exact ih hrest id ((hst t rfl).applyTo h)
      | add id t =>
          rw [runFrom]
          split
          · exact ih hrest last h
          · exact ih hrest id ((hst t rfl).addTo h)

end Analyzer

end Interlinear
