import Interlinear.Proofs.Analysis.Composition
import Interlinear.Proofs.Choices

set_option autoImplicit false

/-! # What is found for a candidate

A candidate that is not resolved is looked up as a whole if it has no morphemes: it stands for the
entries of its key that are compatible with it (`Gloss.CompatibleWith`). If it has morphemes, these
are looked up one by one, and the candidate stands for all combinations of what they stand for. A
morpheme without compatible entries stands for itself, so that it takes no combination away
(`Analyzer.lookup_entries_or_combinations`). -/

namespace Interlinear

namespace Gloss

/-- Whether an entry may stand for a gloss: they share a tag, unless one has none, and they have the
same meaning, unless one has none. -/
def CompatibleWith (e g : Gloss) : Prop :=
  (e.tags.toList = [] ∨ g.tags.toList = [] ∨ ∃ tag ∈ e.tags.toList, tag ∈ g.tags.toList) ∧
  (e.meaning = "" ∨ g.meaning = "" ∨ e.meaning = g.meaning)

instance (e g : Gloss) : Decidable (e.CompatibleWith g) :=
  inferInstanceAs (Decidable (_ ∧ _))

/-- The template that a gloss is looked up with asks for what is compatible. -/
theorem satisfies_iff_compatibleWith (e g : Gloss) :
    e.satisfies ⟨"", g.tags, g.meaning, []⟩ = true ↔ e.CompatibleWith g := by
  obtain ⟨form, tags, meaning, morphemes⟩ := e
  have htags : tags.compatible g.tags = true ↔
      tags.toList = [] ∨ g.tags.toList = [] ∨ ∃ tag ∈ tags.toList, tag ∈ g.tags.toList := by
    simp [TagSet.compatible, TagSet.isEmpty, or_assoc]
  have hmeaning : (g.meaning.isEmpty || meaning.isEmpty || meaning == g.meaning) = true ↔
      meaning = "" ∨ g.meaning = "" ∨ meaning = g.meaning := by
    simp only [Bool.or_eq_true, String.isEmpty_iff, beq_iff_eq]
    rw [or_comm (a := g.meaning = ""), or_assoc]
  have hform : ("".isEmpty || form == "") = true := rfl
  have hmorphemes : (([] : List Gloss).isEmpty || allSatisfy morphemes []) = true := rfl
  rw [satisfies, hform, hmorphemes, Bool.true_and, Bool.and_true, Bool.and_eq_true, htags, hmeaning,
    CompatibleWith]

end Gloss

namespace Analyzer

variable (a : Analyzer)

/-- The entries of the key of a gloss, member by member of the union, that may stand for it. -/
def compatibleEntries (g : Gloss) : List Gloss :=
  (a.union.glosses (a.key g.form)).filter fun e => e.CompatibleWith g

/-- What a morpheme stands for among others: its compatible entries or, if it is resolved or has
none, itself. -/
def alternatives (m : Gloss) : List Gloss :=
  if m.isResolved = true ∨ a.compatibleEntries m = [] then [m] else a.compatibleEntries m

theorem entries_eq_compatibleEntries (g : Gloss) : a.entries g = a.compatibleEntries g := by
  rw [entries, compatibleEntries]
  refine List.filter_congr fun e _ => ?_
  rw [Bool.eq_iff_iff, decide_eq_true_iff, Gloss.satisfies_iff_compatibleWith]

theorem readings_eq_alternatives : a.readings = a.alternatives := by
  funext m
  rw [readings, alternatives, entries_eq_compatibleEntries]
  by_cases hm : m.isResolved = true
  · rw [if_pos hm, if_pos (Or.inl hm)]
  · by_cases hnil : a.compatibleEntries m = []
    · simp [hm, hnil]
    · simp [hm, hnil]

theorem alternatives_ne_nil (m : Gloss) : a.alternatives m ≠ [] := by
  rw [alternatives]
  split
  · simp
  next h => exact fun hnil => h (Or.inr hnil)

/-- **Looking up.** A candidate without morphemes stands for its compatible entries. One with
morphemes stands for the combinations of what these stand for, each once and in ascending order of
the places, so that the first morpheme varies slowest. There is at least one combination, and there
are as many as the product of the numbers of alternatives. -/
theorem lookup_entries_or_combinations {g : Gloss} (hg : g.isResolved = false) :
    (g.morphemes = [] → a.lookup g = a.compatibleEntries g) ∧
    (g.morphemes ≠ [] →
      (∃ places : List (List Nat), places.Pairwise (· < ·) ∧
        (∀ p, p ∈ places ↔ (chosenAt? (g.morphemes.map a.alternatives) p).isSome) ∧
        (a.lookup g).map some = places.map fun p =>
          (chosenAt? (g.morphemes.map a.alternatives) p).map g.withMorphemes) ∧
      a.lookup g ≠ [] ∧
      (a.lookup g).length = (g.morphemes.map fun m => (a.alternatives m).length).prod) := by
  have hunresolved : ¬ g.isResolved = true := by simp [hg]
  refine ⟨fun hnil => ?_, fun hne => ?_⟩
  · rw [lookup, if_neg hunresolved, if_pos (by simp [hnil]), entries_eq_compatibleEntries]
  · have hlookup : a.lookup g
        = (choices (g.morphemes.map a.alternatives)).map g.withMorphemes := by
      rw [a.lookup_eq_choices hne, readings_eq_alternatives]
    -- A morpheme without alternatives would leave no combination of the others.
    have hfilled : ∀ xs ∈ g.morphemes.map a.alternatives, xs ≠ [] := by
      intro xs hxs
      obtain ⟨m, -, rfl⟩ := List.mem_map.1 hxs
      exact a.alternatives_ne_nil m
    generalize hfactors : g.morphemes.map a.alternatives = factors at hlookup hfilled
    have hlength : (a.lookup g).length
        = (g.morphemes.map fun m => (a.alternatives m).length).prod := by
      rw [hlookup, List.length_map, length_choices, ← hfactors, List.map_map]
      rfl
    refine ⟨⟨choicePlaces factors, pairwise_choicePlaces factors, fun _ => mem_choicePlaces, ?_⟩,
      ?_, hlength⟩
    · have hmap := congrArg (List.map (Option.map g.withMorphemes))
        (map_chosenAt?_choicePlaces factors)
      rw [List.map_map, List.map_map] at hmap
      rw [hlookup, List.map_map]
      exact hmap.symm
    · rw [hlookup]
      exact mt List.map_eq_nil_iff.1 (choices_ne_nil hfilled)

/-- A composite word with an ambiguous stem, a stem that is not found, an ending that has a meaning
already, and a stem that is ambiguous but for its tags. -/
def necklace : Gloss :=
  ⟨"kankanxwkan", .empty, "", [.ofForm "kàn", .ofForm "kanx", ⟨"w", .ofList ["mrph"], "PL", []⟩,
    ⟨"kan", .ofList ["v"], "", []⟩]⟩

theorem lookup_necklace :
    let a : Analyzer := ⟨necks, [], true⟩
    necklace.isResolved = false ∧ necklace.morphemes ≠ [] ∧
      (Gloss.ofForm "kàn").isResolved = false ∧ (Gloss.ofForm "kàn").morphemes = [] ∧
      a.lookup (.ofForm "kàn") = necks.glosses "kan" ∧
      (a.lookup necklace).length = 4 * 1 * 1 * 2 := by
  intro a
  have hnecklace : necklace.isResolved = false := by decide
  have hne : necklace.morphemes ≠ [] := by decide
  have hword : (Gloss.ofForm "kàn").isResolved = false := by decide
  have hentries := (lookup_entries_or_combinations a hword).1 rfl
  obtain ⟨-, -, hlength⟩ := (lookup_entries_or_combinations a hnecklace).2 hne
  refine ⟨hnecklace, hne, hword, rfl, hentries.trans ?_, hlength.trans ?_⟩
  · decide +kernel
  · decide +kernel

end Analyzer

end Interlinear
