import Interlinear.Proofs.Analysis.Agreement

set_option autoImplicit false

/-! # Merging dictionaries

Instead of two dictionaries that are searched together, one may build a single dictionary from the
calls for the first and then those for the second: it lists the same glosses under each key, in the
same order (`glossesOf_append`). Nothing that looks words up can tell the difference
(`indistinguishable_of_append`). -/

namespace Interlinear

namespace Union

/-- The union of a single dictionary. -/
def single (d : Dictionary) : Union := ⟨⟨[(d.fingerprint, d)], by simp⟩⟩

/-- The union of two dictionaries. -/
def pair (a b : Dictionary) (h : a.fingerprint ≠ b.fingerprint) : Union :=
  ⟨⟨[(a.fingerprint, a), (b.fingerprint, b)], by simpa using h⟩⟩

theorem ofList_singleton (d : Dictionary) : ofList [d] = single d := rfl

theorem ofList_pair {a b : Dictionary} (h : a.fingerprint ≠ b.fingerprint) :
    ofList [a, b] = pair a b h := by
  have hnew : b.fingerprint ∉ (single a).catalog.keys := by
    simpa [single, OrderedMap.keys] using h.symm
  show add (single a) b = _
  rw [add, OrderedMap.insert, dif_neg hnew]
  rfl

end Union

namespace Builder

variable {as bs : List Call}

theorem build_ofCalls (h : ∀ c ∈ as, c.Unmarked) :
    (ofCalls as).build = .ok (ofCalls as).dictionary := by
  refine build_eq_ok fun pair hpair => ?_
  rw [pairs_ofCalls] at hpair
  obtain ⟨c, hc, hpair⟩ := List.mem_flatMap.1 hpair
  exact (Call.unmarked_of_mem_pairs (h c hc) hpair).1

theorem unmarked_of_mem_glossesOf (h : ∀ c ∈ as, c.Unmarked) {key : String} {g : Gloss}
    (hg : g ∈ (ofCalls as).glossesOf key) : g.Unmarked := by
  have hmem := mem_glossesUnder.1 hg
  rw [pairs_ofCalls] at hmem
  obtain ⟨c, hc, hmem⟩ := List.mem_flatMap.1 hmem
  exact (Call.unmarked_of_mem_pairs (h c hc) hmem).2

/-- The glosses of a key in a union of two dictionaries: those of the first, then those of the
second. -/
theorem glosses_pair (as bs : List Call) {h} {key : String} (hkey : Index.Unmarked key) :
    (Union.pair (ofCalls as).dictionary (ofCalls bs).dictionary h).glosses key
      = (ofCalls as).glossesOf key ++ (ofCalls bs).glossesOf key := by
  show List.flatMap _ [(ofCalls as).dictionary, (ofCalls bs).dictionary] = _
  rw [List.flatMap_cons, List.flatMap_singleton, find?_dictionary _ hkey,
    find?_dictionary _ hkey, getD_some?, getD_some?]

theorem glosses_single (as : List Call) {key : String} (hkey : Index.Unmarked key) :
    (Union.single (ofCalls as).dictionary).glosses key = (ofCalls as).glossesOf key := by
  show List.flatMap _ [(ofCalls as).dictionary] = _
  rw [List.flatMap_singleton, find?_dictionary _ hkey, getD_some?]

theorem agrees_of_append (as bs : List Call) {h} :
    Union.Agrees (.pair (ofCalls as).dictionary (ofCalls bs).dictionary h)
      (.single (ofCalls (as ++ bs)).dictionary) where
  glosses {key} hkey :=
    calc (Union.pair (ofCalls as).dictionary (ofCalls bs).dictionary h).glosses key
        = (ofCalls as).glossesOf key ++ (ofCalls bs).glossesOf key := glosses_pair as bs hkey
      _ = (ofCalls (as ++ bs)).glossesOf key := (glossesOf_append as bs key).symm
      _ = (Union.single (ofCalls (as ++ bs)).dictionary).glosses key :=
        (glosses_single (as ++ bs) hkey).symm
  contains {key} hkey := by
    -- A dictionary has a key if it lists a gloss under it.
    have hcontains : ∀ cs, (ofCalls cs).dictionary.contains key
        = !((ofCalls cs).glossesOf key).isEmpty := by
      intro cs
      rw [Dictionary.contains, find?_dictionary _ hkey, isSome_some?]
    show List.any [(ofCalls as).dictionary, (ofCalls bs).dictionary] _
      = List.any [(ofCalls (as ++ bs)).dictionary] _
    rw [List.any_cons, List.any_cons, List.any_nil, List.any_cons, List.any_nil, Bool.or_false,
      Bool.or_false, hcontains, hcontains, hcontains, glossesOf_append]
    cases (ofCalls as).glossesOf key with
    | nil => rfl
    | cons g gs => rfl

/-- **Merging is transparent.** Whatever calls two dictionaries are built from, a union of the two
cannot be told apart from a single dictionary built from all of the calls, unless the two have the
same fingerprint. -/
theorem indistinguishable_of_append (as bs : List Call) (has : ∀ c ∈ as, c.Unmarked)
    (hbs : ∀ c ∈ bs, c.Unmarked) :
    ∃ a b c, (ofCalls as).build = .ok a ∧ (ofCalls bs).build = .ok b ∧
      (ofCalls (as ++ bs)).build = .ok c ∧
      (a.fingerprint ≠ b.fingerprint →
        (Union.ofList [a, b]).Indistinguishable (Union.ofList [c])) := by
  have hall : ∀ c ∈ as ++ bs, c.Unmarked := List.forall_mem_append.2 ⟨has, hbs⟩
  refine ⟨_, _, _, build_ofCalls has, build_ofCalls hbs, build_ofCalls hall, fun hne => ?_⟩
  rw [Union.ofList_pair hne, Union.ofList_singleton]
  refine (agrees_of_append as bs).indistinguishable ?_
  intro key hkey g hg
  rw [glosses_pair as bs hkey] at hg
  rcases List.mem_append.1 hg with hg | hg
  · exact unmarked_of_mem_glossesOf has hg
  · exact unmarked_of_mem_glossesOf hbs hg

/-- Calls for a dictionary of nouns. -/
def nouns : List Call :=
  [.setName "nouns", .insertToneless "b\u0301a" ⟨"b\u0301a", .ofList ["n"], "goat", []⟩]

/-- Calls for a dictionary of verbs. -/
def verbs : List Call :=
  [.setName "verbs", .insert "ba" ⟨"ba", .ofList ["v"], "come", []⟩]

theorem indistinguishable_nouns_verbs :
    ∃ a b c, (ofCalls nouns).build = .ok a ∧ (ofCalls verbs).build = .ok b ∧
      (ofCalls (nouns ++ verbs)).build = .ok c ∧
      (Union.ofList [a, b]).Indistinguishable (Union.ofList [c]) := by
  obtain ⟨a, b, c, ha, hb, hc, h⟩ := indistinguishable_of_append nouns verbs
    (by decide) (by decide)
  have hne : a.fingerprint ≠ b.fingerprint := by
    rw [build_ofCalls (by decide)] at ha hb
    obtain rfl := Except.ok.inj ha
    obtain rfl := Except.ok.inj hb
    decide +kernel
  exact ⟨a, b, c, ha, hb, hc, h hne⟩

end Builder

end Interlinear
