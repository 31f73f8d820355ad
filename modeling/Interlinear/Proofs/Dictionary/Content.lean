import Interlinear.Proofs.Dictionary.RoundTrip
import Mathlib.Data.Finset.Card

set_option autoImplicit false

/-! # What a dictionary lists and finds

What a builder inserts is a list of pairs. The dictionary built of them is their ordered multimap
(`Dictionary.IsMultimapOf`): it lists every key once, in ascending order, with the glosses inserted
under it in the order in which they came, and it finds what it lists. It is built unless the end mark
of an index stands in a key (`Builder.build_isMultimapOf_pairs`).

An index numbers the keys, and the glosses of a key stand at its number. That numbers and places
agree is part of the statement (`Dictionary.IsMultimapOf.numbered`). -/

namespace Interlinear

/-! ## Ordered multimaps -/

namespace Dictionary

/-- The keys, as they are listed. -/
def keys (d : Dictionary) : List String := d.entries.map (·.1)

/-- A dictionary is the ordered multimap of some pairs of a key and a gloss. -/
structure IsMultimapOf (d : Dictionary) (pairs : List (String × Gloss)) : Prop where
  /-- The keys ascend, so each is listed once. -/
  ascending : d.keys.Pairwise (· < ·)
  mem_keys : ∀ key, key ∈ d.keys ↔ ∃ g, (key, g) ∈ pairs
  glosses : ∀ e ∈ d.entries, e.2 = glossesUnder pairs e.1
  given : ∀ e ∈ d.entries, e.2 ≠ []
  size : d.size = (pairs.map (·.1)).toFinset.card
  /-- There is an index if there are keys. -/
  indexed : d.index.isSome ↔ d.keys ≠ []
  /-- What is found is what stands at the number of a key. -/
  numbered : ∀ form, d.find? form = (Index.ofRecords d.records (d.entries.map (·.2))).find? form
  contains : ∀ form, Index.Unmarked form → (d.contains form = true ↔ form ∈ d.keys)
  lookup : ∀ e ∈ d.entries, d.lookup e.1 = .ok e.2
  notFound : ∀ form, Index.Unmarked form → form ∉ d.keys →
    d.lookup form = .error (.notFound form)

end Dictionary

/-- Nothing is found among no keys. -/
theorem Index.find?_empty (form : String) : (∅ : Index).find? form = none := by
  have hnone : ∀ key : String, (∅ : Index)[key]? = none := fun key => Std.TreeMap.getElem?_emptyc
  rw [find?, hnone]
  cases unmarked? form with
  | none => rfl
  | some key => exact hnone key

/-! ## Dictionaries that are built -/

namespace Builder

variable {b : Builder}

/-- A key that has pairs is listed, with the glosses of all of them. -/
theorem mem_entries_dictionary {e : String × List Gloss} :
    e ∈ b.dictionary.entries ↔
      e.2 = glossesUnder b.pairs.toList e.1 ∧ glossesUnder b.pairs.toList e.1 ≠ [] := by
  show e ∈ b.index.toList ↔ _
  rw [Std.TreeMap.mem_toList_iff_getElem?_eq_some, index, getElem?_foldl_addTo]
  exact some?_eq_some_iff

theorem keys_dictionary : b.dictionary.keys = b.index.keys := Std.TreeMap.map_fst_toList_eq_keys

theorem mem_keys_dictionary {key : String} :
    key ∈ b.dictionary.keys ↔ ∃ g, (key, g) ∈ b.pairs.toList := by
  rw [keys_dictionary]
  exact mem_keys_index

theorem isEmpty_pairs_iff : b.pairs.isEmpty = true ↔ b.dictionary.keys = [] := by
  rw [List.eq_nil_iff_forall_not_mem]
  constructor
  · intro hempty key hkey
    obtain ⟨g, hpair⟩ := mem_keys_dictionary.1 hkey
    have hnil : b.pairs.toList = [] := by simpa using hempty
    rw [hnil] at hpair
    exact List.not_mem_nil hpair
  · intro hnone
    by_contra hne
    obtain ⟨pair, hpair⟩ := List.exists_mem_of_ne_nil b.pairs.toList (by simpa using hne)
    exact hnone pair.1 (mem_keys_dictionary.2 ⟨pair.2, hpair⟩)

/-- The numbers of the keys lead to their glosses, also where there is no index. -/
theorem find?_eq_ofRecords (form : String) :
    b.dictionary.find? form = (Index.ofRecords b.dictionary.records
      (b.dictionary.entries.map (·.2))).find? form := by
  rw [Dictionary.records, Index.ofRecords_zipIdx, Dictionary.find?]
  show (if b.pairs.isEmpty then none else some b.index).bind (·.find? form) = _
  by_cases hempty : b.pairs.isEmpty = true
  · have hentries : b.dictionary.entries = [] :=
      List.map_eq_nil_iff.1 (isEmpty_pairs_iff.1 hempty)
    rw [if_pos hempty, hentries, Option.bind_none]
    exact (Index.find?_empty form).symm
  · rw [if_neg hempty, Option.bind_some]
    exact (Index.find?_congr (Index.equiv_ofList_toList b.index) form).symm

theorem isMultimapOf_dictionary (h : ∀ pair ∈ b.pairs.toList, Index.Unmarked pair.1) :
    b.dictionary.IsMultimapOf b.pairs.toList where
  ascending := by
    rw [keys_dictionary]
    exact b.index.ascending_keys
  mem_keys key := mem_keys_dictionary
  glosses e he := (mem_entries_dictionary.1 he).1
  given e he := by
    obtain ⟨heq, hne⟩ := mem_entries_dictionary.1 he
    rwa [heq]
  size := by
    have hnodup : b.dictionary.keys.Nodup := by
      rw [keys_dictionary]
      exact b.index.ascending_keys.imp String.ne_of_lt
    have hsame : (b.pairs.toList.map (·.1)).toFinset = b.dictionary.keys.toFinset := by
      ext key
      rw [List.mem_toFinset, List.mem_toFinset, mem_keys_dictionary]
      simp
    rw [hsame, List.toFinset_card_of_nodup hnodup, Dictionary.keys, List.length_map]
    rfl
  indexed := by
    show (if b.pairs.isEmpty then none else some b.index).isSome ↔ _
    rw [ne_eq, ← isEmpty_pairs_iff]
    split
    next hempty => simp [hempty]
    next hempty => simp [hempty]
  numbered := find?_eq_ofRecords
  contains form hform := by
    rw [Dictionary.contains, find?_dictionary b hform, isSome_some?, mem_keys_dictionary,
      ← glossesUnder_ne_nil_iff, Bool.not_eq_true', List.isEmpty_eq_false_iff, glossesOf]
  lookup e he := by
    obtain ⟨heq, hne⟩ := mem_entries_dictionary.1 he
    obtain ⟨g, hpair⟩ := glossesUnder_ne_nil_iff.1 hne
    have hkey : Index.Unmarked e.1 := h _ hpair
    rw [Dictionary.lookup, find?_dictionary b hkey, glossesOf, some?_eq_some_iff.2 ⟨heq, hne⟩]
  notFound form hform hkey := by
    rw [mem_keys_dictionary, ← glossesUnder_ne_nil_iff, ne_eq, not_not] at hkey
    rw [Dictionary.lookup, find?_dictionary b hform, glossesOf, hkey]
    rfl

/-! ## Calls -/

namespace Call

/-- The key that a call is given. -/
def key? : Call → Option String
  | .insert key _ | .insertToneless key _ => some key
  | .setLang _ | .setName _ | .setVer _ => none

theorem mem_pairOf {key : String} {gloss : Gloss} {pair : String × Gloss} :
    pair ∈ pairOf key gloss ↔ key ≠ "" ∧ pair = (key, gloss) := by
  rw [pairOf]
  by_cases hkey : key = ""
  · subst hkey
    simp
  · have hempty : ¬ key.isEmpty = true := fun h => hkey (String.isEmpty_iff.1 h)
    rw [if_neg hempty, List.mem_singleton]
    exact ⟨fun h => ⟨hkey, h⟩, fun h => h.2⟩

/-- A call inserts a key with the end mark only if it is given one: leaving out tone marks does not
bring in the end mark. -/
theorem unmarked_pairs_iff (c : Call) :
    (∀ pair ∈ c.pairs, Index.Unmarked pair.1) ↔
      ∀ key ∈ c.key?, key ≠ "" → Index.Unmarked key := by
  cases c with
  | setLang | setName | setVer => simp [pairs, key?]
  | insert key gloss =>
      simp only [pairs, mem_pairOf, key?, Option.mem_def, Option.some.injEq, forall_eq', and_imp]
      exact ⟨fun h hne => h (key, gloss) hne rfl, fun h pair hne hpair => hpair ▸ h hne⟩
  | insertToneless key gloss =>
      simp only [pairs, key?, Option.mem_def, Option.some.injEq, forall_eq', List.mem_append,
        mem_pairOf]
      constructor
      · intro h hne
        exact h (key, gloss) (.inr ⟨hne, rfl⟩)
      · rintro h pair (halias | ⟨hne, rfl⟩)
        · -- The key is not empty where its alias is not.
          have hmem : pair ∈ pairOf (Text.toneless key) gloss := by
            by_cases hsame : Text.toneless key = key
            · rw [if_pos hsame] at halias
              exact absurd halias List.not_mem_nil
            · rwa [if_neg hsame] at halias
          obtain ⟨hne, rfl⟩ := mem_pairOf.1 hmem
          refine (h ?_).toneless
          rintro rfl
          exact hne rfl
        · exact h hne

end Call

theorem unmarked_ofCalls_iff (calls : List Call) :
    (∀ pair ∈ (ofCalls calls).pairs.toList, Index.Unmarked pair.1) ↔
      ∀ c ∈ calls, ∀ key ∈ c.key?, key ≠ "" → Index.Unmarked key := by
  simp only [pairs_ofCalls, List.mem_flatMap, ← Call.unmarked_pairs_iff]
  exact ⟨fun h c hc pair hpair => h pair ⟨c, hc, hpair⟩,
    fun h pair ⟨c, hc, hpair⟩ => h c hc pair hpair⟩

/-- **Building keeps what is inserted.** Whatever calls a builder is used by, it builds a dictionary
just if no key but the empty one is given with the end mark of an index, and then the dictionary is
the ordered multimap of what the calls insert. -/
theorem build_isMultimapOf_pairs (calls : List Call) :
    ((∃ d, (ofCalls calls).build = .ok d) ↔
      ∀ c ∈ calls, ∀ key ∈ c.key?, key ≠ "" → Index.Unmarked key) ∧
    ∀ d, (ofCalls calls).build = .ok d → d.IsMultimapOf (calls.flatMap Call.pairs) := by
  constructor
  · rw [← unmarked_ofCalls_iff]
    constructor
    · rintro ⟨d, hd⟩
      exact (of_build_eq_ok hd).2
    · intro h
      exact ⟨_, build_eq_ok h⟩
  · intro d hd
    obtain ⟨rfl, hunmarked⟩ := of_build_eq_ok hd
    rw [← pairs_ofCalls]
    exact isMultimapOf_dictionary hunmarked

/-- A dictionary in which two words have one alias, and where an empty key is left out. -/
theorem build_isMultimapOf_pairs_goats :
    ∃ d, (ofCalls [.insertToneless "b\u0301a" ⟨"b\u0301a", .ofList ["n"], "goat", []⟩,
          .insert "" ⟨"", .ofList ["x"], "nothing", []⟩,
          .insertToneless "b\u0300a" ⟨"b\u0300a", .ofList ["n"], "river", []⟩]).build = .ok d ∧
      d.IsMultimapOf
        [("ba", ⟨"b\u0301a", .ofList ["n"], "goat", []⟩),
          ("b\u0301a", ⟨"b\u0301a", .ofList ["n"], "goat", []⟩),
          ("ba", ⟨"b\u0300a", .ofList ["n"], "river", []⟩),
          ("b\u0300a", ⟨"b\u0300a", .ofList ["n"], "river", []⟩)] := by
  obtain ⟨hbuilds, hmultimap⟩ := build_isMultimapOf_pairs
    [.insertToneless "b\u0301a" ⟨"b\u0301a", .ofList ["n"], "goat", []⟩,
      .insert "" ⟨"", .ofList ["x"], "nothing", []⟩,
      .insertToneless "b\u0300a" ⟨"b\u0300a", .ofList ["n"], "river", []⟩]
  obtain ⟨d, hd⟩ := hbuilds.2 (by decide)
  refine ⟨d, hd, ?_⟩
  have hpairs := hmultimap d hd
  have hgoat : Text.toneless "b\u0301a" = "ba" := by decide +kernel
  have hriver : Text.toneless "b\u0300a" = "ba" := by decide +kernel
  simpa [Call.pairs, Call.pairOf, hgoat, hriver] using hpairs

end Builder

end Interlinear
