import Interlinear.Proofs.Dictionary.Content
import Interlinear.Proofs.FirstOccurrences
import Interlinear.Proofs.Union.Members

set_option autoImplicit false

/-! # What a union lists

A union lists the keys of its members, and each key that it lists it finds, with the same glosses.
Listing goes by the entries of the members and finding by their indexes. That the two agree, and
that no glosses are as good as no key, holds of members that were made from pairs
(`Union.entries_first_keys_with_lookup`). -/

namespace Interlinear

/-! ## What a dictionary finds -/

/-- No text is found without glosses, not even one that is closed with the end mark. -/
theorem Builder.ne_nil_of_find?_dictionary {b : Builder} {form : String} {glosses : List Gloss}
    (h : b.dictionary.find? form = some glosses) : glosses ≠ [] := by
  obtain ⟨key, hkey⟩ := exists_key_of_find?_dictionary h
  rw [index, getElem?_foldl_addTo, some?_eq_some_iff] at hkey
  rw [hkey.1]
  exact hkey.2

namespace Dictionary

variable {d : Dictionary}

theorem Made.exists_isMultimapOf (h : d.Made) :
    ∃ pairs, d.IsMultimapOf pairs ∧ ∀ pair ∈ pairs, Index.Unmarked pair.1 := by
  obtain ⟨b, hb⟩ := h.exists_build
  obtain ⟨rfl, hunmarked⟩ := Builder.of_build_eq_ok hb
  exact ⟨_, Builder.isMultimapOf_dictionary hunmarked, hunmarked⟩

theorem Made.ascending (h : d.Made) : d.keys.Pairwise (· < ·) := by
  obtain ⟨pairs, hpairs, -⟩ := h.exists_isMultimapOf
  exact hpairs.ascending

/-- The keys are the texts without an end mark that are found. -/
theorem Made.mem_keys_iff (h : d.Made) {key : String} :
    key ∈ d.keys ↔ Index.Unmarked key ∧ d.contains key = true := by
  obtain ⟨pairs, hpairs, hunmarked⟩ := h.exists_isMultimapOf
  constructor
  · intro hkey
    obtain ⟨g, hpair⟩ := (hpairs.mem_keys key).1 hkey
    have hmark : Index.Unmarked key := hunmarked _ hpair
    exact ⟨hmark, (hpairs.contains key hmark).2 hkey⟩
  · rintro ⟨hmark, hfound⟩
    exact (hpairs.contains key hmark).1 hfound

theorem Made.ne_nil_of_find? (h : d.Made) {form : String} {glosses : List Gloss}
    (hfind : d.find? form = some glosses) : glosses ≠ [] := by
  obtain ⟨b, hb⟩ := h.exists_build
  obtain ⟨rfl, -⟩ := Builder.of_build_eq_ok hb
  exact Builder.ne_nil_of_find?_dictionary hfind

end Dictionary

namespace Union

variable {u : Union}

/-! ## What a union finds -/

/-- The members that have no glosses for a key add nothing to those that have. -/
theorem glosses_eq_flatten (u : Union) (key : String) :
    u.glosses key = (u.members.filterMap (·.find? key)).flatten := by
  rw [glosses]
  induction u.members with
  | nil => rfl
  | cons m ms ih =>
      rw [List.flatMap_cons, List.filterMap_cons, ih]
      cases m.find? key with
      | none => rfl
      | some glosses => rfl

/-- A union has glosses for the texts that it contains. -/
theorem glosses_ne_nil_iff (h : ∀ d ∈ u.members, d.Made) {key : String} :
    u.glosses key ≠ [] ↔ u.contains key = true := by
  rw [glosses_eq_flatten, contains_iff]
  constructor
  · intro hne
    obtain ⟨g, hg⟩ := List.exists_mem_of_ne_nil _ hne
    obtain ⟨glosses, hglosses, -⟩ := List.mem_flatten.1 hg
    obtain ⟨d, hd, hfind⟩ := List.mem_filterMap.1 hglosses
    exact ⟨d, hd, Option.isSome_of_eq_some hfind⟩
  · rintro ⟨d, hd, hfound⟩
    obtain ⟨glosses, hfind⟩ := Option.isSome_iff_exists.1 hfound
    obtain ⟨g, hg⟩ := List.exists_mem_of_ne_nil _ ((h d hd).ne_nil_of_find? hfind)
    refine List.ne_nil_of_mem (List.mem_flatten.2 ⟨glosses, ?_, hg⟩)
    exact List.mem_filterMap.2 ⟨d, hd, hfind⟩

theorem lookup_eq_ok_iff {key : String} {glosses : List Gloss} :
    u.lookup key = .ok glosses ↔ glosses = u.glosses key ∧ u.glosses key ≠ [] := by
  rw [lookup]
  cases u.glosses key with
  | nil => simp
  | cons g gs =>
      constructor
      · intro h
        exact ⟨(Except.ok.inj h).symm, by simp⟩
      · rintro ⟨rfl, -⟩
        rfl

/-! ## What a union lists -/

theorem keys_entries (u : Union) :
    u.entries.map (·.1) = (u.members.flatMap Dictionary.keys).eraseDups := by
  rw [entries, List.map_map]
  exact List.map_id' _

theorem mem_keys_entries (u : Union) {key : String} :
    key ∈ u.entries.map (·.1) ↔ ∃ d ∈ u.members, key ∈ d.keys := by
  rw [keys_entries, List.mem_eraseDups, List.mem_flatMap]

/-- **A union lists what it finds.** Of members that were made, it lists each key once, in the order
in which the keys come first: the members one after the other, and the keys of each in ascending
order. These are the texts without an end mark that it contains, and each stands with the glosses
that it is looked up with. A text can be looked up just if it is contained. -/
theorem entries_first_keys_with_lookup (h : ∀ d ∈ u.members, d.Made) :
    (∀ d ∈ u.members, d.keys.Pairwise (· < ·)) ∧
    FirstOccurrences (u.members.flatMap Dictionary.keys) (u.entries.map (·.1)) ∧
    (∀ key, key ∈ u.entries.map (·.1) ↔ Index.Unmarked key ∧ u.contains key = true) ∧
    (∀ e ∈ u.entries, u.lookup e.1 = .ok e.2) ∧
    ∀ key, u.contains key = true ↔ ∃ glosses, u.lookup key = .ok glosses := by
  have hkeys : ∀ key, key ∈ u.entries.map (·.1) ↔
      Index.Unmarked key ∧ u.contains key = true := by
    intro key
    rw [mem_keys_entries, contains_iff]
    constructor
    · rintro ⟨d, hd, hkey⟩
      obtain ⟨hmark, hfound⟩ := (h d hd).mem_keys_iff.1 hkey
      exact ⟨hmark, d, hd, hfound⟩
    · rintro ⟨hmark, d, hd, hfound⟩
      exact ⟨d, hd, (h d hd).mem_keys_iff.2 ⟨hmark, hfound⟩⟩
  refine ⟨fun d hd => (h d hd).ascending, ?_, hkeys, ?_, ?_⟩
  · rw [keys_entries]
    exact firstOccurrences_eraseDups _
  · intro e he
    have hfound : u.contains e.1 = true := ((hkeys e.1).1 (List.mem_map_of_mem he)).2
    have hglosses : e.2 = u.glosses e.1 := by
      obtain ⟨key, -, rfl⟩ := List.mem_map.1 he
      exact (u.glosses_eq_flatten key).symm
    exact lookup_eq_ok_iff.2 ⟨hglosses, (glosses_ne_nil_iff h).2 hfound⟩
  · intro key
    rw [← glosses_ne_nil_iff h]
    constructor
    · intro hne
      exact ⟨u.glosses key, lookup_eq_ok_iff.2 ⟨rfl, hne⟩⟩
    · rintro ⟨glosses, hlookup⟩
      exact (lookup_eq_ok_iff.1 hlookup).2

/-- A dictionary of nouns. -/
def nounList : Builder :=
  (Builder.empty.insert "so" ⟨"so", .ofList ["n"], "house", []⟩).insert "kan"
    ⟨"kan", .ofList ["n"], "neck", []⟩

/-- A dictionary of verbs, with a key that the nouns have, too. -/
def verbList : Builder :=
  (Builder.empty.insert "di" ⟨"di", .ofList ["v"], "give", []⟩).insert "kan"
    ⟨"kan", .ofList ["v"], "speak", []⟩

theorem entries_first_keys_kan :
    ∃ a b, nounList.build = .ok a ∧ verbList.build = .ok b ∧
      (∀ d ∈ (ofList [a, b]).members, d.Made) ∧
      (ofList [a, b]).entries.map (·.1) = ["kan", "so", "di"] ∧
      ∀ e ∈ (ofList [a, b]).entries, (ofList [a, b]).lookup e.1 = .ok e.2 := by
  have hnouns : nounList.build = .ok nounList.dictionary := if_neg (by decide +kernel)
  have hverbs : verbList.build = .ok verbList.dictionary := if_neg (by decide +kernel)
  have hmade : ∀ d ∈ (ofList [nounList.dictionary, verbList.dictionary]).members, d.Made := by
    intro d hd
    rcases List.mem_cons.1 (mem_of_mem_members_ofList hd) with rfl | hd
    · exact .built hnouns
    · obtain rfl := List.mem_singleton.1 hd
      exact .built hverbs
  obtain ⟨-, -, -, hlookup, -⟩ := entries_first_keys_with_lookup hmade
  exact ⟨_, _, hnouns, hverbs, hmade, by decide +kernel, hlookup⟩

end Union

end Interlinear
