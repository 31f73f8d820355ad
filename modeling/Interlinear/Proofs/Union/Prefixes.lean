import Interlinear.Dictionary.Builder
import Interlinear.Union

set_option autoImplicit false

/-! # The keys that a text begins with

A dictionary finds the keys that a text begins with by a walk through its index, and a union merges
what its members find. What comes of it is told by one question that does not know of walks and
members: whether a text is contained (`ListsKeys`). -/

namespace Interlinear

theorem byteLength_lt_of_proper_prefix {p q : List Char} (h : p <+: q) (hne : p ≠ q) :
    Text.byteLength (String.ofList p) < Text.byteLength (String.ofList q) := by
  obtain ⟨r, rfl⟩ := h
  have hr : String.ofList r ≠ "" := by
    intro hr
    rw [String.ofList_eq_empty_iff.1 hr, List.append_nil] at hne
    exact hne rfl
  have hpos := Text.byteLength_pos hr
  rw [Text.byteLength_ofList_append]
  omega

/-- The beginnings of a text that are contained are listed, but for the empty one. -/
structure ListsKeys (contains : String → Bool) (form : String) (keys : List String) : Prop where
  mem_iff : ∀ key, key ∈ keys ↔ key ≠ "" ∧ key.toList <+: form.toList ∧ contains key = true
  /-- The keys become longer, so each is listed once. -/
  ascending : keys.Pairwise fun a b => Text.byteLength a < Text.byteLength b

theorem listsKeys_filter (contains : String → Bool) (form : String) :
    ListsKeys contains form
      (((beginnings form.toList).map String.ofList).filter contains) where
  mem_iff key := by
    rw [List.mem_filter, mem_map_beginnings, and_assoc, ne_eq, String.toList_eq_nil_iff]
  ascending := by
    refine List.Pairwise.filter _ (List.pairwise_map.2 ((pairwise_beginnings _).imp ?_))
    rintro p q ⟨hpq, hne⟩
    exact byteLength_lt_of_proper_prefix hpq hne

namespace Union

/-- The keys that a text begins with are listed by length. -/
theorem pairwise_prefixes (u : Union) (form : String) :
    (u.prefixes form).Pairwise fun a b => Text.byteLength a < Text.byteLength b := by
  rw [prefixes_eq_filter]
  exact (listsKeys_filter u.contains form).ascending

/-- **Prefix search agrees with lookup.** If the walks through indexes stop just where a key is
found, the text can be cut wherever they stop, and what is cut out are exactly the beginnings of the
text that are contained, each once and shorter ones first. This holds of a dictionary, and of a
union although its members are searched one by one. -/
theorem prefixes_list_keys_of_exact {w : IndexWalk} (hw : w.Exact) :
    (∀ (d : Dictionary) (form : String), d.prefixes? w form = some (d.prefixes form) ∧
      ListsKeys d.contains form (d.prefixes form)) ∧
    ∀ (u : Union) (form : String), u.prefixes? w form = some (u.prefixes form) ∧
      ListsKeys u.contains form (u.prefixes form) := by
  constructor
  · intro d form
    have hkeys := d.prefixes_eq_filter form
    have hlists := listsKeys_filter d.contains form
    refine ⟨?_, ?_⟩
    · rw [Dictionary.prefixes?_eq_some hw, hkeys]
    · rw [hkeys]
      exact hlists
  · intro u form
    have hkeys := u.prefixes_eq_filter form
    have hlists := listsKeys_filter u.contains form
    refine ⟨?_, ?_⟩
    · rw [prefixes?_eq_some hw, ← prefixes_eq]
    · rw [hkeys]
      exact hlists

/-- A union of two dictionaries whose keys overlap, in a script with characters of several bytes. -/
def jars : Union :=
  let gloss : Gloss := ⟨"kɛra", .ofList ["n"], "jar", []⟩
  let dictionaries := [["k", "kɛra"], ["kɛ", "kɛra"]].map fun keys =>
    (keys.foldl (·.insert · gloss) Builder.empty).build.toOption.toList
  .ofList dictionaries.flatten

theorem prefixes_list_keys_jars :
    ∃ keys, jars.prefixes? .plain "kɛrako" = some keys ∧ "kɛ" ∈ keys ∧ "kɛra" ∈ keys ∧
      "kɛr" ∉ keys ∧ keys.Pairwise fun a b => Text.byteLength a < Text.byteLength b := by
  obtain ⟨-, hunion⟩ := prefixes_list_keys_of_exact IndexWalk.exact_plain
  obtain ⟨hkeys, hmem, hascending⟩ := hunion jars "kɛrako"
  refine ⟨_, hkeys, (hmem _).2 ?_, (hmem _).2 ?_, fun h => ?_, hascending⟩
  · decide +kernel
  · decide +kernel
  · have hkey := ((hmem _).1 h).2.2
    exact absurd hkey (by decide +kernel)

end Union

end Interlinear
