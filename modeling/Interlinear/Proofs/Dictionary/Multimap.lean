import Interlinear.Dictionary.Builder
import Interlinear.Proofs.Text.Decomposition
import Mathlib.Data.List.Induction
import Std.Data.TreeMap.Lemmas

set_option autoImplicit false

/-! # Dictionaries as multimaps

A builder is used by calls (`Builder.Call`), each of which inserts some pairs. The dictionary built
is the multimap of all pairs: it has the keys that were inserted, and under each key the glosses
inserted under it, in the order of the calls (`Builder.find?_dictionary`). -/

namespace Interlinear

/-! ## Texts without the end mark -/

/-- A text that does not hold the end mark of an index. -/
def Index.Unmarked (s : String) : Prop := endMark ∉ s.toList

namespace Index

instance : DecidablePred Unmarked := fun s => inferInstanceAs (Decidable (endMark ∉ s.toList))

theorem Unmarked.of_subset {s : String} (h : Unmarked s) {t : String}
    (ht : t.toList ⊆ s.toList) : Unmarked t :=
  fun hmem => h (ht hmem)

theorem Unmarked.toneless {s : String} (h : Unmarked s) : Unmarked (Text.toneless s) :=
  fun hmem => h (Text.control_mem_of_mem_toneless (by decide) hmem)

/-- A text without the end mark is looked up as it is. -/
theorem find?_of_unmarked (ix : Index) {form : String} (h : Unmarked form) :
    ix.find? form = ix[form]? := by
  rw [find?]
  cases ix[form]? with
  | some glosses => rfl
  | none =>
      have hnone : unmarked? form = none := by
        rw [unmarked?]
        split
        · rfl
        next c cs hcs =>
          refine if_neg ?_
          rintro rfl
          exact h (List.mem_reverse.1 (by rw [hcs]; exact List.mem_cons_self))
      rw [hnone]

theorem ascending_keys (ix : Index) : ix.keys.Pairwise (· < ·) :=
  ix.ordered_keys.imp fun h => compareOfLessAndEq_eq_lt.1 h

end Index

/-- No form of a gloss or of its morphemes holds the end mark of an index. -/
def Gloss.Unmarked (g : Gloss) : Prop :=
  Index.Unmarked g.form ∧ ∀ m ∈ g.morphemes, Index.Unmarked m.form

instance : DecidablePred Gloss.Unmarked := fun g =>
  inferInstanceAs (Decidable (Index.Unmarked g.form ∧ ∀ m ∈ g.morphemes, Index.Unmarked m.form))

/-! ## Glosses of a key -/

/-- The glosses that pairs give a key, in order. -/
def glossesUnder (pairs : List (String × Gloss)) (key : String) : List Gloss :=
  (pairs.filter (·.1 == key)).map (·.2)

theorem mem_glossesUnder {pairs : List (String × Gloss)} {key : String} {g : Gloss} :
    g ∈ glossesUnder pairs key ↔ (key, g) ∈ pairs := by
  rw [glossesUnder, List.mem_map]
  constructor
  · rintro ⟨⟨k, h⟩, hpair, rfl⟩
    obtain ⟨hmem, hkey⟩ := List.mem_filter.1 hpair
    obtain rfl : k = key := eq_of_beq hkey
    exact hmem
  · intro hpair
    exact ⟨(key, g), List.mem_filter.2 ⟨hpair, beq_self_eq_true key⟩, rfl⟩

theorem glossesUnder_ne_nil_iff {pairs : List (String × Gloss)} {key : String} :
    glossesUnder pairs key ≠ [] ↔ ∃ g, (key, g) ∈ pairs := by
  rw [ne_eq, List.eq_nil_iff_forall_not_mem]
  simp only [mem_glossesUnder, not_forall, not_not]

theorem glossesUnder_append (ps qs : List (String × Gloss)) (key : String) :
    glossesUnder (ps ++ qs) key = glossesUnder ps key ++ glossesUnder qs key := by
  rw [glossesUnder, List.filter_append, List.map_append]
  rfl

theorem glossesUnder_singleton (pair : String × Gloss) (key : String) :
    glossesUnder [pair] key = if pair.1 = key then [pair.2] else [] := by
  by_cases hkey : pair.1 = key
  · rw [if_pos hkey, glossesUnder, List.filter_cons_of_pos (by simpa using hkey)]
    rfl
  · rw [if_neg hkey, glossesUnder, List.filter_cons_of_neg (by simpa using hkey)]
    rfl

namespace Builder

/-! ## Calls -/

/-- A call of a builder. -/
inductive Call where
  | setLang (lang : String)
  | setName (name : String)
  | setVer (ver : String)
  | insert (key : String) (gloss : Gloss)
  | insertToneless (key : String) (gloss : Gloss)

/-- The builder after a call. -/
def perform (b : Builder) : Call → Builder
  | .setLang lang => { b with lang := lang }
  | .setName name => { b with name := name }
  | .setVer ver => { b with ver := ver }
  | .insert key gloss => b.insert key gloss
  | .insertToneless key gloss => b.insertToneless key gloss

/-- A new builder after some calls. -/
def ofCalls (calls : List Call) : Builder := calls.foldl perform empty

namespace Call

/-- The pair of a key that is not empty. -/
def pairOf (key : String) (gloss : Gloss) : List (String × Gloss) :=
  if key.isEmpty then [] else [(key, gloss)]

/-- The pairs that a call inserts. -/
def pairs : Call → List (String × Gloss)
  | .insert key gloss => pairOf key gloss
  | .insertToneless key gloss =>
    (if Text.toneless key = key then [] else pairOf (Text.toneless key) gloss) ++ pairOf key gloss
  | _ => []

/-- Neither the key nor the gloss of a call holds the end mark of an index. -/
def Unmarked : Call → Prop
  | .insert key gloss | .insertToneless key gloss => Index.Unmarked key ∧ gloss.Unmarked
  | _ => True

instance : DecidablePred Unmarked
  | .insert key gloss | .insertToneless key gloss =>
    inferInstanceAs (Decidable (Index.Unmarked key ∧ gloss.Unmarked))
  | .setLang _ | .setName _ | .setVer _ => .isTrue trivial

theorem unmarked_of_mem_pairs {c : Call} (h : c.Unmarked) {pair : String × Gloss}
    (hpair : pair ∈ c.pairs) : Index.Unmarked pair.1 ∧ pair.2.Unmarked := by
  have hpairOf : ∀ {key : String} {gloss : Gloss}, pair ∈ pairOf key gloss →
      pair = (key, gloss) := by
    intro key gloss hmem
    rw [pairOf] at hmem
    split at hmem
    · simp at hmem
    · exact List.mem_singleton.1 hmem
  cases c with
  | setLang | setName | setVer => simp [pairs] at hpair
  | insert key gloss =>
      rw [hpairOf hpair]
      exact h
  | insertToneless key gloss =>
      rcases List.mem_append.1 hpair with hpair | hpair
      · split at hpair
        · simp at hpair
        · rw [hpairOf hpair]
          exact ⟨h.1.toneless, h.2⟩
      · rw [hpairOf hpair]
        exact h

end Call

theorem pairs_insert (b : Builder) (key : String) (gloss : Gloss) :
    (b.insert key gloss).pairs.toList = b.pairs.toList ++ Call.pairOf key gloss := by
  rw [insert, Call.pairOf]
  split
  · rw [List.append_nil]
  · rw [Array.toList_push]

theorem pairs_perform (b : Builder) (c : Call) :
    (b.perform c).pairs.toList = b.pairs.toList ++ c.pairs := by
  cases c with
  | setLang | setName | setVer => exact (List.append_nil _).symm
  | insert key gloss => exact b.pairs_insert key gloss
  | insertToneless key gloss =>
      rw [perform, insertToneless, pairs_insert, Call.pairs, ← List.append_assoc]
      split
      · rw [List.append_nil]
      · rw [pairs_insert]

/-- The pairs of a builder are those of its calls. -/
theorem pairs_ofCalls (calls : List Call) :
    (ofCalls calls).pairs.toList = calls.flatMap Call.pairs := by
  have hfoldl : ∀ b : Builder,
      (calls.foldl perform b).pairs.toList = b.pairs.toList ++ calls.flatMap Call.pairs := by
    induction calls with
    | nil => intro b; exact (List.append_nil _).symm
    | cons c calls ih =>
        intro b
        rw [List.foldl_cons, ih, pairs_perform, List.flatMap_cons, List.append_assoc]
  exact hfoldl empty

/-! ## What is found -/

/-- The glosses inserted under a key, in order. -/
def glossesOf (b : Builder) (key : String) : List Gloss := glossesUnder b.pairs.toList key

theorem glossesOf_append (as bs : List Call) (key : String) :
    (ofCalls (as ++ bs)).glossesOf key
      = (ofCalls as).glossesOf key ++ (ofCalls bs).glossesOf key := by
  simp only [glossesOf, pairs_ofCalls, List.flatMap_append, glossesUnder_append]

/-- A list of glosses, if it is not empty. -/
def some? (glosses : List Gloss) : Option (List Gloss) :=
  if glosses.isEmpty then none else some glosses

theorem getD_some? (glosses : List Gloss) : (some? glosses).getD [] = glosses := by
  cases glosses with
  | nil => rfl
  | cons a as => rfl

theorem isSome_some? (glosses : List Gloss) : (some? glosses).isSome = !glosses.isEmpty := by
  cases glosses with
  | nil => rfl
  | cons a as => rfl

theorem some?_eq_some_iff {glosses found : List Gloss} :
    some? glosses = some found ↔ found = glosses ∧ glosses ≠ [] := by
  cases glosses with
  | nil => simp [some?]
  | cons g gs =>
      constructor
      · intro h
        exact ⟨(Option.some.inj h).symm, by simp⟩
      · rintro ⟨rfl, -⟩
        rfl

theorem some?_append_singleton (glosses : List Gloss) (g : Gloss) :
    some? (glosses ++ [g]) = some ((some? glosses).getD [] ++ [g]) := by
  cases glosses with
  | nil => rfl
  | cons a as => rfl

theorem getElem?_foldl_addTo (pairs : List (String × Gloss)) (key : String) :
    (pairs.foldl addTo (∅ : Index))[key]? = some? (glossesUnder pairs key) := by
  induction pairs using List.reverseRecOn with
  | nil => rfl
  | append_singleton pairs pair ih =>
      rw [List.foldl_append, List.foldl_cons, List.foldl_nil, addTo, Std.TreeMap.getElem?_alter,
        glossesUnder_append, glossesUnder_singleton]
      by_cases hkey : pair.1 = key
      · subst hkey
        rw [if_pos Std.ReflOrd.compare_self, ih, if_pos rfl, some?_append_singleton]
      · have hcmp : compare pair.1 key ≠ .eq :=
          fun h => hkey (Std.LawfulEqOrd.compare_eq_iff_eq.1 h)
        rw [if_neg hcmp, ih, if_neg hkey, List.append_nil]

/-- The keys of the index are those that were inserted. -/
theorem mem_keys_index {b : Builder} {key : String} :
    key ∈ b.index.keys ↔ ∃ g, (key, g) ∈ b.pairs.toList := by
  rw [Std.TreeMap.mem_keys, Std.TreeMap.mem_iff_isSome_getElem?, index, getElem?_foldl_addTo,
    isSome_some?, Bool.not_eq_true', List.isEmpty_eq_false_iff]
  exact glossesUnder_ne_nil_iff

/-- **Dictionaries are multimaps.** A dictionary has, under a key, the glosses inserted under it. -/
theorem find?_dictionary (b : Builder) {key : String} (h : Index.Unmarked key) :
    b.dictionary.find? key = some? (b.glossesOf key) := by
  rw [Dictionary.find?, dictionary]
  by_cases hempty : b.pairs.isEmpty
  · have hnil : b.pairs.toList = [] := by simpa using hempty
    rw [if_pos hempty, glossesOf, hnil]
    rfl
  · rw [if_neg hempty, Option.bind_some, Index.find?_of_unmarked _ h, index,
      getElem?_foldl_addTo, glossesOf]

/-- Whatever is asked for, what is found stands under a key of the index. -/
theorem exists_key_of_find?_dictionary {b : Builder} {form : String} {glosses : List Gloss}
    (h : b.dictionary.find? form = some glosses) :
    ∃ key : String, b.index[key]? = some glosses := by
  obtain ⟨ix, hix, hfind⟩ := Option.bind_eq_some_iff.1 h
  obtain rfl : b.index = ix := by
    rw [dictionary] at hix
    dsimp only at hix
    split at hix
    · contradiction
    · exact Option.some.inj hix
  rw [Index.find?] at hfind
  split at hfind
  next glosses' hform =>
    obtain rfl := Option.some.inj hfind
    exact ⟨form, hform⟩
  next =>
    -- The form was closed with the end mark.
    split at hfind
    next key hkey =>
      split at hfind
      · exact ⟨key, hfind⟩
      · contradiction
    next => contradiction

/-- Only glosses that were inserted are found. -/
theorem exists_pair_of_find?_dictionary {b : Builder} {form : String} {glosses : List Gloss}
    (h : b.dictionary.find? form = some glosses) {g : Gloss} (hg : g ∈ glosses) :
    ∃ key, (key, g) ∈ b.pairs.toList := by
  obtain ⟨key, hkey⟩ := exists_key_of_find?_dictionary h
  rw [index, getElem?_foldl_addTo, some?_eq_some_iff] at hkey
  rw [hkey.1] at hg
  exact ⟨key, mem_glossesUnder.1 hg⟩

/-- What is built is the dictionary of the pairs, and no key holds the end mark. -/
theorem of_build_eq_ok {b : Builder} {d : Dictionary} (h : b.build = .ok d) :
    d = b.dictionary ∧ ∀ pair ∈ b.pairs.toList, Index.Unmarked pair.1 := by
  rw [build] at h
  split at h
  · cases h
  next hany =>
    refine ⟨(Except.ok.inj h).symm, fun pair hpair hmark => hany (Array.any_eq_true'.2 ?_)⟩
    exact ⟨pair, Array.mem_toList_iff.1 hpair, List.contains_iff_mem.2 hmark⟩

theorem build_eq_ok {b : Builder} (h : ∀ pair ∈ b.pairs.toList, Index.Unmarked pair.1) :
    b.build = .ok b.dictionary := by
  refine if_neg ?_
  intro hany
  obtain ⟨pair, hpair, hmark⟩ := Array.any_eq_true'.1 hany
  exact h pair (Array.mem_toList_iff.2 hpair) (List.contains_iff_mem.1 hmark)

theorem build_eq_error {b : Builder} (h : ¬∀ pair ∈ b.pairs.toList, Index.Unmarked pair.1) :
    b.build = .error .endMarkerInKey := by
  push Not at h
  obtain ⟨pair, hpair, hmark⟩ := h
  refine if_pos (Array.any_eq_true'.2 ⟨pair, Array.mem_toList_iff.1 hpair, ?_⟩)
  exact List.contains_iff_mem.2 (not_not.1 hmark)

end Builder

end Interlinear
