import Interlinear.Dictionary.Prefixes
import Interlinear.OrderedMap
import Std.Data.TreeSet.Lemmas

set_option autoImplicit false

/-! # Unions of dictionaries

Several dictionaries are searched as one: a key has the glosses that the members give it, one
member after the other. A member is known by its fingerprint, and no two members have the same
one. The members keep their order when one of them is replaced.

Dictionaries also have a language and a name. Registering a dictionary puts it in the place of the
member of the same language and name, if there is one. -/

namespace Interlinear

/-- A list of dictionaries that are searched together. -/
structure Union where
  /-- The members under their fingerprints. -/
  catalog : OrderedMap Digest Dictionary

/-- What came of registering a dictionary. -/
inductive Registration where
  /-- It became a new member. -/
  | added (id : Digest)
  /-- It took the place of another member. -/
  | replaced (old new : Digest)
  /-- It was a member already. -/
  | unchanged (id : Digest)
deriving DecidableEq

namespace Union

/-- The union without members. -/
def empty : Union := ⟨.empty⟩

/-! ## Members -/

/-- The members in their order. -/
def members (u : Union) : List Dictionary := u.catalog.values

/-- The fingerprints of the members. -/
def ids (u : Union) : List Digest := u.catalog.keys

/-- The member of a fingerprint. -/
def get? (u : Union) (id : Digest) : Option Dictionary := u.catalog.get? id

/-- Adds a dictionary: in place of the member of the same fingerprint if there is one, and at the
end otherwise. -/
def add (u : Union) (d : Dictionary) : Union := ⟨u.catalog.insert d.fingerprint d⟩

/-- The union of dictionaries, added one by one. -/
def ofList (ds : List Dictionary) : Union := ds.foldl add empty

/-- Takes the member of a fingerprint out, and tells which it was. -/
def remove (u : Union) (id : Digest) : Option Dictionary × Union :=
  let (removed, rest) := u.catalog.remove id
  (removed, ⟨rest⟩)

/-! ## Replacing -/

/-- Puts a dictionary in the place of the member of a fingerprint. If there is no member to replace,
the dictionary is added. Otherwise the member goes, and so does a member that has the same
fingerprint as the dictionary; if that one stood before the place, the place has moved up by one.
None if the place is not there. -/
def replace? (u : Union) (id : Digest) (d : Dictionary) : Option Union :=
  match u.catalog.place? id with
  | none => some (u.add d)
  | some i =>
    let rest := u.catalog.eraseAt i
    (match rest.place? d.fingerprint with
    | none => rest.insertAt? i d.fingerprint d
    | some twin =>
      (rest.eraseAt twin).insertAt? (if twin < i then i - 1 else i) d.fingerprint d).map Union.mk

/-- The place that is computed for the dictionary is there, and it is that of the member. -/
theorem exists_replace?_of_append {u : Union} {id : Digest} {m : Dictionary}
    {before after : List (Digest × Dictionary)}
    (h : u.catalog.entries = before ++ (id, m) :: after) (d : Dictionary) :
    ∃ v, u.replace? id d = some v ∧ v.catalog.entries =
      OrderedMap.others d.fingerprint before ++
        (d.fingerprint, d) :: OrderedMap.others d.fingerprint after := by
  have hrest : (u.catalog.eraseAt before.length).entries = before ++ after :=
    OrderedMap.entries_eraseAt_of_append h
  rw [replace?, OrderedMap.place?_of_append h]
  dsimp only
  generalize u.catalog.eraseAt before.length = rest at hrest ⊢
  cases htwin : rest.place? d.fingerprint with
  | none =>
      have hnot := OrderedMap.place?_eq_none_iff.1 htwin
      obtain ⟨c, hc, hentries⟩ := OrderedMap.exists_insertAt? hrest hnot d
      rw [OrderedMap.keys, hrest, List.map_append, List.mem_append, not_or] at hnot
      rw [OrderedMap.others_eq_self hnot.1, OrderedMap.others_eq_self hnot.2]
      exact ⟨⟨c⟩, congrArg (·.map Union.mk) hc, hentries⟩
  | some twin =>
      obtain ⟨b, w, a, hsplit, rfl⟩ := OrderedMap.exists_append_of_place? htwin
      obtain ⟨hb, ha⟩ := OrderedMap.not_mem_of_append hsplit
      have hleft : (rest.eraseAt b.length).entries = b ++ a :=
        OrderedMap.entries_eraseAt_of_append hsplit
      have hnot : d.fingerprint ∉ (rest.eraseAt b.length).keys := by
        rw [OrderedMap.keys, hleft, List.map_append, List.mem_append]
        exact not_or.2 ⟨hb, ha⟩
      dsimp only
      generalize rest.eraseAt b.length = left at hleft hnot ⊢
      rcases List.exists_of_append_eq_append_cons (hrest.symm.trans hsplit) with
        ⟨c, rfl, rfl⟩ | ⟨c, rfl, rfl⟩
      · -- The twin stands before the place, which moves up.
        have hplace : (if b.length < (b ++ (d.fingerprint, w) :: c).length
            then (b ++ (d.fingerprint, w) :: c).length - 1
            else (b ++ (d.fingerprint, w) :: c).length) = (b ++ c).length := by
          simp
        rw [← List.append_assoc] at hleft
        obtain ⟨e, he, hentries⟩ := OrderedMap.exists_insertAt? hleft hnot d
        rw [List.map_append, List.mem_append, not_or] at ha
        rw [hplace, OrderedMap.others_append_cons hb ha.1, OrderedMap.others_eq_self ha.2]
        exact ⟨⟨e⟩, congrArg (·.map Union.mk) he, hentries⟩
      · -- The twin stands behind the place.
        have hplace : (if (before ++ c).length < before.length then before.length - 1
            else before.length) = before.length := by
          rw [if_neg (by rw [List.length_append]; omega)]
        rw [List.append_assoc] at hleft
        obtain ⟨e, he, hentries⟩ := OrderedMap.exists_insertAt? hleft hnot d
        rw [List.map_append, List.mem_append, not_or] at hb
        rw [hplace, OrderedMap.others_eq_self hb.1, OrderedMap.others_append_cons hb.2 ha]
        exact ⟨⟨e⟩, congrArg (·.map Union.mk) he, hentries⟩

theorem isSome_replace? (u : Union) (id : Digest) (d : Dictionary) : (u.replace? id d).isSome := by
  cases hplace : u.catalog.place? id with
  | none =>
      rw [replace?, hplace]
      rfl
  | some i =>
      obtain ⟨before, m, after, h, -⟩ := OrderedMap.exists_append_of_place? hplace
      obtain ⟨v, hv, -⟩ := exists_replace?_of_append h d
      rw [hv]
      rfl

/-- Puts a dictionary in the place of the member of a fingerprint; see `replace?`. -/
def replace (u : Union) (id : Digest) (d : Dictionary) : Union :=
  (u.replace? id d).get (u.isSome_replace? id d)

/-! ## Registering -/

/-- Adds a dictionary unless it is a member already. It takes the place of a member of the same
language and name. -/
def register (u : Union) (d : Dictionary) : Registration × Union :=
  match u.members.find? fun m => m.lang == d.lang && m.name == d.name with
  | some m =>
    if m.ver = d.ver ∧ m.fingerprint = d.fingerprint then (.unchanged m.fingerprint, u)
    else (.replaced m.fingerprint d.fingerprint, u.replace m.fingerprint d)
  | none => (.added d.fingerprint, u.add d)

/-! ## Searching -/

/-- The number of keys, where a key of several members counts once for each. -/
def size (u : Union) : Nat := u.members.foldr (fun m n => m.size + n) 0

/-- Whether no member has a key. -/
def isEmpty (u : Union) : Bool := u.size == 0

/-- Whether a member has a key. -/
def contains (u : Union) (key : String) : Bool := u.members.any (·.contains key)

/-- The glosses that the members give a key, in their order; none if no member has it. -/
def glosses (u : Union) (key : String) : List Gloss :=
  u.members.flatMap fun m => (m.find? key).getD []

/-- The glosses of a key. -/
def lookup (u : Union) (key : String) : Except Error (List Gloss) :=
  let found := u.glosses key
  if found.isEmpty then .error (.notFound key) else .ok found

/-- The keys of members that a text begins with, each once, in the order of strings. None if the
text cannot be cut where a walk through the index of a member stops. -/
def prefixes? (w : IndexWalk) (u : Union) (form : String) : Option (List String) :=
  (u.members.mapM (Dictionary.prefixes? w · form)).map fun found =>
    (Std.TreeSet.ofList found.flatten).toList

/-- It does not depend on the walk which keys are found. -/
theorem prefixes?_eq_some {w : IndexWalk} (hw : w.Exact) (u : Union) (form : String) :
    u.prefixes? w form
      = some (Std.TreeSet.ofList (u.members.flatMap (·.prefixes form))).toList := by
  have hmember : (Dictionary.prefixes? w · form) = fun m => pure (m.prefixes form) := by
    funext m
    rw [Dictionary.prefixes?_eq_some hw, ← Dictionary.prefixes_eq_filter]
    rfl
  rw [prefixes?, hmember, List.mapM_pure, List.flatMap_def]
  rfl

theorem isSome_prefixes? (u : Union) (form : String) : (u.prefixes? .plain form).isSome := by
  rw [prefixes?_eq_some IndexWalk.exact_plain]
  rfl

/-- The keys of members that a text begins with, the shortest first; see `prefixes?`. -/
def prefixes (u : Union) (form : String) : List String :=
  (u.prefixes? .plain form).get (u.isSome_prefixes? form)

/-- The keys of all members, each where it comes first, with the glosses of the members that have
it. -/
def entries (u : Union) : List (String × List Gloss) :=
  ((u.members.flatMap fun m => m.entries.map (·.1)).eraseDups).map fun key =>
    (key, (u.members.filterMap (·.find? key)).flatten)

/-- The descriptions of the members. -/
def description (u : Union) : String :=
  "[" ++ String.intercalate ", " (u.members.map (·.description)) ++ "]"

/-! ## Prefixes -/

@[simp]
theorem contains_iff {u : Union} {key : String} :
    u.contains key = true ↔ ∃ d ∈ u.members, d.contains key = true := by
  simp [contains]

theorem prefixes_eq (u : Union) (form : String) :
    u.prefixes form = (Std.TreeSet.ofList (u.members.flatMap (·.prefixes form))).toList :=
  Option.get_of_eq_some _ (prefixes?_eq_some IndexWalk.exact_plain u form)

theorem mem_prefixes {u : Union} {form key : String} :
    key ∈ u.prefixes form ↔
      key.toList ≠ [] ∧ key.toList <+: form.toList ∧ u.contains key = true := by
  simp only [prefixes_eq, Std.TreeSet.mem_toList, Std.TreeSet.mem_ofList, List.contains_iff_mem,
    List.mem_flatMap, Dictionary.mem_prefixes, contains_iff]
  constructor
  · rintro ⟨d, hd, hne, hpre, hkey⟩
    exact ⟨hne, hpre, d, hd, hkey⟩
  · rintro ⟨hne, hpre, d, hd, hkey⟩
    exact ⟨d, hd, hne, hpre, hkey⟩

/-- The members are searched one by one, but what is found does not depend on which of them has a
key: it is the same as asking for each beginning of the text whether the union has it. -/
theorem prefixes_eq_filter (u : Union) (form : String) :
    u.prefixes form = ((beginnings form.toList).map String.ofList).filter u.contains := by
  have hord : (u.prefixes form).Pairwise fun a b => compare a b = .lt := by
    rw [prefixes_eq]
    exact Std.TreeSet.ordered_toList
  have hleft : (u.prefixes form).Pairwise (· < ·) :=
    hord.imp fun h => compareOfLessAndEq_eq_lt.1 h
  have hright : (((beginnings form.toList).map String.ofList).filter u.contains).Pairwise
      (· < ·) := by
    refine List.Pairwise.filter _ (List.pairwise_map.2 ((pairwise_beginnings _).imp ?_))
    rintro p q ⟨hpq, hne⟩
    exact String.lt_iff.2 (by simpa using hpq.lt_of_ne hne)
  have hmem : ∀ key, key ∈ u.prefixes form ↔
      key ∈ ((beginnings form.toList).map String.ofList).filter u.contains := by
    intro key
    rw [mem_prefixes, List.mem_filter, mem_map_beginnings, and_assoc]
  refine List.Perm.eq_of_pairwise (fun a b _ _ hab hba => ?_) hleft hright ?_
  · exact absurd hab (String.lt_asymm hba)
  · exact (List.perm_ext_iff_of_nodup (hleft.imp String.ne_of_lt)
      (hright.imp String.ne_of_lt)).2 hmem

end Union

end Interlinear
