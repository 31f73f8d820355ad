import Interlinear.Union

set_option autoImplicit false

/-! # Members of a union

However a union was made, each member stands under its own fingerprint (`Union.Sound`), so that the
list of members tells everything about it. Adding and replacing are described by what they do to
this list (`Union.Sound.entries_add_of_append`, `Union.Sound.entries_replace_of_append`). -/

namespace Interlinear.Union

/-! ## Edits -/

/-- A change of a union. -/
inductive Edit where
  /-- Begins anew, with dictionaries added one by one. -/
  | ofList (ds : List Dictionary)
  | add (d : Dictionary)
  | remove (id : Digest)
  | replace (id : Digest) (d : Dictionary)
  | register (d : Dictionary)

/-- The union after a change. -/
def perform (u : Union) : Edit → Union
  | .ofList ds => ofList ds
  | .add d => u.add d
  | .remove id => (u.remove id).2
  | .replace id d => u.replace id d
  | .register d => (u.register d).2

/-- The empty union after some changes. -/
def ofEdits (edits : List Edit) : Union := edits.foldl perform empty

theorem ofEdits_append (edits more : List Edit) :
    ofEdits (edits ++ more) = more.foldl perform (ofEdits edits) := List.foldl_append

/-! ## Members under their fingerprints -/

/-- Each member stands under its own fingerprint. -/
def Sound (u : Union) : Prop := ∀ e ∈ u.catalog.entries, e.1 = e.2.fingerprint

/-- Dictionaries under their fingerprints. -/
def keyed (ds : List Dictionary) : List (Digest × Dictionary) := ds.map fun d => (d.fingerprint, d)

theorem map_fst_keyed (ds : List Dictionary) : (keyed ds).map (·.1) = ds.map (·.fingerprint) := by
  rw [keyed, List.map_map]
  rfl

theorem map_snd_keyed (ds : List Dictionary) : (keyed ds).map (·.2) = ds := by
  rw [keyed, List.map_map]
  exact List.map_id ds

theorem keyed_append_cons (before after : List Dictionary) (d : Dictionary) :
    keyed (before ++ d :: after) = keyed before ++ (d.fingerprint, d) :: keyed after := by
  rw [keyed, List.map_append, List.map_cons]
  rfl

/-- The dictionaries of other fingerprints. -/
def others (id : Digest) (ds : List Dictionary) : List Dictionary :=
  ds.filter (·.fingerprint != id)

theorem others_keyed (id : Digest) (ds : List Dictionary) :
    OrderedMap.others id (keyed ds) = keyed (others id ds) := by
  rw [OrderedMap.others, keyed, List.filter_map]
  rfl

theorem others_eq_self {id : Digest} {ds : List Dictionary} (h : ∀ d ∈ ds, d.fingerprint ≠ id) :
    others id ds = ds := List.filter_eq_self.2 fun d hd => by simpa using h d hd

theorem sound_empty : empty.Sound := fun _ he => absurd he List.not_mem_nil

variable {u : Union}

theorem Sound.entries_eq (h : u.Sound) : u.catalog.entries = keyed u.members := by
  rw [keyed, members, OrderedMap.values, List.map_map]
  refine (List.map_id' _).symm.trans (List.map_congr_left fun e he => ?_)
  exact Prod.ext (h e he) rfl

theorem Sound.ids_eq (h : u.Sound) : u.ids = u.members.map (·.fingerprint) := by
  rw [ids, OrderedMap.keys, h.entries_eq, map_fst_keyed]

theorem Sound.nodup (h : u.Sound) : (u.members.map (·.fingerprint)).Nodup := by
  rw [← h.ids_eq]
  exact u.catalog.nodup_keys

theorem members_of_entries {ds : List Dictionary} (h : u.catalog.entries = keyed ds) :
    u.members = ds := by
  rw [members, OrderedMap.values, h, map_snd_keyed]

theorem sound_of_entries {ds : List Dictionary} (h : u.catalog.entries = keyed ds) : u.Sound := by
  intro e he
  rw [h] at he
  obtain ⟨d, -, rfl⟩ := List.mem_map.1 he
  rfl

theorem Sound.exists_append_of_mem (h : u.Sound) {id : Digest} (hid : id ∈ u.ids) :
    ∃ before m after, u.members = before ++ m :: after ∧ m.fingerprint = id := by
  rw [h.ids_eq] at hid
  obtain ⟨m, hm, rfl⟩ := List.mem_map.1 hid
  obtain ⟨before, after, hmembers⟩ := List.append_of_mem hm
  exact ⟨before, m, after, hmembers, rfl⟩

/-! ## Adding -/

theorem Sound.entries_add_of_append (h : u.Sound) {before after : List Dictionary}
    {m d : Dictionary} (hm : u.members = before ++ m :: after)
    (hid : m.fingerprint = d.fingerprint) :
    (u.add d).catalog.entries = keyed (before ++ d :: after) := by
  have hentries := h.entries_eq
  rw [hm, keyed_append_cons, hid] at hentries
  rw [keyed_append_cons]
  exact OrderedMap.entries_insert_of_append hentries d

theorem Sound.entries_add_of_not_mem (h : u.Sound) {d : Dictionary} (hd : d.fingerprint ∉ u.ids) :
    (u.add d).catalog.entries = keyed (u.members ++ [d]) := by
  rw [keyed, List.map_append, ← keyed, ← h.entries_eq]
  exact OrderedMap.entries_insert_of_not_mem hd d

theorem Sound.add (h : u.Sound) (d : Dictionary) : (u.add d).Sound := by
  by_cases hd : d.fingerprint ∈ u.ids
  · obtain ⟨before, m, after, hm, hid⟩ := h.exists_append_of_mem hd
    exact sound_of_entries (h.entries_add_of_append hm hid)
  · exact sound_of_entries (h.entries_add_of_not_mem hd)

theorem sound_ofList (ds : List Dictionary) : (ofList ds).Sound := by
  have hfoldl : ∀ u : Union, u.Sound → (ds.foldl Union.add u).Sound := by
    induction ds with
    | nil => exact fun u hu => hu
    | cons d ds ih => exact fun u hu => ih _ (hu.add d)
  exact hfoldl empty sound_empty

/-! ## Removing -/

theorem Sound.entries_remove (h : u.Sound) (id : Digest) :
    (u.remove id).2.catalog.entries = keyed (others id u.members) := by
  rw [← others_keyed, ← h.entries_eq]
  exact u.catalog.entries_remove id

theorem Sound.remove (h : u.Sound) (id : Digest) : (u.remove id).2.Sound :=
  sound_of_entries (h.entries_remove id)

/-! ## Replacing -/

theorem replace?_eq_some (u : Union) (id : Digest) (d : Dictionary) :
    u.replace? id d = some (u.replace id d) := (Option.some_get _).symm

theorem replace_of_not_mem {id : Digest} (h : id ∉ u.ids) (d : Dictionary) :
    u.replace id d = u.add d := by
  have hsome := u.replace?_eq_some id d
  rw [replace?, OrderedMap.place?_eq_none_iff.2 h] at hsome
  exact (Option.some.inj hsome).symm

theorem Sound.entries_replace_of_append (h : u.Sound) {before after : List Dictionary}
    {m : Dictionary} (hm : u.members = before ++ m :: after) (d : Dictionary) :
    (u.replace m.fingerprint d).catalog.entries =
      keyed (others d.fingerprint before ++ d :: others d.fingerprint after) := by
  have hentries := h.entries_eq
  rw [hm, keyed_append_cons] at hentries
  obtain ⟨v, hv, hplaces⟩ := exists_replace?_of_append hentries d
  rw [replace?_eq_some] at hv
  rw [Option.some.inj hv, hplaces, others_keyed, others_keyed, keyed_append_cons]

theorem Sound.replace (h : u.Sound) (id : Digest) (d : Dictionary) : (u.replace id d).Sound := by
  by_cases hid : id ∈ u.ids
  · obtain ⟨before, m, after, hm, rfl⟩ := h.exists_append_of_mem hid
    exact sound_of_entries (h.entries_replace_of_append hm d)
  · rw [replace_of_not_mem hid]
    exact h.add d

/-! ## Where members come from -/

/-- Where an entry gives way to another, and entries may go, there is only one new member. -/
theorem mem_members_of_subset {v : Union} {id : Digest} {m d : Dictionary} {e : Digest × Dictionary}
    {before after before' after' : List (Digest × Dictionary)}
    (hu : u.catalog.entries = before ++ e :: after)
    (hv : v.catalog.entries = before' ++ (id, d) :: after') (hbefore : before' ⊆ before)
    (hafter : after' ⊆ after) (hm : m ∈ v.members) : m = d ∨ m ∈ u.members := by
  obtain ⟨⟨key, _⟩, he, rfl⟩ := List.mem_map.1 hm
  rw [hv] at he
  have hold : ∀ {x : Digest × Dictionary}, x ∈ before ++ e :: after → x.2 ∈ u.members := by
    intro x hx
    rw [← hu] at hx
    exact List.mem_map_of_mem hx
  rcases List.mem_append.1 he with he | he
  · exact .inr (hold (List.mem_append_left _ (hbefore he)))
  · rcases List.mem_cons.1 he with he | he
    · exact .inl (congrArg Prod.snd he)
    · exact .inr (hold (List.mem_append_right _ (List.mem_cons_of_mem _ (hafter he))))

theorem mem_members_add {m d : Dictionary} (h : m ∈ (u.add d).members) : m = d ∨ m ∈ u.members := by
  by_cases hd : d.fingerprint ∈ u.ids
  · obtain ⟨⟨_, w⟩, he, rfl⟩ := List.mem_map.1 hd
    obtain ⟨before, after, hentries⟩ := List.append_of_mem he
    have hadded := OrderedMap.entries_insert_of_append hentries d
    exact mem_members_of_subset hentries hadded (List.Subset.refl _) (List.Subset.refl _) h
  · have hadded : (u.add d).catalog.entries = u.catalog.entries ++ [(d.fingerprint, d)] :=
      OrderedMap.entries_insert_of_not_mem hd d
    rw [members, OrderedMap.values, hadded, List.map_append] at h
    rcases List.mem_append.1 h with h | h
    · exact .inr h
    · exact .inl (List.mem_singleton.1 h)

/-- The members of a union of dictionaries are some of them. -/
theorem mem_of_mem_members_ofList {ds : List Dictionary} {m : Dictionary}
    (h : m ∈ (ofList ds).members) : m ∈ ds := by
  have hfoldl : ∀ (ds : List Dictionary) (u : Union),
      m ∈ (ds.foldl Union.add u).members → m ∈ ds ∨ m ∈ u.members := by
    intro ds
    induction ds with
    | nil => exact fun u hm => Or.inr hm
    | cons d ds ih =>
        intro u hm
        rcases ih (u.add d) hm with hm | hm
        · exact Or.inl (List.mem_cons_of_mem d hm)
        · rcases mem_members_add hm with rfl | hm
          · exact Or.inl List.mem_cons_self
          · exact Or.inr hm
  exact (hfoldl ds empty h).resolve_right List.not_mem_nil

theorem mem_members_replace {id : Digest} {m d : Dictionary} (h : m ∈ (u.replace id d).members) :
    m = d ∨ m ∈ u.members := by
  by_cases hid : id ∈ u.ids
  · obtain ⟨⟨_, w⟩, he, rfl⟩ := List.mem_map.1 hid
    obtain ⟨before, after, hentries⟩ := List.append_of_mem he
    obtain ⟨v, hv, hreplaced⟩ := exists_replace?_of_append hentries d
    rw [replace?_eq_some] at hv
    obtain rfl := Option.some.inj hv
    exact mem_members_of_subset hentries hreplaced List.filter_sublist.subset
      List.filter_sublist.subset h
  · rw [replace_of_not_mem hid] at h
    exact mem_members_add h

/-- A member of a union where a dictionary was registered is this one, or it was a member before. -/
theorem mem_members_register {m d : Dictionary} (h : m ∈ (u.register d).2.members) :
    m = d ∨ m ∈ u.members := by
  rw [Union.register] at h
  split at h
  · split at h
    · exact .inr h
    · exact mem_members_replace h
  · exact mem_members_add h

/-! ## Runs -/

theorem Sound.register (h : u.Sound) (d : Dictionary) : (u.register d).2.Sound := by
  rw [Union.register]
  split
  · split
    · exact h
    · exact h.replace _ d
  · exact h.add d

theorem Sound.perform (h : u.Sound) (edit : Edit) : (u.perform edit).Sound := by
  cases edit with
  | ofList ds => exact sound_ofList ds
  | add d => exact h.add d
  | remove id => exact h.remove id
  | replace id d => exact h.replace id d
  | register d => exact h.register d

theorem sound_ofEdits (edits : List Edit) : (ofEdits edits).Sound := by
  have hfoldl : ∀ u : Union, u.Sound → (edits.foldl Union.perform u).Sound := by
    induction edits with
    | nil => exact fun u hu => hu
    | cons edit edits ih => exact fun u hu => ih _ (hu.perform edit)
  exact hfoldl empty sound_empty

/-- **Replacing keeps the places.** However a union was made, its members have different
fingerprints and stand under them. A dictionary that replaces a member always finds its place: it
takes that of the member, a member of its own fingerprint goes, and all others stay as they are. If
there is no member to replace, the dictionary comes in place of the member of its own fingerprint,
or at the end. -/
theorem replace?_places_of_edits (edits : List Edit) :
    ((ofEdits edits).members.map (·.fingerprint)).Nodup ∧
    (∀ e ∈ (ofEdits edits).catalog.entries, e.1 = e.2.fingerprint) ∧
    ∀ id d, (ofEdits edits).replace? id d = some ((ofEdits edits).replace id d) ∧
      (∀ before m after, (ofEdits edits).members = before ++ m :: after → m.fingerprint = id →
        ((ofEdits edits).replace id d).members =
          before.filter (·.fingerprint != d.fingerprint) ++
            d :: after.filter (·.fingerprint != d.fingerprint)) ∧
      (id ∉ (ofEdits edits).ids →
        (∀ before m after, (ofEdits edits).members = before ++ m :: after →
          m.fingerprint = d.fingerprint →
          ((ofEdits edits).replace id d).members = before ++ d :: after) ∧
        (d.fingerprint ∉ (ofEdits edits).ids →
          ((ofEdits edits).replace id d).members = (ofEdits edits).members ++ [d])) := by
  have hsound := sound_ofEdits edits
  generalize ofEdits edits = u at hsound ⊢
  refine ⟨hsound.nodup, hsound, fun id d => ⟨u.replace?_eq_some id d, ?_, fun hid => ?_⟩⟩
  · rintro before m after hm rfl
    exact members_of_entries (hsound.entries_replace_of_append hm d)
  · rw [replace_of_not_mem hid]
    refine ⟨fun before m after hm hd => ?_, fun hd => ?_⟩
    · exact members_of_entries (hsound.entries_add_of_append hm hd)
    · exact members_of_entries (hsound.entries_add_of_not_mem hd)

end Interlinear.Union
