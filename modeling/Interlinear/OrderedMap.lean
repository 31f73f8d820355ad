import Interlinear.Lists

set_option autoImplicit false

/-! # Ordered maps

A map from keys to values whose entries stand in an order. A new key goes to the end, and a key that
is there already keeps its place when it gets another value. An entry can also be put at a place of
choice, if there is such a place; what stands behind it makes room (`OrderedMap.insertAt?`). -/

namespace Interlinear

/-- Entries in an order, no two of them with the same key. -/
structure OrderedMap (κ α : Type) where
  entries : List (κ × α)
  distinct : (entries.map (·.1)).Nodup

namespace OrderedMap

variable {κ α : Type}

/-- The map without entries. -/
def empty : OrderedMap κ α := ⟨[], .nil⟩

/-- The keys in their order. -/
def keys (m : OrderedMap κ α) : List κ := m.entries.map (·.1)

/-- The values in the order of their keys. -/
def values (m : OrderedMap κ α) : List α := m.entries.map (·.2)

/-- The number of entries. -/
def size (m : OrderedMap κ α) : Nat := m.entries.length

/-- Takes out the entry at a place, if there is one; the entries behind it move up. -/
def eraseAt (m : OrderedMap κ α) (i : Nat) : OrderedMap κ α :=
  ⟨m.entries.eraseIdx i, m.distinct.sublist ((List.eraseIdx_sublist _ _).map _)⟩

theorem nodup_keys (m : OrderedMap κ α) : m.keys.Nodup := m.distinct

theorem keys_of_append {m : OrderedMap κ α} {before after : List (κ × α)} {k : κ} {v : α}
    (h : m.entries = before ++ (k, v) :: after) :
    m.keys = before.map (·.1) ++ k :: after.map (·.1) := by
  rw [keys, h, List.map_append, List.map_cons]

/-- Where an entry stands, its key is neither before nor behind it. -/
theorem not_mem_of_append {m : OrderedMap κ α} {before after : List (κ × α)} {k : κ} {v : α}
    (h : m.entries = before ++ (k, v) :: after) :
    k ∉ before.map (·.1) ∧ k ∉ after.map (·.1) := by
  have hnodup := m.nodup_keys
  rw [keys_of_append h, List.nodup_append] at hnodup
  obtain ⟨-, hafter, hapart⟩ := hnodup
  exact ⟨fun hmem => hapart k hmem k List.mem_cons_self rfl, (List.nodup_cons.1 hafter).1⟩

theorem entries_eraseAt_of_append {m : OrderedMap κ α} {before after : List (κ × α)}
    {e : κ × α} (h : m.entries = before ++ e :: after) :
    (m.eraseAt before.length).entries = before ++ after := by
  show m.entries.eraseIdx before.length = _
  rw [h, List.eraseIdx_append_of_length_le (Nat.le_refl _), Nat.sub_self, List.eraseIdx_zero,
    List.tail_cons]

variable [DecidableEq κ]

/-! ## Searching -/

/-- The value of a key. -/
def get? (m : OrderedMap κ α) (k : κ) : Option α := (m.entries.find? (·.1 == k)).map (·.2)

/-- The place where a key stands. -/
def place? (m : OrderedMap κ α) (k : κ) : Option Nat := m.keys.idxOf? k

theorem place?_eq_none_iff {m : OrderedMap κ α} {k : κ} : m.place? k = none ↔ k ∉ m.keys :=
  List.idxOf?_eq_none_iff

theorem place?_of_append {m : OrderedMap κ α} {before after : List (κ × α)} {k : κ} {v : α}
    (h : m.entries = before ++ (k, v) :: after) : m.place? k = some before.length := by
  have hbefore := (not_mem_of_append h).1
  have hlen : (before.map (·.1)).length = before.length := List.length_map _
  rw [place?, keys_of_append h, List.idxOf?_eq_some_iff]
  refine ⟨by simp, ?_, fun j hj hkey => hbefore ?_⟩
  · rw [List.getElem_append_right (by omega)]
    simp
  · rw [List.getElem_append_left (by omega)] at hkey
    rw [← hkey]
    exact List.getElem_mem _

theorem exists_append_of_place? {m : OrderedMap κ α} {k : κ} {i : Nat} (h : m.place? k = some i) :
    ∃ before v after, m.entries = before ++ (k, v) :: after ∧ before.length = i := by
  have hmem : k ∈ m.keys := by
    obtain ⟨hi, hkey, -⟩ := List.idxOf?_eq_some_iff.1 h
    rw [← hkey]
    exact List.getElem_mem hi
  obtain ⟨⟨_, v⟩, he, rfl⟩ := List.mem_map.1 hmem
  obtain ⟨before, after, hentries⟩ := List.append_of_mem he
  rw [place?_of_append hentries] at h
  exact ⟨before, v, after, hentries, Option.some.inj h⟩

theorem get?_of_append {m : OrderedMap κ α} {before after : List (κ × α)} {k : κ} {v : α}
    (h : m.entries = before ++ (k, v) :: after) : m.get? k = some v := by
  have hbefore : before.find? (·.1 == k) = none := by
    rw [List.find?_eq_none]
    intro e he hkey
    exact (not_mem_of_append h).1 (List.mem_map.2 ⟨e, he, eq_of_beq hkey⟩)
  rw [get?, h, List.find?_append, hbefore, Option.none_or, List.find?_cons_of_pos (by simp)]
  rfl

/-! ## Other keys -/

/-- The entries of other keys. -/
def others (k : κ) (entries : List (κ × α)) : List (κ × α) := entries.filter (·.1 != k)

theorem others_eq_self {k : κ} {entries : List (κ × α)} (h : k ∉ entries.map (·.1)) :
    others k entries = entries := by
  refine List.filter_eq_self.2 fun e he => ?_
  have hne : e.1 ≠ k := fun hk => h (List.mem_map.2 ⟨e, he, hk⟩)
  simpa using hne

theorem others_append_cons {k : κ} {before after : List (κ × α)} {v : α}
    (hbefore : k ∉ before.map (·.1)) (hafter : k ∉ after.map (·.1)) :
    others k (before ++ (k, v) :: after) = before ++ after := by
  rw [others, List.filter_append, List.filter_cons_of_neg (by simp)]
  show others k before ++ others k after = _
  rw [others_eq_self hbefore, others_eq_self hafter]

/-! ## Changing -/

/-- Gives a key a value: at the place of the key if it has one, and at the end otherwise. -/
def insert (m : OrderedMap κ α) (k : κ) (v : α) : OrderedMap κ α :=
  if h : k ∈ m.keys then
    ⟨m.entries.map fun e => if e.1 = k then (k, v) else e, by
      have hkeys : (m.entries.map fun e => if e.1 = k then (k, v) else e).map (·.1) = m.keys := by
        rw [List.map_map]
        refine List.map_congr_left fun e _ => ?_
        show (if e.1 = k then (k, v) else e).1 = e.1
        split
        next hk => exact hk.symm
        next => rfl
      rw [hkeys]
      exact m.distinct⟩
  else
    ⟨m.entries ++ [(k, v)], by
      rw [List.map_append, List.map_singleton, List.nodup_append]
      refine ⟨m.distinct, by simp, fun a ha b hb hab => h ?_⟩
      rw [← show b = k from List.mem_singleton.1 hb, ← hab]
      exact ha⟩

theorem entries_insert_of_not_mem {m : OrderedMap κ α} {k : κ} (h : k ∉ m.keys) (v : α) :
    (m.insert k v).entries = m.entries ++ [(k, v)] := by
  rw [insert, dif_neg h]

theorem entries_insert_of_append {m : OrderedMap κ α} {before after : List (κ × α)} {k : κ}
    {w : α} (h : m.entries = before ++ (k, w) :: after) (v : α) :
    (m.insert k v).entries = before ++ (k, v) :: after := by
  have hmem : k ∈ m.keys := by
    rw [keys_of_append h]
    exact List.mem_append_right _ List.mem_cons_self
  have hsame : ∀ {es : List (κ × α)}, k ∉ es.map (·.1) →
      (es.map fun e => if e.1 = k then (k, v) else e) = es := by
    intro es hes
    calc (es.map fun e => if e.1 = k then (k, v) else e)
        = es.map id := List.map_congr_left fun e he =>
          if_neg fun hk => hes (List.mem_map.2 ⟨e, he, hk⟩)
      _ = es := List.map_id es
  obtain ⟨hbefore, hafter⟩ := not_mem_of_append h
  rw [insert, dif_pos hmem]
  show (m.entries.map fun e => if e.1 = k then (k, v) else e) = _
  rw [h, List.map_append, List.map_cons, hsame hbefore, hsame hafter, if_pos rfl]

/-- Takes a key out, and tells the value that it had. -/
def remove (m : OrderedMap κ α) (k : κ) : Option α × OrderedMap κ α :=
  match m.place? k with
  | some i => (m.get? k, m.eraseAt i)
  | none => (none, m)

theorem remove_of_not_mem {m : OrderedMap κ α} {k : κ} (h : k ∉ m.keys) :
    m.remove k = (none, m) := by
  rw [remove, place?_eq_none_iff.2 h]

theorem entries_remove_of_append {m : OrderedMap κ α} {before after : List (κ × α)} {k : κ}
    {v : α} (h : m.entries = before ++ (k, v) :: after) :
    (m.remove k).1 = some v ∧ (m.remove k).2.entries = before ++ after := by
  rw [remove, place?_of_append h]
  exact ⟨get?_of_append h, entries_eraseAt_of_append h⟩

/-- What is left are the entries of the other keys. -/
theorem entries_remove (m : OrderedMap κ α) (k : κ) :
    (m.remove k).2.entries = others k m.entries := by
  cases hplace : m.place? k with
  | none =>
      have hnot := place?_eq_none_iff.1 hplace
      rw [remove_of_not_mem hnot, others_eq_self hnot]
  | some i =>
      obtain ⟨before, v, after, hentries, -⟩ := exists_append_of_place? hplace
      obtain ⟨hbefore, hafter⟩ := not_mem_of_append hentries
      rw [(entries_remove_of_append hentries).2, hentries, others_append_cons hbefore hafter]

theorem not_mem_keys_remove (m : OrderedMap κ α) (k : κ) : k ∉ (m.remove k).2.keys := by
  rw [keys, entries_remove]
  intro hmem
  obtain ⟨e, he, hk⟩ := List.mem_map.1 hmem
  have hne := (List.mem_filter.1 he).2
  simp [hk] at hne

/-- Puts an entry at a place. An entry that has the key already is taken out first. None if there is
no such place: the last one is that behind all entries. -/
def insertAt? (m : OrderedMap κ α) (i : Nat) (k : κ) (v : α) : Option (OrderedMap κ α) :=
  let rest := (m.remove k).2
  if i ≤ rest.size then
    some ⟨rest.entries.take i ++ (k, v) :: rest.entries.drop i, by
      have hperm : (rest.entries.take i ++ (k, v) :: rest.entries.drop i).Perm
          ((k, v) :: rest.entries) := by
        refine List.perm_middle.trans ?_
        rw [List.take_append_drop]
      rw [(hperm.map _).nodup_iff, List.map_cons, List.nodup_cons]
      exact ⟨m.not_mem_keys_remove k, rest.distinct⟩⟩
  else none

theorem exists_insertAt? {m : OrderedMap κ α} {before after : List (κ × α)} {k : κ}
    (h : m.entries = before ++ after) (hk : k ∉ m.keys) (v : α) :
    ∃ m', m.insertAt? before.length k v = some m' ∧ m'.entries = before ++ (k, v) :: after := by
  have hrest : (m.remove k).2.entries = before ++ after := by rw [remove_of_not_mem hk, h]
  have hle : before.length ≤ (m.remove k).2.size := by
    rw [size, hrest, List.length_append]
    omega
  refine ⟨_, if_pos hle, ?_⟩
  show (m.remove k).2.entries.take _ ++ (k, v) :: (m.remove k).2.entries.drop _ = _
  rw [hrest, List.take_left, List.drop_left]

end OrderedMap

end Interlinear
