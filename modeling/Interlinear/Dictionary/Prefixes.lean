import Interlinear.Dictionary.Basic
import Interlinear.Lists
import Interlinear.Text.Slice

set_option autoImplicit false

/-! # Keys that a text begins with

An index is walked along a text, character by character, and tells after how many of them a key was
met. The text is then cut at these places. How an index is walked is left open (`IndexWalk`); what a
walk has to tell is `IndexWalk.Exact`, and it is enough for the keys to be those that looking up
each beginning of the text would find (`Dictionary.prefixes_eq_filter`). -/

namespace Interlinear

/-! ## Beginnings of a text -/

/-- The beginnings of a text, without the empty one, the shortest first. -/
def beginnings : List Char → List (List Char)
  | [] => []
  | c :: cs => [c] :: (beginnings cs).map (c :: ·)

theorem mem_beginnings {p cs : List Char} : p ∈ beginnings cs ↔ p ≠ [] ∧ p <+: cs := by
  induction cs generalizing p with
  | nil => simp [beginnings]
  | cons c cs ih =>
      simp only [beginnings, List.mem_cons, List.mem_map, ih, List.prefix_cons_iff]
      constructor
      · rintro (rfl | ⟨q, ⟨-, hq⟩, rfl⟩)
        · exact ⟨by simp, Or.inr ⟨[], rfl, List.nil_prefix⟩⟩
        · exact ⟨by simp, Or.inr ⟨q, rfl, hq⟩⟩
      · rintro ⟨hp, hnil | ⟨q, rfl, hq⟩⟩
        · exact absurd hnil hp
        · by_cases hq' : q = []
          · exact Or.inl (by rw [hq'])
          · exact Or.inr ⟨q, ⟨hq', hq⟩, rfl⟩

/-- Each beginning of a text is a proper beginning of those listed after it. -/
theorem pairwise_beginnings (cs : List Char) :
    (beginnings cs).Pairwise fun p q => p <+: q ∧ p ≠ q := by
  induction cs with
  | nil => exact .nil
  | cons c cs ih =>
      refine List.pairwise_cons.2 ⟨?_, ?_⟩
      · intro q hq
        obtain ⟨r, hr, rfl⟩ := List.mem_map.1 hq
        have hr0 : r ≠ [] := (mem_beginnings.1 hr).1
        exact ⟨by simp, by simpa using hr0⟩
      · rw [List.pairwise_map]
        refine ih.imp ?_
        rintro p q ⟨hpq, hne⟩
        exact ⟨List.cons_prefix_cons.2 ⟨rfl, hpq⟩, by simpa using hne⟩

theorem mem_map_beginnings {key : String} {cs : List Char} :
    key ∈ (beginnings cs).map String.ofList ↔ key.toList ≠ [] ∧ key.toList <+: cs := by
  rw [← mem_beginnings, List.mem_map]
  constructor
  · rintro ⟨p, hp, rfl⟩
    simpa using hp
  · intro h
    exact ⟨key.toList, h, String.ofList_toList⟩

/-! ## Walks through an index -/

/-- A way to walk through an index along a text. -/
structure IndexWalk where
  /-- The numbers of characters of the text after which a key was met. -/
  stops : Index → List Char → List Nat

namespace IndexWalk

/-- The walk that looks up each beginning of the text. -/
def plain : IndexWalk where
  stops ix cs := ((beginnings cs).filter fun p => (ix.find? (String.ofList p)).isSome).map List.length

/-- A walk stops in ascending order and exactly where a key is found. Whether it stops before the
first character, when the empty text is a key, is left open. -/
def Exact (w : IndexWalk) : Prop :=
  ∀ ix cs, (w.stops ix cs).Pairwise (· < ·) ∧
    ∀ n, 0 < n →
      (n ∈ w.stops ix cs ↔ n ≤ cs.length ∧ (ix.find? (String.ofList (cs.take n))).isSome)

theorem take_length_of_mem_beginnings {p cs : List Char} (h : p ∈ beginnings cs) :
    cs.take p.length = p := (List.prefix_iff_eq_take.1 (mem_beginnings.1 h).2).symm

/-- A number of characters is a stop of the plain walk if the text has as many, and they are a
key. -/
theorem mem_stops_plain {ix : Index} {cs : List Char} {n : Nat} :
    n ∈ plain.stops ix cs ↔
      0 < n ∧ n ≤ cs.length ∧ (ix.find? (String.ofList (cs.take n))).isSome := by
  show n ∈ (List.filter _ _).map List.length ↔ _
  rw [List.mem_map]
  constructor
  · rintro ⟨p, hp, rfl⟩
    obtain ⟨hmem, hkey⟩ := List.mem_filter.1 hp
    obtain ⟨hne, hpre⟩ := mem_beginnings.1 hmem
    rw [take_length_of_mem_beginnings hmem]
    exact ⟨List.length_pos_iff.2 hne, hpre.length_le, hkey⟩
  · rintro ⟨hpos, hle, hkey⟩
    have hlen : (cs.take n).length = n := List.length_take_of_le hle
    have hne : cs.take n ≠ [] := by
      intro hnil
      rw [hnil, List.length_nil] at hlen
      omega
    have hmem : cs.take n ∈ beginnings cs := mem_beginnings.2 ⟨hne, List.take_prefix n cs⟩
    exact ⟨cs.take n, List.mem_filter.2 ⟨hmem, hkey⟩, hlen⟩

theorem pairwise_stops_plain (ix : Index) (cs : List Char) :
    (plain.stops ix cs).Pairwise (· < ·) := by
  refine List.pairwise_map.2 (((pairwise_beginnings cs).filter _).imp ?_)
  rintro p q ⟨hpq, hne⟩
  exact hpq.length_lt_of_ne hne

theorem exact_plain : plain.Exact := by
  intro ix cs
  refine ⟨pairwise_stops_plain ix cs, fun n hpos => ?_⟩
  rw [mem_stops_plain]
  exact ⟨fun h => h.2, fun h => ⟨hpos, h⟩⟩

/-- All exact walks stop at the same places, but for the one before the first character. -/
theorem Exact.filter_stops {w : IndexWalk} (hw : w.Exact) (ix : Index) (cs : List Char) :
    (w.stops ix cs).filter (· != 0) = plain.stops ix cs := by
  obtain ⟨hpairwise, hmem⟩ := hw ix cs
  have hleft : ((w.stops ix cs).filter (· != 0)).Pairwise (· < ·) := hpairwise.filter _
  have hright := pairwise_stops_plain ix cs
  have hsame : ∀ n, n ∈ (w.stops ix cs).filter (· != 0) ↔ n ∈ plain.stops ix cs := by
    intro n
    rw [List.mem_filter, mem_stops_plain, bne_iff_ne]
    constructor
    · rintro ⟨hstop, hne⟩
      have hpos : 0 < n := Nat.pos_of_ne_zero hne
      exact ⟨hpos, (hmem n hpos).1 hstop⟩
    · rintro ⟨hpos, hfound⟩
      exact ⟨(hmem n hpos).2 hfound, Nat.ne_of_gt hpos⟩
  have hperm := (List.perm_ext_iff_of_nodup (hleft.imp Nat.ne_of_lt)
    (hright.imp Nat.ne_of_lt)).2 hsame
  exact hperm.eq_of_pairwise (fun a b _ _ hab hba => absurd hab (Nat.lt_asymm hba)) hleft hright

end IndexWalk

/-! ## Keys of a dictionary -/

namespace Dictionary

/-- The keys that a text begins with, cut out where a walk through the index stops. None if the text
cannot be cut there. -/
def prefixes? (w : IndexWalk) (d : Dictionary) (form : String) : Option (List String) :=
  match d.index with
  | none => some []
  | some ix => Text.heads? form (w.stops ix form.toList)

/-- The text can always be cut, and the pieces are the beginnings of it that are found. -/
theorem prefixes?_eq_some {w : IndexWalk} (hw : w.Exact) (d : Dictionary) (form : String) :
    d.prefixes? w form
      = some (((beginnings form.toList).map String.ofList).filter d.contains) := by
  cases hindex : d.index with
  | none =>
      have hnone : ∀ key, d.contains key = false := fun key => by rw [contains, find?, hindex]; rfl
      rw [prefixes?, hindex, List.filter_eq_nil_iff.2 fun key _ => by simp [hnone key]]
  | some ix =>
      have hcontains : ∀ key, d.contains key = (ix.find? key).isSome := fun key => by
        rw [contains, find?, hindex, Option.bind_some]
      have hle : ∀ n ∈ w.stops ix form.toList, n ≤ form.toList.length := by
        intro n hn
        by_cases hzero : n = 0
        · omega
        · exact (((hw ix form.toList).2 n (Nat.pos_of_ne_zero hzero)).1 hn).1
      rw [prefixes?, hindex]
      dsimp only
      rw [Text.heads?_eq_some hle, hw.filter_stops, IndexWalk.plain]
      dsimp only
      rw [List.map_map, List.filter_map]
      refine congrArg some ?_
      calc ((beginnings form.toList).filter fun p => (ix.find? (String.ofList p)).isSome).map _
          = ((beginnings form.toList).filter fun p => (ix.find? (String.ofList p)).isSome).map
              String.ofList := List.map_congr_left fun p hp => congrArg String.ofList
                (IndexWalk.take_length_of_mem_beginnings (List.mem_filter.1 hp).1)
        _ = ((beginnings form.toList).filter (d.contains ∘ String.ofList)).map String.ofList := by
            rw [List.filter_congr fun p _ => (hcontains (String.ofList p)).symm]
            rfl

theorem isSome_prefixes? (d : Dictionary) (form : String) : (d.prefixes? .plain form).isSome := by
  rw [prefixes?_eq_some IndexWalk.exact_plain]
  rfl

/-- The keys that a text begins with, the shortest first; see `prefixes?`. -/
def prefixes (d : Dictionary) (form : String) : List String :=
  (d.prefixes? .plain form).get (d.isSome_prefixes? form)

/-- However the index is walked, the keys are the beginnings of the text that are found. -/
theorem prefixes_eq_filter (d : Dictionary) (form : String) :
    d.prefixes form = ((beginnings form.toList).map String.ofList).filter d.contains :=
  Option.get_of_eq_some _ (prefixes?_eq_some IndexWalk.exact_plain d form)

theorem mem_prefixes {d : Dictionary} {form key : String} :
    key ∈ d.prefixes form ↔
      key.toList ≠ [] ∧ key.toList <+: form.toList ∧ d.contains key = true := by
  rw [prefixes_eq_filter, List.mem_filter, mem_map_beginnings, and_assoc]

end Dictionary

end Interlinear
