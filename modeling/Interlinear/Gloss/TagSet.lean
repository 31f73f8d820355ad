set_option autoImplicit false

/-! # Sets of tags

The part of speech of a word is a set of tags. A set is the ascending list of its members, so that
two sets with the same members are equal (`TagSet.ext_mem`). -/

namespace Interlinear

/-- A finite set of tags. -/
structure TagSet where
  toList : List String
  ascending : toList.Pairwise (· < ·)
deriving DecidableEq

namespace TagSet

@[ext]
theorem ext {a b : TagSet} (h : a.toList = b.toList) : a = b := by
  cases a; cases b; cases h; rfl

theorem nodup (s : TagSet) : s.toList.Nodup := s.ascending.imp String.ne_of_lt

/-- Two sets with the same members are equal. -/
theorem ext_mem {a b : TagSet} (h : ∀ x, x ∈ a.toList ↔ x ∈ b.toList) : a = b := by
  have hperm := (List.perm_ext_iff_of_nodup a.nodup b.nodup).2 h
  refine ext (hperm.eq_of_pairwise (fun x y _ _ hxy hyx => ?_) a.ascending b.ascending)
  exact absurd hxy (String.lt_asymm hyx)

/-- The set without members. -/
def empty : TagSet := ⟨[], .nil⟩

/-- Whether a set has no members. -/
def isEmpty (s : TagSet) : Bool := s.toList.isEmpty

/-- Whether a tag is a member of a set. -/
def contains (s : TagSet) (tag : String) : Bool := s.toList.contains tag

/-- Inserts a tag into an ascending list, unless it is there. -/
def place (tag : String) : List String → List String
  | [] => [tag]
  | t :: ts => if tag < t then tag :: t :: ts else if tag = t then t :: ts else t :: place tag ts

theorem mem_place {tag x : String} {ts : List String} :
    x ∈ place tag ts ↔ x = tag ∨ x ∈ ts := by
  induction ts with
  | nil => simp [place]
  | cons t ts ih =>
    unfold place
    split
    · simp
    · split
      · simp_all
      · simp only [List.mem_cons, ih]
        grind

theorem ascending_place {tag : String} {ts : List String} (h : ts.Pairwise (· < ·)) :
    (place tag ts).Pairwise (· < ·) := by
  induction ts with
  | nil => simp [place]
  | cons t ts ih =>
    obtain ⟨ht, hts⟩ := List.pairwise_cons.1 h
    unfold place
    split
    next hlt =>
      refine List.pairwise_cons.2 ⟨fun x hx => ?_, h⟩
      rcases List.mem_cons.1 hx with rfl | hx
      · exact hlt
      · exact String.lt_trans hlt (ht x hx)
    next hlt =>
      split
      · exact h
      next hne =>
        refine List.pairwise_cons.2 ⟨fun x hx => ?_, ih hts⟩
        rcases mem_place.1 hx with rfl | hx
        · grind
        · exact ht x hx

/-- Adds a tag to a set. -/
def insert (s : TagSet) (tag : String) : TagSet := ⟨place tag s.toList, ascending_place s.ascending⟩

/-- The set of the tags in a list. -/
def ofList (tags : List String) : TagSet := tags.foldl insert empty

/-- The members that two sets share. -/
def inter (a b : TagSet) : TagSet := ⟨a.toList.filter b.contains, a.ascending.filter _⟩

/-- Whether two sets share a member, or one of them has none and so asks for nothing. -/
def compatible (a b : TagSet) : Bool := a.isEmpty || b.isEmpty || a.toList.any b.contains

/-- What two sets agree on: their common members, or all of one set where the other has none. There
is no agreement if both have members but share none. -/
def unify? (a b : TagSet) : Option TagSet :=
  if a.isEmpty then some b
  else if b.isEmpty then some a
  else if (a.inter b).isEmpty then none
  else some (a.inter b)

/-! ## Members -/

@[simp]
theorem contains_iff {s : TagSet} {tag : String} : s.contains tag = true ↔ tag ∈ s.toList := by
  simp [contains]

@[simp]
theorem mem_insert {s : TagSet} {tag x : String} :
    x ∈ (s.insert tag).toList ↔ x = tag ∨ x ∈ s.toList := mem_place

@[simp]
theorem mem_inter {a b : TagSet} {x : String} :
    x ∈ (a.inter b).toList ↔ x ∈ a.toList ∧ x ∈ b.toList := by
  simp [inter]

theorem mem_ofList {tags : List String} {x : String} : x ∈ (ofList tags).toList ↔ x ∈ tags := by
  have key : ∀ (ts : List String) (s : TagSet),
      x ∈ (ts.foldl insert s).toList ↔ x ∈ ts ∨ x ∈ s.toList := by
    intro ts
    induction ts with
    | nil => simp
    | cons t ts ih => intro s; simp only [List.foldl_cons, ih, mem_insert, List.mem_cons]; grind
  simpa [ofList, empty] using key tags empty

theorem ofList_toList (s : TagSet) : ofList s.toList = s := ext_mem fun _ => mem_ofList

end TagSet

end Interlinear
