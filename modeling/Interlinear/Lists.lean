set_option autoImplicit false

/-! # Lists

Facts about lists that do not depend on what is in them: on their members, on where they can be cut,
on the runs and pieces they consist of, on lists put together of lists, and on computations for each
of their members, which may have no result. -/

namespace List

variable {α β γ : Type}

/-! ## Members -/

/-- A property of the members of a list, checked one by one. To decide a statement on all characters
of a list could go through all characters there are. -/
theorem forall_mem_of_all {p : α → Prop} [DecidablePred p] {l : List α}
    (h : l.all (fun x => p x) = true) : ∀ x ∈ l, p x := fun x hx =>
  of_decide_eq_true (all_eq_true.1 h x hx)

/-- Where members differ in a feature, none has that of the member at a place besides it. -/
theorem ne_of_nodup_map {f : α → β} {l before after : List α} {x : α} (h : (l.map f).Nodup)
    (hl : l = before ++ x :: after) :
    (∀ y ∈ before, f y ≠ f x) ∧ ∀ y ∈ after, f y ≠ f x := by
  rw [hl, map_append, map_cons, nodup_append, nodup_cons] at h
  obtain ⟨-, ⟨hafter, -⟩, hapart⟩ := h
  refine ⟨fun y hy => ?_, fun y hy heq => hafter (mem_map.2 ⟨y, hy, heq⟩)⟩
  exact hapart _ (mem_map_of_mem hy) _ mem_cons_self

/-- The first result is the same if what fails goes on to fail and what comes first stays the
same. -/
theorem findSome?_eq_of_first {f g : α → Option β} {l : List α}
    (hnone : ∀ a ∈ l, f a = none → g a = none)
    (hsome : ∀ a ∈ l, ∀ b, l.findSome? f = some b → f a = some b → g a = some b) :
    l.findSome? g = l.findSome? f := by
  induction l with
  | nil => rfl
  | cons a l ih =>
      obtain ⟨hnone, hnones⟩ := forall_mem_cons.1 hnone
      obtain ⟨hsome, hsomes⟩ := forall_mem_cons.1 hsome
      cases ha : f a with
      | none =>
          simp only [findSome?_cons, ha] at hsomes ⊢
          rw [hnone ha]
          exact ih hnones hsomes
      | some b =>
          have hb : (a :: l).findSome? f = some b := by rw [findSome?_cons, ha]
          rw [hb, findSome?_cons, hsome b hb ha]

/-- What holds of each member at its place holds of the first one and of the others. -/
theorem forall_places_cons {P : List α → α → List α → Prop} {a : α} {l : List α} :
    (∀ before x after, a :: l = before ++ x :: after → P before x after) ↔
      P [] a l ∧ ∀ before x after, l = before ++ x :: after → P (a :: before) x after := by
  constructor
  · intro h
    refine ⟨h [] a l rfl, ?_⟩
    rintro before x after rfl
    exact h (a :: before) x after rfl
  · rintro ⟨hfirst, hrest⟩ before x after heq
    cases before with
    | nil =>
        obtain ⟨rfl, rfl⟩ := cons.inj heq
        exact hfirst
    | cons b before =>
        obtain ⟨rfl, htail⟩ := cons.inj heq
        exact hrest before x after htail

theorem map_getElem?_range (l : List α) :
    (range l.length).map (fun i => l[i]?) = l.map some := by
  refine ext_getElem? fun i => ?_
  rw [getElem?_map, getElem?_map]
  by_cases hi : i < l.length
  · simp [hi]
  · simp [hi]

/-! ## Cuts and ends -/

/-- Whichever way two lists are cut, an element is in one of the pieces of the other cut. -/
theorem exists_of_append_eq_append_cons {before after b a : List α} {x : α}
    (h : before ++ after = b ++ x :: a) :
    (∃ c, before = b ++ x :: c ∧ a = c ++ after) ∨
      (∃ c, b = before ++ c ∧ after = c ++ x :: a) := by
  rcases append_eq_append_iff.1 h with ⟨c, hb, hafter⟩ | ⟨c, hbefore, hc⟩
  · exact Or.inr ⟨c, hb, hafter⟩
  · cases c with
    | nil => exact Or.inr ⟨[], by simpa using hbefore.symm, by simpa using hc.symm⟩
    | cons y c =>
        obtain ⟨rfl, rfl⟩ := cons.inj hc
        exact Or.inl ⟨c, hbefore, rfl⟩

theorem IsPrefix.length_lt_of_ne {p l : List α} (h : p <+: l) (hne : p ≠ l) :
    p.length < l.length :=
  Nat.lt_of_le_of_ne h.length_le fun hlen => hne (h.eq_of_length hlen)

/-- A list comes after its proper beginnings, in whichever order its members are. -/
theorem IsPrefix.lt_of_ne [LT α] {p l : List α} (h : p <+: l) (hne : p ≠ l) : p < l := by
  obtain ⟨rest, rfl⟩ := h
  cases rest with
  | nil => simp at hne
  | cons a rest =>
      induction p with
      | nil => exact nil_lt_cons a rest
      | cons b p ih => exact cons_lt_cons_iff.2 (.inr ⟨rfl, ih (by simp)⟩)

theorem suffix_cons_of_suffix {l rest : List α} {a : α} (h : rest <:+ l) : rest <:+ a :: l :=
  h.trans (suffix_cons a l)

theorem suffix_of_cons_suffix_cons {l rest : List α} {a b : α} (h : b :: rest <:+ a :: l) :
    rest <:+ l := by
  rcases suffix_cons_iff.1 h with heq | h
  · obtain ⟨-, rfl⟩ := cons.inj heq
    exact suffix_rfl
  · exact (suffix_cons b rest).trans h

theorem append_subset_append {l l' m m' : List α} (h : l ⊆ m) (h' : l' ⊆ m') :
    l ++ l' ⊆ m ++ m' :=
  append_subset.2 ⟨subset_append_of_subset_left _ h, subset_append_of_subset_right _ h'⟩

/-! ## Runs and pieces -/

/-- What is left of the longest run of a list after some of its elements is the longest run of what
is left of the list. -/
theorem takeWhile_drop (p : α → Bool) {l : List α} {n : Nat} (h : n ≤ (l.takeWhile p).length) :
    (l.drop n).takeWhile p = (l.takeWhile p).drop n := by
  induction l generalizing n with
  | nil => simp
  | cons a l ih =>
      cases n with
      | zero => rfl
      | succ n =>
          by_cases ha : p a
          · rw [takeWhile_cons_of_pos ha] at h ⊢
            rw [drop_succ_cons, drop_succ_cons, ih (by simpa using h)]
          · rw [takeWhile_cons_of_neg ha] at h
            simp at h

theorem dropWhile_append_of_ne_nil {p : α → Bool} {l : List α} (h : l.dropWhile p ≠ [])
    (more : List α) : (l ++ more).dropWhile p = l.dropWhile p ++ more := by
  rw [dropWhile_append, if_neg (by simpa using h)]

theorem takeWhile_append_of_ne_nil {p : α → Bool} {l : List α} (h : l.dropWhile p ≠ [])
    (more : List α) : (l ++ more).takeWhile p = l.takeWhile p := by
  rw [takeWhile_append, if_neg]
  intro hlen
  have hall := congrArg length (takeWhile_append_dropWhile (p := p) (l := l))
  rw [length_append, hlen, Nat.add_eq_left, length_eq_zero_iff] at hall
  exact h hall

/-- Cutting a list leaves its elements in the pieces, or takes them out. -/
theorem mem_of_mem_splitOnPPrepend {p : α → Bool} {l acc piece : List α}
    (h : piece ∈ l.splitOnPPrepend p acc) {x : α} (hx : x ∈ piece) : x ∈ acc ∨ x ∈ l := by
  induction l generalizing acc with
  | nil =>
      rw [splitOnPPrepend_nil, mem_singleton] at h
      rw [h] at hx
      exact .inl (mem_reverse.1 hx)
  | cons y l ih =>
      rw [splitOnPPrepend_cons_eq_if] at h
      split at h
      · rcases mem_cons.1 h with rfl | h
        · exact .inl (mem_reverse.1 hx)
        · rw [← splitOnPPrepend_nil_right] at h
          rcases ih h with hnil | hl
          · cases hnil
          · exact .inr (mem_cons_of_mem y hl)
      · rcases ih h with hacc | hl
        · rcases mem_cons.1 hacc with rfl | hacc
          · exact .inr mem_cons_self
          · exact .inl hacc
        · exact .inr (mem_cons_of_mem y hl)

/-- The piece that is open goes on in one of those that are cut off. -/
theorem exists_mem_splitOnPPrepend (p : α → Bool) (l acc : List α) :
    ∃ piece ∈ l.splitOnPPrepend p acc, acc.reverse <+: piece := by
  induction l generalizing acc with
  | nil => exact ⟨acc.reverse, by simp [splitOnPPrepend], prefix_rfl⟩
  | cons x l ih =>
      rw [splitOnPPrepend_cons_eq_if]
      split
      · exact ⟨acc.reverse, mem_cons_self, prefix_rfl⟩
      · obtain ⟨piece, hpiece, h⟩ := ih (x :: acc)
        refine ⟨piece, hpiece, IsPrefix.trans ?_ h⟩
        rw [reverse_cons]
        exact prefix_append _ _

/-! ## Lists put together of lists -/

theorem flatMap_filter (q : α → Bool) (f : α → List β) (l : List α) :
    (l.filter q).flatMap f = l.flatMap fun x => if q x then f x else [] := by
  induction l with
  | nil => rfl
  | cons x l ih =>
      by_cases hx : q x
      · simp [hx, ih]
      · simp [hx, ih]

/-- Where each member gives something, there is at least as much as there are members. -/
theorem length_le_length_flatMap {f : α → List β} {l : List α} (h : ∀ x ∈ l, f x ≠ []) :
    l.length ≤ (l.flatMap f).length := by
  induction l with
  | nil => exact Nat.le_refl 0
  | cons x l ih =>
      obtain ⟨hx, hl⟩ := forall_mem_cons.1 h
      have hpos := length_pos_iff.2 hx
      have hrest := ih hl
      rw [flatMap_cons, length_append, length_cons]
      omega

theorem length_le_length_flatMap_of_mem (f : α → List β) {l : List α} {x : α} (h : x ∈ l) :
    (f x).length ≤ (l.flatMap f).length :=
  (sublist_flatten_of_mem (mem_map_of_mem h)).length_le

/-- If every member of a list is replaced by something, the list stays the same only if each member
is replaced by itself. -/
theorem flatMap_eq_self_iff {f : α → List α} {l : List α} (h : ∀ x ∈ l, f x ≠ []) :
    l.flatMap f = l ↔ ∀ x ∈ l, f x = [x] := by
  induction l with
  | nil => simp
  | cons x l ih =>
      obtain ⟨hx, hl⟩ := forall_mem_cons.1 h
      have hlong := length_le_length_flatMap hl
      rw [flatMap_cons, forall_mem_cons]
      constructor
      · intro heq
        -- The replacement of the first member is not longer than the rest leaves room for.
        obtain ⟨y, ys, hfx⟩ := exists_cons_of_ne_nil hx
        rw [hfx, cons_append] at heq
        obtain ⟨rfl, hrest⟩ := cons.inj heq
        have hlen := congrArg length hrest
        rw [length_append] at hlen
        obtain rfl : ys = [] := length_eq_zero_iff.1 (by omega)
        exact ⟨hfx, (ih hl).1 hrest⟩
      · rintro ⟨hfx, hrest⟩
        rw [hfx, (ih hl).2 hrest]
        rfl

/-- Where members are replaced by what is made of them, if anything is, something is left. -/
theorem flatMap_orSelf_ne_nil (f : α → List α) {l : List α} (h : l ≠ []) :
    (l.flatMap fun x => if (f x).isEmpty then [x] else f x) ≠ [] := by
  obtain ⟨x, hx⟩ := exists_mem_of_ne_nil l h
  intro hnil
  have hx := flatMap_eq_nil_iff.1 hnil x hx
  split at hx
  · cases hx
  next hsome => exact hsome (isEmpty_iff.2 hx)

/-! ## Computations that may have no result -/

/-- The results of a list of computations, if each of them has one. -/
theorem mapM_eq_some_iff {f : α → Option β} {l : List α} {r : List β} :
    l.mapM f = some r ↔ l.map f = r.map some := by
  induction l generalizing r with
  | nil =>
      constructor
      · intro h
        obtain rfl := Option.some.inj h
        rfl
      · intro h
        rw [map_eq_nil_iff.1 h.symm]
        rfl
  | cons a l ih =>
      rw [mapM_cons]
      constructor
      · intro h
        obtain ⟨x, hx, h⟩ := Option.bind_eq_some_iff.1 h
        obtain ⟨xs, hxs, h⟩ := Option.bind_eq_some_iff.1 h
        obtain rfl := Option.some.inj h
        rw [map_cons, map_cons, hx, ih.1 hxs]
      · intro h
        cases r with
        | nil => cases h
        | cons x xs =>
            obtain ⟨hx, hxs⟩ := cons.inj h
            rw [hx, ih.2 hxs]
            rfl

/-- What computations on the members of a list come to, place by place. -/
theorem mapIdx_mapM_id_eq_some_iff {f : Nat → α → Option β} {l : List α} {r : List β} :
    (l.mapIdx f).mapM id = some r ↔ ∀ i : Nat, l[i]?.map (f i) = r[i]?.map some := by
  rw [mapM_eq_some_iff, map_id, mapIdx_eq_iff]
  exact forall_congr' fun i => by rw [getElem?_map, eq_comm]

/-- Results that share a feature with what they are made of share it place by place. -/
theorem map_eq_of_mapIdx_mapM_id {f : Nat → α → Option β} {l : List α} {r : List β}
    (h : (l.mapIdx f).mapM id = some r) {p : α → γ} {q : β → γ}
    (hf : ∀ i a b, f i a = some b → q b = p a) : r.map q = l.map p := by
  refine ext_getElem? fun i => ?_
  have hi := mapIdx_mapM_id_eq_some_iff.1 h i
  rw [getElem?_map, getElem?_map]
  cases hr : r[i]? with
  | none =>
      rw [hr] at hi
      rw [Option.map_eq_none_iff.1 hi]
      rfl
  | some b =>
      rw [hr] at hi
      obtain ⟨a, ha, hb⟩ := Option.map_eq_some_iff.1 hi
      rw [ha, Option.map_some, Option.map_some, hf i a b hb]

/-- Values made of the members of two lists, place by place, if they all fit. -/
theorem mapM_mapIdx_eq_zipWith {f : Nat → β → Option γ} {fits : α → β → Bool} {make : α → β → γ}
    {xs : List α} {ys : List β} (hlen : ys.length = xs.length)
    (hf : ∀ i x y, xs[i]? = some x → f i y = if fits x y then some (make x y) else none) :
    (ys.mapIdx f).mapM id =
      if (zipWith fits xs ys).all id then some (zipWith make xs ys) else none := by
  induction xs generalizing f ys with
  | nil =>
      obtain rfl := length_eq_zero_iff.1 hlen
      rfl
  | cons x xs ih =>
      cases ys with
      | nil => simp at hlen
      | cons y ys =>
          -- The numbers of the places after the first are one less among the rest.
          have hlen : ys.length = xs.length := Nat.succ.inj hlen
          have hrest := ih (f := fun i => f (i + 1)) hlen fun i z w hz => hf (i + 1) z w hz
          rw [mapIdx_cons, mapM_cons, hrest, id, hf 0 x y rfl]
          by_cases h : fits x y
          · by_cases hall : (zipWith fits xs ys).all id
            · simp [h, hall]
            · simp [h, hall]
          · simp [h]

end List
