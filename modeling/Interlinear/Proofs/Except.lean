set_option autoImplicit false

/-! # Computations that can fail

When a computation made of several has a result, so has each of them. When it fails, one of them
fails in the same way. -/

namespace Except

theorem map_eq_ok_iff {ε α β : Type} {x : Except ε α} {f : α → β} {r : β} :
    x.map f = .ok r ↔ ∃ a, x = .ok a ∧ f a = r := by
  cases x with
  | error e => simp [Except.map]
  | ok a => simp [Except.map]

theorem bind_eq_ok_iff {ε α β : Type} {x : Except ε α} {f : α → Except ε β} {r : β} :
    x >>= f = .ok r ↔ ∃ a, x = .ok a ∧ f a = .ok r := by
  cases x with
  | error e =>
      constructor
      · intro h
        cases h
      · rintro ⟨a, h, -⟩
        cases h
  | ok a =>
      constructor
      · intro h
        exact ⟨a, rfl, h⟩
      · rintro ⟨b, hb, h⟩
        cases hb
        exact h

theorem map_eq_error_iff {ε α β : Type} {x : Except ε α} {f : α → β} {e : ε} :
    x.map f = .error e ↔ x = .error e := by
  cases x with
  | error e => simp [Except.map]
  | ok a => simp [Except.map]

theorem bind_eq_error_iff {ε α β : Type} {x : Except ε α} {f : α → Except ε β} {e : ε} :
    x >>= f = .error e ↔ x = .error e ∨ ∃ a, x = .ok a ∧ f a = .error e := by
  cases x with
  | error e' =>
      constructor
      · intro h
        exact Or.inl (congrArg _ (Except.error.inj h))
      · rintro (h | ⟨a, h, -⟩)
        · exact congrArg _ (Except.error.inj h)
        · cases h
  | ok a =>
      constructor
      · intro h
        exact Or.inr ⟨a, rfl, h⟩
      · rintro (h | ⟨b, hb, h⟩)
        · cases h
        · cases hb
          exact h

/-- A list of computations has results if each of them has one. -/
theorem mapM_eq_ok_iff {ε α β : Type} {f : α → Except ε β} {l : List α} {r : List β} :
    l.mapM f = .ok r ↔ l.map f = r.map .ok := by
  induction l generalizing r with
  | nil =>
      constructor
      · intro h
        cases h
        rfl
      · intro h
        rw [List.map_eq_nil_iff.1 h.symm]
        rfl
  | cons a l ih =>
      rw [List.mapM_cons, bind_eq_ok_iff]
      constructor
      · rintro ⟨x, hx, h⟩
        obtain ⟨xs, hxs, h⟩ := bind_eq_ok_iff.1 h
        cases h
        rw [List.map_cons, List.map_cons, hx, ih.1 hxs]
      · intro h
        cases r with
        | nil => simp at h
        | cons x xs =>
            rw [List.map_cons, List.map_cons] at h
            obtain ⟨hx, hxs⟩ := List.cons.inj h
            exact ⟨x, hx, bind_eq_ok_iff.2 ⟨xs, ih.2 hxs, rfl⟩⟩

theorem exists_of_mem_mapM {ε α β : Type} {f : α → Except ε β} {l : List α} {r : List β}
    (h : l.mapM f = .ok r) {b : β} (hb : b ∈ r) : ∃ a ∈ l, f a = .ok b := by
  have hmem : Except.ok b ∈ l.map f := by
    rw [mapM_eq_ok_iff.1 h]
    exact List.mem_map_of_mem hb
  exact List.mem_map.1 hmem

/-- A list of computations fails as one of them does. -/
theorem exists_of_mapM_eq_error {ε α β : Type} {f : α → Except ε β} {l : List α} {e : ε}
    (h : l.mapM f = .error e) : ∃ a ∈ l, f a = .error e := by
  induction l with
  | nil => cases h
  | cons a l ih =>
      rw [List.mapM_cons] at h
      rcases bind_eq_error_iff.1 h with ha | ⟨b, -, h⟩
      · exact ⟨a, List.mem_cons_self, ha⟩
      rcases bind_eq_error_iff.1 h with hl | ⟨bs, -, h⟩
      · obtain ⟨x, hx, hfault⟩ := ih hl
        exact ⟨x, List.mem_cons_of_mem a hx, hfault⟩
      · cases h

theorem exists_mapM_eq_ok_iff {ε α β : Type} {f : α → Except ε β} {l : List α} :
    (∃ r, l.mapM f = .ok r) ↔ ∀ a ∈ l, ∃ b, f a = .ok b := by
  induction l with
  | nil => exact iff_of_true ⟨[], rfl⟩ (by simp)
  | cons a l ih =>
      rw [List.forall_mem_cons, ← ih, List.mapM_cons]
      constructor
      · rintro ⟨r, h⟩
        obtain ⟨b, hb, h⟩ := bind_eq_ok_iff.1 h
        obtain ⟨bs, hbs, -⟩ := bind_eq_ok_iff.1 h
        exact ⟨⟨b, hb⟩, bs, hbs⟩
      · rintro ⟨⟨b, hb⟩, bs, hbs⟩
        exact ⟨b :: bs, bind_eq_ok_iff.2 ⟨b, hb, bind_eq_ok_iff.2 ⟨bs, hbs, rfl⟩⟩⟩

/-- What each step of a fold keeps holds of what it comes to. -/
theorem foldlM_preserves {ε α β : Type} {f : β → α → Except ε β} {P : β → Prop} {l : List α}
    (hstep : ∀ a ∈ l, ∀ b r, P b → f b a = .ok r → P r) {b r : β} (hb : P b)
    (h : l.foldlM f b = .ok r) : P r := by
  induction l generalizing b with
  | nil =>
      cases h
      exact hb
  | cons a l ih =>
      obtain ⟨ha, hl⟩ := List.forall_mem_cons.1 hstep
      rw [List.foldlM_cons] at h
      obtain ⟨b', hb', h⟩ := bind_eq_ok_iff.1 h
      exact ih hl (ha b b' hb hb') h

/-- A fold comes to something if each step does, whatever it begins with. -/
theorem exists_foldlM_eq_ok_iff {ε α β : Type} {f : β → α → Except ε β} {q : α → Prop}
    (hf : ∀ b a, (∃ r, f b a = .ok r) ↔ q a) (l : List α) (b : β) :
    (∃ r, l.foldlM f b = .ok r) ↔ ∀ a ∈ l, q a := by
  induction l generalizing b with
  | nil => exact iff_of_true ⟨b, rfl⟩ (by simp)
  | cons a l ih =>
      rw [List.forall_mem_cons, ← hf b a, List.foldlM_cons]
      constructor
      · rintro ⟨r, h⟩
        obtain ⟨b', hb', h⟩ := bind_eq_ok_iff.1 h
        exact ⟨⟨b', hb'⟩, (ih b').1 ⟨r, h⟩⟩
      · rintro ⟨⟨b', hb'⟩, hl⟩
        obtain ⟨r, h⟩ := (ih b').2 hl
        exact ⟨r, bind_eq_ok_iff.2 ⟨b', hb', h⟩⟩

end Except
