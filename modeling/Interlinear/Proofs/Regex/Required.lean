import Interlinear.Proofs.Regex.Truncation

set_option autoImplicit false

/-! # What a match must read

Two things about the characters of a match can be read off an expression: the classes of the one
that it begins with (`Regex.firsts`), and whether one of some kind is always among them
(`Regex.requires`). In a repetition the first round decides about both
(`Regex.exists_of_mem_run_plus`). -/

namespace Interlinear

/-! ## Reading on -/

namespace Cursor

/-- The cursor `d` is where one is after reading on from `c`, past a character with a property. -/
def ReachesPast (P : Char → Prop) (c d : Cursor) : Prop :=
  ∃ before x after, P x ∧ c.rest = before ++ x :: after ++ d.rest

theorem Reaches.past {P : Char → Prop} {c d e : Cursor} (hcd : c.Reaches d)
    (hde : d.ReachesPast P e) : c.ReachesPast P e := by
  obtain ⟨piece, hc, -⟩ := hcd
  obtain ⟨before, x, after, hx, hd⟩ := hde
  exact ⟨piece ++ before, x, after, hx, by rw [hc, hd]; simp⟩

theorem ReachesPast.trans {P : Char → Prop} {c d e : Cursor} (hcd : c.ReachesPast P d)
    (hde : d.Reaches e) : c.ReachesPast P e := by
  obtain ⟨before, x, after, hx, hc⟩ := hcd
  obtain ⟨piece, hd, -⟩ := hde
  exact ⟨before, x, after ++ piece, hx, by rw [hc, hd]; simp⟩

end Cursor

namespace Regex

/-- A repetition begins with a match of what is repeated. -/
theorem exists_of_mem_run_plus {greedy : Bool} {r : Regex} {c d : Cursor}
    (h : d ∈ (plus greedy r).run c) : ∃ e ∈ r.run c, e.Reaches d := by
  -- The first round leads to `e`, and every other one goes on from there.
  refine of_mem_repeatFrom (P := fun d => ∃ e ∈ r.run c, e.Reaches d) ?_ greedy _ ?_ ?_ d
    (List.mem_reverse.1 h)
  · rintro b d ⟨e, he, hb⟩ hd
    exact ⟨e, he, hb.trans (reaches_of_mem_run hd)⟩
  · intro e he
    exact ⟨e, he, .refl e⟩
  · simp

/-! ## Characters that are always read -/

/-- Whether every match reads a character of some class that passes a test. -/
def requires (test : CharClass → Bool) : Regex → Bool
  | set s => test s
  | seq a b => a.requires test || b.requires test
  | alt a b => a.requires test && b.requires test
  | plus _ r => r.requires test
  | group _ r => r.requires test
  | empty | look _ | once _ => false

theorem reachesPast_of_requires {test : CharClass → Bool} {r : Regex} (h : r.requires test)
    {c d : Cursor} (hd : d ∈ r.run c) :
    c.ReachesPast (fun x => ∃ s, test s = true ∧ s.contains x = true) d := by
  induction r generalizing c d with
  | empty | look | once => simp [requires] at h
  | set s =>
      obtain ⟨x, hx, hrest, -⟩ := Cursor.mem_read hd
      exact ⟨[], x, [], ⟨s, h, hx⟩, hrest⟩
  | seq a b iha ihb =>
      obtain ⟨e, he, hd⟩ := exists_of_mem_run_seq hd
      rw [requires, Bool.or_eq_true] at h
      rcases h with ha | hb
      · exact (iha ha he).trans (reaches_of_mem_run hd)
      · exact (reaches_of_mem_run he).past (ihb hb hd)
  | alt a b iha ihb =>
      rw [requires, Bool.and_eq_true] at h
      rcases mem_run_alt hd with hd | hd
      · exact iha h.1 hd
      · exact ihb h.2 hd
  | plus greedy r ih =>
      obtain ⟨e, he, hed⟩ := exists_of_mem_run_plus hd
      exact (ih h he).trans hed
  | group name r ih =>
      obtain ⟨e, he, rfl⟩ := List.mem_map.1 hd
      exact @ih h c e he

/-! ## Characters that a match begins with -/

/-- The classes of the characters that a match can begin with. -/
def firsts : Regex → List CharClass
  | set s => [s]
  | seq a b => if a.reads then a.firsts else a.firsts ++ b.firsts
  | alt a b => a.firsts ++ b.firsts
  | plus _ r => r.firsts
  | group _ r => r.firsts
  | empty | look _ | once _ => []

/-- The text at a cursor begins with a character of one of the classes. -/
def BeginsBy (classes : List CharClass) (c : Cursor) : Prop :=
  ∃ x ∈ c.rest.head?, ∃ s ∈ classes, s.contains x = true

theorem BeginsBy.mono {classes classes' : List CharClass} {c : Cursor} (h : BeginsBy classes c)
    (hsubset : classes ⊆ classes') : BeginsBy classes' c := by
  obtain ⟨x, hx, s, hs, hcontains⟩ := h
  exact ⟨x, hx, s, hsubset hs, hcontains⟩

/-- A match that moves on begins with a character of the first classes. -/
theorem beginsBy_of_mem_run {r : Regex} {c d : Cursor} (hd : d ∈ r.run c) :
    d.rest = c.rest ∨ BeginsBy r.firsts c := by
  induction r generalizing c d with
  | empty =>
      obtain rfl := List.mem_singleton.1 hd
      exact Or.inl rfl
  | set s =>
      obtain ⟨x, hx, hrest, -⟩ := Cursor.mem_read hd
      exact Or.inr ⟨x, by rw [hrest]; rfl, s, List.mem_singleton_self s, hx⟩
  | look l =>
      obtain ⟨rfl, -⟩ := eq_of_mem_run_look hd
      exact Or.inl rfl
  | once mark => exact Or.inl (Cursor.mem_pass hd).1
  | seq a b iha ihb =>
      obtain ⟨e, he, hd⟩ := exists_of_mem_run_seq hd
      rw [firsts]
      by_cases hreads : a.reads = true
      · rw [if_pos hreads]
        rcases iha he with hsame | hbegins
        · -- A match of `a` always moves on.
          have hlt := taken_lt_of_reads hreads he
          have hlength := (reaches_of_mem_run he).taken_add_length
          rw [hsame] at hlength
          omega
        · exact Or.inr hbegins
      · rw [if_neg hreads]
        rcases iha he with hsame | hbegins
        · rcases ihb hd with hsame' | ⟨x, hx, hs⟩
          · exact Or.inl (hsame'.trans hsame)
          · rw [hsame] at hx
            exact Or.inr (BeginsBy.mono ⟨x, hx, hs⟩ (List.subset_append_right _ _))
        · exact Or.inr (hbegins.mono (List.subset_append_left _ _))
  | alt a b iha ihb =>
      rcases mem_run_alt hd with hd | hd
      · exact (iha hd).imp_right (·.mono (List.subset_append_left _ _))
      · exact (ihb hd).imp_right (·.mono (List.subset_append_right _ _))
  | plus greedy r ih =>
      -- As long as no round has moved on, the next one begins where the first one does.
      refine of_mem_repeatFrom (P := fun d => d.rest = c.rest ∨ BeginsBy r.firsts c) ?_ greedy _
        (fun d hd => ih hd) (by simp) d (List.mem_reverse.1 hd)
      rintro b e (hsame | hbegins) he
      · rcases ih he with hsame' | ⟨x, hx, hs⟩
        · exact Or.inl (hsame'.trans hsame)
        · rw [hsame] at hx
          exact Or.inr ⟨x, hx, hs⟩
      · exact Or.inr hbegins
  | group name r ih =>
      obtain ⟨e, he, rfl⟩ := List.mem_map.1 hd
      exact @ih c e he

end Regex

end Interlinear
