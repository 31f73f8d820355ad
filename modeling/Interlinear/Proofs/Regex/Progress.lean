import Interlinear.Proofs.Regex.Runs
import Interlinear.Proofs.Regex.Truncation

set_option autoImplicit false

/-! # Expressions that match

The other modules tell what a match is like if there is one. Here it is shown that there is one: an
expression that can be skipped matches everywhere (`Regex.run_ne_nil_of_skippable`), and one that
takes the characters of a class matches wherever one of them comes next
(`Regex.run_ne_nil_of_takes`). Both are read off the expression. -/

namespace Interlinear

namespace Found

theorem toList_ofList_ne_nil {cs : List Cursor} (h : cs ≠ []) : (ofList cs).toList ≠ [] := by
  rwa [Ne, ← List.head?_eq_none_iff, head?_ofList, List.head?_eq_none_iff]

end Found

namespace Regex

/-! ## Repetitions -/

theorem subset_cursors_foldl {visit : Found → Cursor → Found}
    (h : ∀ f d, f.cursors ⊆ (visit f d).cursors) (f : Found) (ds : List Cursor) :
    f.cursors ⊆ (ds.foldl visit f).cursors := by
  induction ds generalizing f with
  | nil => exact List.Subset.refl _
  | cons d ds ih => exact List.Subset.trans (h f d) (ih (visit f d))

section

variable {step : Cursor → List Cursor} {greedy : Bool} {bound : Nat}

theorem subset_cursors_visit (h : ∀ d f, f.cursors ⊆ (repeatFrom step greedy bound d f).cursors)
    (f : Found) (d : Cursor) :
    f.cursors ⊆ (if f.has d then f
      else if greedy then (repeatFrom step greedy bound d f).add d
      else repeatFrom step greedy bound d (f.add d)).cursors := by
  split
  · exact List.Subset.refl _
  · split
    · exact List.Subset.trans (h d f) (List.subset_cons_self _ _)
    · exact List.Subset.trans (List.subset_cons_self d _) (h d (f.add d))

/-- A repetition keeps the places that were found before. -/
theorem subset_cursors_repeatFrom (c : Cursor) (f : Found) :
    f.cursors ⊆ (repeatFrom step greedy bound c f).cursors := by
  induction bound generalizing c f with
  | zero => exact List.Subset.refl _
  | succ bound ih => exact subset_cursors_foldl (subset_cursors_visit ih) f (step c)

/-- A repetition finds a place if its first step does. -/
theorem cursors_repeatFrom_ne_nil {c : Cursor} (h : step c ≠ []) :
    (repeatFrom step greedy (bound + 1) c .none).cursors ≠ [] := by
  obtain ⟨d, ds, hstep⟩ := List.exists_cons_of_ne_nil h
  rw [repeatFrom, hstep, List.foldl_cons]
  have hd : Found.none.has d = false := by simp [Found.has_eq]
  rw [hd, if_neg Bool.false_ne_true]
  -- The cursor `d` is found first, and stays while the other steps are gone through.
  refine List.ne_nil_of_mem
    (subset_cursors_foldl (subset_cursors_visit subset_cursors_repeatFrom) _ ds (a := d) ?_)
  split
  · exact List.mem_cons_self
  · exact subset_cursors_repeatFrom _ _ List.mem_cons_self

end

/-! ## Expressions that can be skipped -/

/-- Whether an expression matches everywhere, whatever comes next. -/
def skippable : Regex → Bool
  | empty => true
  | seq a b => a.skippable && b.skippable
  | alt a b => a.skippable || b.skippable
  | plus _ r => r.skippable
  | group _ r => r.skippable
  | set _ | look _ | once _ => false

theorem run_seq_ne_nil {a b : Regex} {c : Cursor} (ha : a.run c ≠ [])
    (hb : ∀ d, b.run d ≠ []) : (seq a b).run c ≠ [] := by
  obtain ⟨d, ds, hd⟩ := List.exists_cons_of_ne_nil ha
  obtain ⟨e, es, he⟩ := List.exists_cons_of_ne_nil (hb d)
  refine Found.toList_ofList_ne_nil (List.ne_nil_of_mem (a := e) ?_)
  rw [hd, List.flatMap_cons, he]
  exact List.mem_append_left _ List.mem_cons_self

theorem run_alt_ne_nil {a b : Regex} {c : Cursor} (h : a.run c ≠ [] ∨ b.run c ≠ []) :
    (alt a b).run c ≠ [] := by
  refine Found.toList_ofList_ne_nil ?_
  rw [Ne, List.append_eq_nil_iff]
  exact fun hnil => h.elim (· hnil.1) (· hnil.2)

theorem run_plus_ne_nil {r : Regex} {c : Cursor} (h : r.run c ≠ []) (greedy : Bool) :
    (plus greedy r).run c ≠ [] :=
  mt List.reverse_eq_nil_iff.1 (cursors_repeatFrom_ne_nil h)

theorem run_group_ne_nil {r : Regex} {c : Cursor} (h : r.run c ≠ []) (name : String) :
    (group name r).run c ≠ [] :=
  mt List.map_eq_nil_iff.1 h

theorem run_ne_nil_of_skippable {r : Regex} (h : r.skippable) (c : Cursor) : r.run c ≠ [] := by
  induction r generalizing c with
  | empty => exact List.cons_ne_nil _ _
  | set | look | once => simp [skippable] at h
  | seq a b iha ihb =>
      rw [skippable, Bool.and_eq_true] at h
      exact run_seq_ne_nil (iha h.1 c) (ihb h.2)
  | alt a b iha ihb =>
      rw [skippable, Bool.or_eq_true] at h
      exact run_alt_ne_nil (h.imp (iha · c) (ihb · c))
  | plus greedy r ih => exact run_plus_ne_nil (ih h c) greedy
  | group name r ih => exact run_group_ne_nil (ih h c) name

/-! ## Expressions that take a class -/

/-- Whether an expression matches wherever a character of a class comes next. -/
def takes (s : CharClass) : Regex → Bool
  | set t => t = s
  | seq a b => a.takes s && b.skippable
  | alt a b => a.takes s || b.takes s
  | plus _ r => r.takes s
  | group _ r => r.takes s
  | empty | look _ | once _ => false

theorem run_ne_nil_of_takes {s : CharClass} {r : Regex} (h : r.takes s) {x : Char}
    (hx : s.contains x = true) {c : Cursor} (hc : c.rest.head? = some x) : r.run c ≠ [] := by
  induction r with
  | empty | look | once => simp [takes] at h
  | set t =>
      obtain rfl := of_decide_eq_true h
      obtain ⟨rest, hrest⟩ := List.head?_eq_some_iff.1 hc
      rw [run, Cursor.read, hrest]
      simp [hx]
  | seq a b iha _ =>
      rw [takes, Bool.and_eq_true] at h
      exact run_seq_ne_nil (iha h.1) (run_ne_nil_of_skippable h.2)
  | alt a b iha ihb =>
      rw [takes, Bool.or_eq_true] at h
      exact run_alt_ne_nil (h.imp iha ihb)
  | plus greedy r ih => exact run_plus_ne_nil (ih h) greedy
  | group name r ih => exact run_group_ne_nil (ih h) name

/-- Where an expression takes the first character of a text, its match is not empty. -/
theorem exists_find?_of_takes {s : CharClass} {r : Regex} (h : r.takes s) (hreads : r.reads)
    {x : Char} (hx : s.contains x = true) (rest : List Char) :
    ∃ d, (seq (look .textStart) r).find? (x :: rest) = some d ∧ d.taken ≠ 0 := by
  have hrun : r.run (.start (x :: rest)) ≠ [] := run_ne_nil_of_takes h hx rfl
  obtain ⟨d, ds, hd⟩ := List.exists_cons_of_ne_nil hrun
  have htaken : 0 < d.taken := taken_lt_of_reads hreads (hd ▸ List.mem_cons_self)
  exact ⟨d, by rw [find?_textStart, hd, List.head?_cons], Nat.ne_of_gt htaken⟩

end Regex

end Interlinear
