import Interlinear.Proofs.Regex.Positions

set_option autoImplicit false

/-! # Runs of characters

At the start of a text, a greedy repetition of a class takes the longest run of its characters that
is there (`Regex.taken_of_find?_run`). Its match does not depend on where in the run it begins: it
always ends where the run does. -/

namespace Interlinear

namespace Regex

/-! ## Matching at the start of a text -/

theorem find?_textStart (r : Regex) (text : List Char) :
    (seq (look .textStart) r).find? text = (r.run (.start text)).head? := by
  have hrun : (seq (look .textStart) r).run (.start text)
      = (Found.ofList (r.run (.start text))).toList := by
    simp [run, Cursor.start, Look.holds]
  rw [find?, if_pos (by rfl), hrun, Found.head?_ofList]

/-- A single character of a class. -/
theorem find?_textStart_set {s : CharClass} {text : List Char} {d : Cursor}
    (h : (seq (look .textStart) (set s)).find? text = some d) :
    ∃ x, s.contains x = true ∧ text.head? = some x ∧ d.taken = 1 := by
  rw [find?_textStart] at h
  obtain ⟨x, hx, hrest, htaken, -⟩ := Cursor.mem_read (List.mem_of_head? h)
  have htext : text = x :: d.rest := hrest
  exact ⟨x, hx, by rw [htext]; rfl, htaken⟩

/-- The places that a greedy repetition of a class adds to what was found: those behind each
character of the run, the last of them first. -/
theorem taken_repeatFrom_read (s : CharClass) {bound : Nat} {c : Cursor} {f : Found}
    (hbound : c.rest.length < bound) (hf : ∀ d ∈ f.cursors, d.taken ≤ c.taken) :
    (repeatFrom (Cursor.read s) true bound c f).cursors.map (·.taken)
      = List.range' (c.taken + 1) (c.rest.takeWhile s.contains).length
        ++ f.cursors.map (·.taken) := by
  induction bound generalizing c f with
  | zero => omega
  | succ bound ih =>
      rw [repeatFrom, Cursor.read]
      cases hrest : c.rest with
      | nil => rfl
      | cons x rest =>
          have hlen : rest.length < bound := by
            rw [hrest, List.length_cons] at hbound
            omega
          by_cases hx : s.contains x
          · let e : Cursor := ⟨some x, rest, c.taken + 1, c.groups, []⟩
            -- All places found so far are before the one behind `x`.
            have hnew : f.has e = false := by
              rw [Found.has_eq, List.any_eq_false]
              intro d hd
              have hle := hf d hd
              have he : e.taken = c.taken + 1 := rfl
              rw [beq_iff_eq]
              omega
            have hdeep := ih (c := e) hlen fun d hd => Nat.le_succ_of_le (hf d hd)
            simp only [if_pos hx, List.foldl_cons, List.foldl_nil]
            rw [hnew, if_neg Bool.false_ne_true, if_pos trivial, Found.cursors_add, List.map_cons,
              hdeep, List.takeWhile_cons_of_pos hx, List.length_cons, List.range'_succ]
            rfl
          · rw [List.takeWhile_cons_of_neg hx]
            simp only [if_neg hx, List.foldl_nil, List.length_nil, List.range'_zero,
              List.nil_append]

/-- **Runs.** The match of a greedy repetition of a class is the longest run of its characters. -/
theorem taken_of_find?_run {s : CharClass} {text : List Char} {d : Cursor}
    (h : (seq (look .textStart) (plus true (set s))).find? text = some d) :
    d.taken = (text.takeWhile s.contains).length ∧ 0 < d.taken := by
  have hbound : (Cursor.start text).rest.length < text.length + 2 := by
    show text.length < text.length + 2
    omega
  have hplaces := taken_repeatFrom_read s (f := .none) hbound (by simp)
  have hd : (List.range' 1 (text.takeWhile s.contains).length).getLast? = some d.taken := by
    rw [find?_textStart, run, Found.toList, List.head?_reverse] at h
    have hmap := congrArg (Option.map Cursor.taken) h
    rw [← List.getLast?_map] at hmap
    rw [← List.append_nil (List.range' _ _)]
    exact (congrArg List.getLast? hplaces).symm.trans hmap
  rw [List.getLast?_range'] at hd
  split at hd
  · simp at hd
  · have := Option.some.inj hd
    omega

end Regex

end Interlinear
