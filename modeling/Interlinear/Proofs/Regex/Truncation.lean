import Interlinear.Proofs.Regex.Positions

set_option autoImplicit false

/-! # Matching a text that is cut off

What a match does depends on what comes after it only as far as the match looks there. An expression
that looks ahead by reading alone (`Regex.forward`) finds, in a text cut off after `k` characters,
the matches that end within these characters, and in the same order (`Regex.run_cut`).

Nothing of the kind holds of a single match: if the preferred match ends beyond the cut, another one
takes its place. -/

namespace Interlinear

/-! ## Cutting off -/

/-- The cursor in the text cut off after its first `k` characters. -/
def Cursor.cut (k : Nat) (c : Cursor) : Cursor := { c with rest := c.rest.take (k - c.taken) }

/-- The cursors within the first `k` characters, in the text cut off there. -/
def upTo (k : Nat) (cs : List Cursor) : List Cursor :=
  (cs.filter fun c => c.taken ≤ k).map (·.cut k)

theorem Cursor.cut_start (k : Nat) (text : List Char) : (start text).cut k = start (text.take k) :=
  rfl

section upTo

variable {k : Nat}

@[simp]
theorem upTo_nil : upTo k [] = [] := rfl

theorem upTo_cons_of_le {c : Cursor} (h : c.taken ≤ k) (cs : List Cursor) :
    upTo k (c :: cs) = c.cut k :: upTo k cs := by
  rw [upTo, List.filter_cons_of_pos (by simpa using h)]
  rfl

theorem upTo_cons_of_lt {c : Cursor} (h : k < c.taken) (cs : List Cursor) :
    upTo k (c :: cs) = upTo k cs := by
  rw [upTo, List.filter_cons_of_neg (by simpa using h)]
  rfl

theorem upTo_append (cs ds : List Cursor) : upTo k (cs ++ ds) = upTo k cs ++ upTo k ds := by
  rw [upTo, List.filter_append, List.map_append]
  rfl

theorem upTo_reverse (cs : List Cursor) : upTo k cs.reverse = (upTo k cs).reverse := by
  rw [upTo, List.filter_reverse, List.map_reverse]
  rfl

theorem upTo_eq_nil {cs : List Cursor} (h : ∀ c ∈ cs, k < c.taken) : upTo k cs = [] := by
  rw [upTo, List.map_eq_nil_iff, List.filter_eq_nil_iff]
  intro c hc
  have hlt := h c hc
  simpa using hlt

theorem mem_upTo {d : Cursor} {cs : List Cursor} :
    d ∈ upTo k cs ↔ ∃ c ∈ cs, c.taken ≤ k ∧ c.cut k = d := by
  simp [upTo, and_assoc]

theorem head?_upTo {cs : List Cursor} {c : Cursor} (h : cs.head? = some c) (hk : c.taken ≤ k) :
    (upTo k cs).head? = some (c.cut k) := by
  cases cs with
  | nil => simp at h
  | cons d cs =>
      obtain rfl := Option.some.inj h
      rw [upTo_cons_of_le hk]
      rfl

theorem upTo_flatMap {f g : Cursor → List Cursor} {cs : List Cursor}
    (hle : ∀ c ∈ cs, c.taken ≤ k → g (c.cut k) = upTo k (f c))
    (hlt : ∀ c ∈ cs, k < c.taken → ∀ d ∈ f c, k < d.taken) :
    (upTo k cs).flatMap g = upTo k (cs.flatMap f) := by
  induction cs with
  | nil => rfl
  | cons c cs ih =>
      obtain ⟨hle, hles⟩ := List.forall_mem_cons.1 hle
      obtain ⟨hlt, hlts⟩ := List.forall_mem_cons.1 hlt
      rw [List.flatMap_cons, upTo_append, ← ih hles hlts]
      by_cases hc : c.taken ≤ k
      · rw [upTo_cons_of_le hc, List.flatMap_cons, hle hc]
      · have hc : k < c.taken := Nat.lt_of_not_le hc
        rw [upTo_cons_of_lt hc, upTo_eq_nil (hlt hc), List.nil_append]

end upTo

/-! ## Collecting places -/

/-- What was found in the text cut off after `k` characters is what was found up to there in the
whole text. -/
def Found.Restricts (k : Nat) (f f' : Found) : Prop := f'.cursors = upTo k f.cursors

namespace Found.Restricts

variable {k : Nat} {f f' : Found}

theorem none : Restricts k .none .none := rfl

theorem toList (h : Restricts k f f') : f'.toList = upTo k f.toList := by
  rw [Found.toList, Found.toList, upTo_reverse, h]

/-- Up to the cut, the same places were found. -/
theorem has (h : Restricts k f f') {c : Cursor} (hc : c.taken ≤ k) :
    f'.has (c.cut k) = f.has c := by
  have hcut : ∀ d : Cursor, (d.cut k).taken = d.taken := fun d => rfl
  rw [has_eq, has_eq, h, Bool.eq_iff_iff]
  simp only [List.any_eq_true, mem_upTo, beq_iff_eq]
  constructor
  · rintro ⟨_, ⟨d, hd, -, rfl⟩, htaken⟩
    exact ⟨d, hd, htaken⟩
  · rintro ⟨d, hd, htaken⟩
    exact ⟨d.cut k, ⟨d, hd, by omega, rfl⟩, htaken⟩

theorem add (h : Restricts k f f') {c : Cursor} (hc : c.taken ≤ k) :
    Restricts k (f.add c) (f'.add (c.cut k)) := by
  rw [Restricts, cursors_add, cursors_add, upTo_cons_of_le hc, h]

theorem add_of_lt (h : Restricts k f f') {c : Cursor} (hc : k < c.taken) :
    Restricts k (f.add c) f' := by
  rw [Restricts, cursors_add, upTo_cons_of_lt hc, h]

theorem foldl_add (h : Restricts k f f') (cs : List Cursor) :
    Restricts k (cs.foldl (fun f c => if f.has c then f else f.add c) f)
      ((upTo k cs).foldl (fun f c => if f.has c then f else f.add c) f') := by
  induction cs generalizing f f' with
  | nil => exact h
  | cons c cs ih =>
      rw [List.foldl_cons]
      by_cases hc : c.taken ≤ k
      · rw [upTo_cons_of_le hc, List.foldl_cons, h.has hc]
        split
        · exact ih h
        · exact ih (h.add hc)
      · have hc : k < c.taken := Nat.lt_of_not_le hc
        rw [upTo_cons_of_lt hc]
        split
        · exact ih h
        · exact ih (h.add_of_lt hc)

end Found.Restricts

theorem toList_ofList_upTo (k : Nat) (cs : List Cursor) :
    (Found.ofList (upTo k cs)).toList = upTo k (Found.ofList cs).toList :=
  (Found.Restricts.none.foldl_add cs).toList

namespace Regex

/-! ## Expressions that look ahead by reading -/

/-- Whether every match reads a character. -/
def reads : Regex → Bool
  | set _ => true
  | seq a b => a.reads || b.reads
  | alt a b => a.reads && b.reads
  | plus _ r => r.reads
  | group _ r => r.reads
  | _ => false

/-- Whether nothing but the characters read decides about a match, apart from where the text starts.
Every round of a repetition must read a character. -/
def forward : Regex → Bool
  | look .textStart => true
  | look _ => false
  | seq a b => a.forward && b.forward
  | alt a b => a.forward && b.forward
  | plus _ r => r.forward && r.reads
  | group _ r => r.forward
  | empty | set _ | once _ => true

theorem taken_lt_of_reads {r : Regex} (h : r.reads) {c d : Cursor} (hd : d ∈ r.run c) :
    c.taken < d.taken := by
  induction r generalizing c d with
  | empty | look l | once mark => simp [reads] at h
  | set s =>
      obtain ⟨x, -, -, htaken, -⟩ := Cursor.mem_read hd
      omega
  | seq a b iha ihb =>
      obtain ⟨e, he, hd⟩ := exists_of_mem_run_seq hd
      have hce := (reaches_of_mem_run he).taken_le
      have hed := (reaches_of_mem_run hd).taken_le
      rw [reads, Bool.or_eq_true] at h
      rcases h with h | h
      · have := iha h he
        omega
      · have := ihb h hd
        omega
  | alt a b iha ihb =>
      rw [reads, Bool.and_eq_true] at h
      rcases mem_run_alt hd with hd | hd
      · exact iha h.1 hd
      · exact ihb h.2 hd
  | plus greedy r ih =>
      refine of_mem_repeatFrom (P := fun d => c.taken < d.taken) ?_ greedy _ (fun d hd => ih h hd)
        (by simp) d (List.mem_reverse.1 hd)
      intro d e hd he
      have hde := (reaches_of_mem_run he).taken_le
      omega
  | group name r ih =>
      obtain ⟨e, he, rfl⟩ := List.mem_map.1 hd
      exact @ih h c e he

/-! ## The matches up to a cut -/

theorem read_cut (s : CharClass) {k : Nat} {c : Cursor} (hc : c.taken ≤ k) :
    (c.cut k).read s = upTo k (c.read s) := by
  cases hrest : c.rest with
  | nil => simp [Cursor.read, Cursor.cut, hrest]
  | cons x rest =>
      by_cases hk : c.taken = k
      · have hcut : (c.cut k).rest = [] := by simp [Cursor.cut, hk]
        rw [Cursor.read, hcut]
        refine (upTo_eq_nil fun d hd => ?_).symm
        obtain ⟨-, -, -, htaken, -⟩ := Cursor.mem_read hd
        omega
      · obtain ⟨n, hn⟩ : ∃ n, k - c.taken = n + 1 := ⟨k - c.taken - 1, by omega⟩
        have hn' : k - (c.taken + 1) = n := by omega
        have hcut : (c.cut k).rest = x :: rest.take n := by
          simp [Cursor.cut, hrest, hn]
        rw [Cursor.read, hcut, Cursor.read, hrest]
        show (if s.contains x then _ else _) = upTo k (if s.contains x then _ else _)
        split
        · rw [upTo_cons_of_le (by show c.taken + 1 ≤ k; omega)]
          simp [Cursor.cut, hn']
        · rfl

theorem pass_cut (mark : Nat) {k : Nat} {c : Cursor} (hc : c.taken ≤ k) :
    (c.cut k).pass mark = upTo k (c.pass mark) := by
  rw [Cursor.pass, Cursor.pass]
  show (if c.marks.contains mark then _ else _) = _
  split
  · rfl
  · rw [upTo_cons_of_le (by exact hc)]
    rfl

theorem remember_cut (name : String) {k : Nat} {c d : Cursor} (hd : d.taken ≤ k) :
    (d.cut k).remember name (c.cut k) = (d.remember name c).cut k := by
  have htake : (c.rest.take (k - c.taken)).take (d.taken - c.taken)
      = c.rest.take (d.taken - c.taken) := by
    rw [List.take_take, Nat.min_eq_left (by omega)]
  simp [Cursor.remember, Cursor.cut, htake]

/-- Past the cut, a repetition finds nothing that counts. -/
theorem restricts_repeatFrom_of_lt {k : Nat} {step : Cursor → List Cursor}
    (hstep : ∀ {c d}, d ∈ step c → c.taken < d.taken) (greedy : Bool) (bound : Nat) {c : Cursor}
    (hc : k < c.taken) {f f' : Found} (h : f.Restricts k f') :
    (repeatFrom step greedy bound c f).Restricts k f' := by
  induction bound generalizing c f with
  | zero => exact h
  | succ bound ih =>
      rw [repeatFrom]
      refine List.foldlRecOn (motive := fun f : Found => f.Restricts k f') _ _ h ?_
      intro f h d hd
      have hd : k < d.taken := Nat.lt_trans hc (hstep hd)
      split
      · exact h
      · split
        · exact (ih hd h).add_of_lt hd
        · exact ih hd (h.add_of_lt hd)

/-- Both repetitions have bounds that no chain of steps comes up to, so that they differ in nothing
but the cut. -/
theorem restricts_repeatFrom {k : Nat} {step : Cursor → List Cursor}
    (hreach : ∀ {c d}, d ∈ step c → c.Reaches d) (hread : ∀ {c d}, d ∈ step c → c.taken < d.taken)
    (hcut : ∀ {c : Cursor}, c.taken ≤ k → step (c.cut k) = upTo k (step c))
    (greedy : Bool) {bound bound' : Nat} {c : Cursor} (hc : c.taken ≤ k)
    (hbound : c.rest.length < bound) (hbound' : (c.cut k).rest.length < bound') {f f' : Found}
    (h : f.Restricts k f') :
    (repeatFrom step greedy bound c f).Restricts k
      (repeatFrom step greedy bound' (c.cut k) f') := by
  induction bound generalizing bound' c f f' with
  | zero => omega
  | succ bound ih =>
      obtain ⟨bound', rfl⟩ : ∃ n, bound' = n + 1 := ⟨bound' - 1, by omega⟩
      rw [repeatFrom, repeatFrom, hcut hc]
      -- Both repetitions go through the same steps, but for those that lead past the cut.
      have hall : ∀ d ∈ step c, c.Reaches d ∧ c.taken < d.taken :=
        fun d hd => ⟨hreach hd, hread hd⟩
      generalize step c = ds at hall
      induction ds generalizing f f' with
      | nil => exact h
      | cons d ds ihds =>
          obtain ⟨⟨hcd, hlt⟩, hall⟩ := List.forall_mem_cons.1 hall
          rw [List.foldl_cons]
          by_cases hd : d.taken ≤ k
          · rw [upTo_cons_of_le hd, List.foldl_cons, h.has hd]
            have hlen := hcd.taken_add_length
            have hlen' : (d.cut k).rest.length < bound' := by
              rw [Cursor.cut, List.length_take] at hbound' ⊢
              omega
            have hnext : ∀ {g g' : Found}, g.Restricts k g' →
                (repeatFrom step greedy bound d g).Restricts k
                  (repeatFrom step greedy bound' (d.cut k) g') :=
              fun hg => ih hd (by omega) hlen' hg
            refine ihds ?_ hall
            split
            · exact h
            · split
              · exact (hnext h).add hd
              · exact hnext (h.add hd)
          · have hd : k < d.taken := Nat.lt_of_not_le hd
            have hnext : ∀ {g : Found}, g.Restricts k f' →
                (repeatFrom step greedy bound d g).Restricts k f' :=
              fun hg => restricts_repeatFrom_of_lt hread greedy bound hd hg
            rw [upTo_cons_of_lt hd]
            refine ihds ?_ hall
            split
            · exact h
            · split
              · exact (hnext h).add_of_lt hd
              · exact hnext (h.add_of_lt hd)

/-- **Matching a text that is cut off.** The matches of an expression that looks ahead by reading
are those of the whole text that end before the cut. -/
theorem run_cut {r : Regex} (h : r.forward) {k : Nat} {c : Cursor} (hc : c.taken ≤ k) :
    r.run (c.cut k) = upTo k (r.run c) := by
  induction r generalizing c with
  | empty =>
      rw [run, run, upTo_cons_of_le hc]
      rfl
  | set s => exact read_cut s hc
  | look l =>
      cases l with
      | textStart =>
          rw [run, run]
          show (if c.before.isNone then _ else _) = upTo k (if c.before.isNone then _ else _)
          split
          · rw [upTo_cons_of_le hc]
            rfl
          · rfl
      | _ => simp [forward] at h
  | once mark => exact pass_cut mark hc
  | seq a b iha ihb =>
      rw [forward, Bool.and_eq_true] at h
      have hseq : (upTo k (a.run c)).flatMap b.run = upTo k ((a.run c).flatMap b.run) := by
        refine upTo_flatMap (fun d _ hd => ihb h.2 hd) fun d _ hd e he => ?_
        exact Nat.lt_of_lt_of_le hd (reaches_of_mem_run he).taken_le
      rw [run, run, iha h.1 hc, hseq, toList_ofList_upTo]
  | alt a b iha ihb =>
      rw [forward, Bool.and_eq_true] at h
      rw [run, run, iha h.1 hc, ihb h.2 hc, ← upTo_append, toList_ofList_upTo]
  | plus greedy r ih =>
      rw [forward, Bool.and_eq_true] at h
      rw [run, run]
      refine (restricts_repeatFrom (fun hd => reaches_of_mem_run hd)
        (fun hd => taken_lt_of_reads h.2 hd) (fun hd => ih h.1 hd) greedy hc ?_ ?_ .none).toList
      · omega
      · omega
  | group name r ih =>
      rw [run, run, ih h hc, upTo, List.map_map, upTo, List.filter_map, List.map_map]
      refine List.map_congr_left fun d hd => ?_
      exact remember_cut name (by simpa using (List.mem_filter.1 hd).2)

/-! ## Searching from the start of a text -/

section find?

variable {r : Regex} {text : List Char}

theorem find?_of_anchored (h : r.anchored) (text : List Char) :
    r.find? text = (r.run (.start text)).head? := if_pos h

theorem find?_take_of_taken_le (ha : r.anchored) (hf : r.forward) {k : Nat} {d : Cursor}
    (h : r.find? text = some d) (hd : d.taken ≤ k) : r.find? (text.take k) = some (d.cut k) := by
  rw [find?_of_anchored ha] at h ⊢
  rw [← Cursor.cut_start, run_cut hf (Nat.zero_le k), head?_upTo h hd]

/-- A match before the cut is a match, though not always the preferred one. -/
theorem isMatch_of_isMatch_take (ha : r.anchored) (hf : r.forward) {k : Nat}
    (h : r.isMatch (text.take k)) : r.isMatch text := by
  rw [isMatch, find?_of_anchored ha, List.isSome_head?] at h ⊢
  rw [← Cursor.cut_start, run_cut hf (Nat.zero_le k)] at h
  intro hnil
  simp [hnil] at h

end find?

end Regex

end Interlinear
