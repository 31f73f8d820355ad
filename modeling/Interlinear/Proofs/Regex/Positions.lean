import Interlinear.Regex.Match

set_option autoImplicit false

/-! # Where a match goes

Matching moves a cursor in three ways: it reads a character, it passes a mark, and it remembers a
group. What these three keep, every match keeps (`Regex.of_mem_run`). So a match reads a piece of
the text, from where it begins to where it ends (`Cursor.Reaches`), which consists of characters
that the expression can read (`Cursor.ReachesBy`), and its groups hold nothing but characters of the
text (`Cursor.Within`). -/

namespace Interlinear

/-! ## Cursors that were found -/

namespace Found

theorem mem_cursors_ofList_aux {c : Cursor} {cs : List Cursor} {f : Found}
    (h : c ∈ (cs.foldl (fun f c => if f.has c then f else f.add c) f).cursors) :
    c ∈ f.cursors ∨ c ∈ cs := by
  induction cs generalizing f with
  | nil => exact Or.inl h
  | cons d cs ih =>
      rw [List.foldl_cons] at h
      rcases ih h with h | h
      · split at h
        · exact Or.inl h
        · rw [cursors_add] at h
          rcases List.mem_cons.1 h with rfl | h
          · exact Or.inr List.mem_cons_self
          · exact Or.inl h
      · exact Or.inr (List.mem_cons_of_mem _ h)

theorem mem_of_mem_ofList {c : Cursor} {cs : List Cursor} (h : c ∈ (ofList cs).toList) :
    c ∈ cs := by
  rcases mem_cursors_ofList_aux (List.mem_reverse.1 h) with h | h
  · simp at h
  · exact h

theorem getLast?_cursors_ofList_aux (cs : List Cursor) {f : Found} {c : Cursor}
    (h : f.cursors.getLast? = some c) :
    (cs.foldl (fun f c => if f.has c then f else f.add c) f).cursors.getLast? = some c := by
  induction cs generalizing f with
  | nil => exact h
  | cons d cs ih =>
      rw [List.foldl_cons]
      split
      · exact ih h
      · refine ih ?_
        rw [cursors_add, List.getLast?_cons, h]
        rfl

/-- The cursor that comes first stays the first. -/
theorem head?_ofList (cs : List Cursor) : (ofList cs).toList.head? = cs.head? := by
  rw [toList, List.head?_reverse]
  cases cs with
  | nil => rfl
  | cons c cs =>
      have hc : none.has c = false := by simp [has_eq]
      have hlast : (none.add c).cursors.getLast? = some c := rfl
      rw [ofList, List.foldl_cons, hc]
      exact getLast?_cursors_ofList_aux cs hlast

end Found

/-! ## What matching keeps -/

/-- The classes of the characters that an expression reads. -/
def Regex.classes : Regex → List CharClass
  | empty | look _ | once _ => []
  | set s => [s]
  | seq a b | alt a b => a.classes ++ b.classes
  | plus _ r | group _ r => r.classes

/-- A property of cursors that is kept by the moves of a match that reads characters of some classes
only. -/
structure Cursor.InvariantOn (classes : List CharClass) (P : Cursor → Prop) : Prop where
  read : ∀ s ∈ classes, ∀ {c d : Cursor}, P c → d ∈ c.read s → P d
  pass : ∀ (mark : Nat) {c d : Cursor}, P c → d ∈ c.pass mark → P d
  remember : ∀ (name : String) {c d : Cursor}, P c → P d → P (d.remember name c)

theorem Cursor.InvariantOn.mono {classes classes' : List CharClass} {P : Cursor → Prop}
    (h : InvariantOn classes P) (hsubset : classes' ⊆ classes) : InvariantOn classes' P :=
  { h with read := fun s hs => h.read s (hsubset hs) }

/-- A property of cursors that the moves of a match keep. -/
structure Cursor.Invariant (P : Cursor → Prop) : Prop where
  read : ∀ (s : CharClass) {c d : Cursor}, P c → d ∈ c.read s → P d
  pass : ∀ (mark : Nat) {c d : Cursor}, P c → d ∈ c.pass mark → P d
  remember : ∀ (name : String) {c d : Cursor}, P c → P d → P (d.remember name c)

theorem Cursor.Invariant.on {P : Cursor → Prop} (h : Invariant P) (classes : List CharClass) :
    InvariantOn classes P :=
  ⟨fun s _ => h.read s, h.pass, h.remember⟩

namespace Regex

/-- A repetition finds what its steps lead to: what holds after the first step and is kept by all
others holds of every place it finds. -/
theorem of_mem_repeatFrom {P : Cursor → Prop} {step : Cursor → List Cursor}
    (hstep : ∀ {c d}, P c → d ∈ step c → P d) (greedy : Bool) (bound : Nat) {c : Cursor}
    {f : Found} (hc : ∀ d ∈ step c, P d) (hf : ∀ d ∈ f.cursors, P d) :
    ∀ d ∈ (repeatFrom step greedy bound c f).cursors, P d := by
  induction bound generalizing c f with
  | zero => exact hf
  | succ bound ih =>
      rw [repeatFrom]
      -- The cursors found so far keep the property while the steps from `c` are gone through.
      refine List.foldlRecOn (motive := fun f : Found => ∀ d ∈ f.cursors, P d) _ _ hf ?_
      intro f hf e he
      have hPe : P e := hc e he
      have hnext : ∀ d ∈ step e, P d := fun d hd => hstep hPe hd
      split
      · exact hf
      · split
        · exact List.forall_mem_cons.2 ⟨hPe, ih hnext hf⟩
        · exact ih hnext (List.forall_mem_cons.2 ⟨hPe, hf⟩)

theorem eq_of_mem_run_look {l : Look} {c d : Cursor} (h : d ∈ (look l).run c) :
    d = c ∧ l.holds c.before c.rest.head? = true := by
  rw [run] at h
  split at h
  next hl => exact ⟨List.mem_singleton.1 h, hl⟩
  next => contradiction

theorem exists_of_mem_run_seq {a b : Regex} {c d : Cursor} (h : d ∈ (seq a b).run c) :
    ∃ e ∈ a.run c, d ∈ b.run e :=
  List.mem_flatMap.1 (Found.mem_of_mem_ofList h)

theorem mem_run_alt {a b : Regex} {c d : Cursor} (h : d ∈ (alt a b).run c) :
    d ∈ a.run c ∨ d ∈ b.run c :=
  List.mem_append.1 (Found.mem_of_mem_ofList h)

/-- What the moves of a match keep holds where the match ends. All characters that it reads are of
the classes of the expression. -/
theorem of_mem_run_of_classes {P : Cursor → Prop} {r : Regex} (hP : Cursor.InvariantOn r.classes P)
    {c d : Cursor} (hc : P c) (hd : d ∈ r.run c) : P d := by
  induction r generalizing c d with
  | empty =>
      obtain rfl := List.mem_singleton.1 hd
      exact hc
  | set s => exact hP.read s (List.mem_singleton_self s) hc hd
  | look l =>
      obtain ⟨rfl, -⟩ := eq_of_mem_run_look hd
      exact hc
  | once mark => exact hP.pass mark hc hd
  | seq a b iha ihb =>
      have hPa := hP.mono (List.subset_append_left a.classes b.classes)
      have hPb := hP.mono (List.subset_append_right a.classes b.classes)
      obtain ⟨e, he, hd⟩ := exists_of_mem_run_seq hd
      exact ihb hPb (iha hPa hc he) hd
  | alt a b iha ihb =>
      rcases mem_run_alt hd with hd | hd
      · exact iha (hP.mono (List.subset_append_left a.classes b.classes)) hc hd
      · exact ihb (hP.mono (List.subset_append_right a.classes b.classes)) hc hd
  | plus greedy r ih =>
      refine of_mem_repeatFrom (ih hP) greedy _ (fun d hd => ih hP hc hd) ?_ d
        (List.mem_reverse.1 hd)
      simp
  | group name r ih =>
      obtain ⟨e, he, rfl⟩ := List.mem_map.1 hd
      exact hP.remember name hc (ih hP hc he)

theorem of_mem_run {P : Cursor → Prop} (hP : Cursor.Invariant P) (r : Regex) {c d : Cursor}
    (hc : P c) (hd : d ∈ r.run c) : P d :=
  of_mem_run_of_classes (hP.on r.classes) hc hd

end Regex

/-! ## Reading on -/

namespace Cursor

/-- The cursor `d` is where one is after reading on from `c`. -/
def Reaches (c d : Cursor) : Prop :=
  ∃ piece, c.rest = piece ++ d.rest ∧ d.taken = c.taken + piece.length

theorem Reaches.refl (c : Cursor) : c.Reaches c := ⟨[], rfl, rfl⟩

theorem Reaches.trans {c d e : Cursor} (hcd : c.Reaches d) (hde : d.Reaches e) : c.Reaches e := by
  obtain ⟨first, hc, hd⟩ := hcd
  obtain ⟨second, hd', he⟩ := hde
  refine ⟨first ++ second, ?_, ?_⟩
  · rw [hc, hd', List.append_assoc]
  · rw [he, hd, List.length_append, Nat.add_assoc]

theorem Reaches.taken_le {c d : Cursor} (h : c.Reaches d) : c.taken ≤ d.taken := by
  obtain ⟨piece, -, hd⟩ := h
  omega

theorem Reaches.taken_add_length {c d : Cursor} (h : c.Reaches d) :
    d.taken + d.rest.length = c.taken + c.rest.length := by
  obtain ⟨piece, hc, hd⟩ := h
  rw [hc, hd, List.length_append]
  omega

/-- What was taken of a text is what comes before the rest that is left of it. -/
theorem Reaches.take_eq {text piece : List Char} {d : Cursor} (h : (start text).Reaches d)
    (htext : text = piece ++ d.rest) : text.take d.taken = piece := by
  obtain ⟨taken, htaken, hlength⟩ := h
  have hsame : taken = piece := List.append_cancel_right (htaken.symm.trans htext)
  have hcount : d.taken = piece.length := by
    rw [hlength, hsame]
    exact Nat.zero_add _
  rw [hcount, htext, List.take_left]

theorem mem_read {s : CharClass} {c d : Cursor} (h : d ∈ c.read s) :
    ∃ x, s.contains x = true ∧ c.rest = x :: d.rest ∧ d.taken = c.taken + 1 ∧
      d.groups = c.groups := by
  unfold read at h
  split at h
  · simp at h
  next x rest hrest =>
    split at h
    next hx =>
      obtain rfl := List.mem_singleton.1 h
      exact ⟨x, hx, hrest, rfl, rfl⟩
    next => simp at h

theorem mem_pass {mark : Nat} {c d : Cursor} (h : d ∈ c.pass mark) :
    d.rest = c.rest ∧ d.taken = c.taken ∧ d.groups = c.groups := by
  unfold pass at h
  split at h
  · simp at h
  · obtain rfl := List.mem_singleton.1 h
    exact ⟨rfl, rfl, rfl⟩

/-- The cursor `d` is where one is after reading on from `c`, and all characters read on the way are
of one of the classes. -/
def ReachesBy (classes : List CharClass) (c d : Cursor) : Prop :=
  ∃ piece, c.rest = piece ++ d.rest ∧ d.taken = c.taken + piece.length ∧
    ∀ x ∈ piece, ∃ s ∈ classes, s.contains x = true

theorem ReachesBy.refl (classes : List CharClass) (c : Cursor) : c.ReachesBy classes c :=
  ⟨[], rfl, rfl, by simp⟩

theorem ReachesBy.reaches {classes : List CharClass} {c d : Cursor} (h : c.ReachesBy classes d) :
    c.Reaches d := by
  obtain ⟨piece, hrest, htaken, -⟩ := h
  exact ⟨piece, hrest, htaken⟩

theorem invariantOn_reachesBy (classes : List CharClass) (c : Cursor) :
    InvariantOn classes (ReachesBy classes c) where
  read s hs d e := by
    rintro ⟨piece, hc, hd, hpiece⟩ he
    obtain ⟨x, hx, hrest, htaken, -⟩ := mem_read he
    refine ⟨piece ++ [x], ?_, ?_, ?_⟩
    · rw [hc, hrest, List.append_assoc]
      rfl
    · rw [htaken, hd, List.length_append, List.length_singleton]
      omega
    · intro y hy
      rcases List.mem_append.1 hy with hy | hy
      · exact hpiece y hy
      · obtain rfl := List.mem_singleton.1 hy
        exact ⟨s, hs, hx⟩
  pass mark d e := by
    rintro ⟨piece, hc, hd, hpiece⟩ he
    obtain ⟨hrest, htaken, -⟩ := mem_pass he
    exact ⟨piece, by rw [hc, hrest], by rw [htaken, hd], hpiece⟩
  remember _ _ _ _ he := he

/-- What is left of a text, and the groups matched in it, hold characters of the text only. -/
def Within (text : List Char) (c : Cursor) : Prop :=
  c.rest ⊆ text ∧ ∀ g ∈ c.groups, g.2 ⊆ text

theorem invariant_within (text : List Char) : Invariant (Within text) where
  read s c d := by
    rintro ⟨hrest, hgroups⟩ hd
    obtain ⟨x, -, hc, -, hg⟩ := mem_read hd
    rw [hc] at hrest
    exact ⟨(List.cons_subset.1 hrest).2, by rwa [hg]⟩
  pass mark c d := by
    rintro ⟨hrest, hgroups⟩ hd
    obtain ⟨hr, -, hg⟩ := mem_pass hd
    exact ⟨by rwa [hr], by rwa [hg]⟩
  remember name c d := by
    rintro ⟨hc, -⟩ ⟨hrest, hgroups⟩
    refine ⟨hrest, List.forall_mem_cons.2 ⟨?_, hgroups⟩⟩
    exact List.Subset.trans (List.take_subset _ _) hc

end Cursor

namespace Regex

/-- A match reads characters of the classes of the expression. -/
theorem reachesBy_of_mem_run {r : Regex} {c d : Cursor} (h : d ∈ r.run c) :
    c.ReachesBy r.classes d :=
  of_mem_run_of_classes (Cursor.invariantOn_reachesBy r.classes c) (.refl r.classes c) h

theorem reaches_of_mem_run {r : Regex} {c d : Cursor} (h : d ∈ r.run c) : c.Reaches d :=
  (reachesBy_of_mem_run h).reaches

/-- A search begins its match at some place of the text. -/
theorem exists_of_findFrom_eq_some {r : Regex} {before : Option Char} {taken : Nat}
    {text : List Char} {d : Cursor} (h : r.findFrom before taken text = some d) :
    ∃ c : Cursor, c.rest <:+ text ∧ c.taken + c.rest.length = taken + text.length ∧
      c.groups = [] ∧ d ∈ r.run c := by
  induction text generalizing before taken with
  | nil =>
      rw [findFrom] at h
      exact ⟨_, List.suffix_refl _, rfl, rfl, List.mem_of_head? h⟩
  | cons x text ih =>
      rw [findFrom] at h
      split at h
      next found hfound =>
        obtain rfl := Option.some.inj h
        exact ⟨_, List.suffix_refl _, rfl, rfl, List.mem_of_head? hfound⟩
      next =>
        obtain ⟨c, hrest, htaken, hgroups, hd⟩ := ih h
        refine ⟨c, hrest.trans (List.suffix_cons _ _), ?_, hgroups, hd⟩
        rw [htaken, List.length_cons]
        omega

theorem exists_of_find?_eq_some {r : Regex} {text : List Char} {d : Cursor}
    (h : r.find? text = some d) :
    ∃ c : Cursor, c.rest <:+ text ∧ c.taken + c.rest.length = text.length ∧ c.groups = [] ∧
      d ∈ r.run c := by
  rw [find?] at h
  split at h
  · exact ⟨.start text, List.suffix_refl _, Nat.zero_add _, rfl, List.mem_of_head? h⟩
  · have hfrom := exists_of_findFrom_eq_some h
    rwa [Nat.zero_add] at hfrom

theorem taken_le_length_of_find? {r : Regex} {text : List Char} {d : Cursor}
    (h : r.find? text = some d) : d.taken ≤ text.length := by
  obtain ⟨c, -, htaken, -, hd⟩ := exists_of_find?_eq_some h
  have hlen := (reaches_of_mem_run hd).taken_add_length
  omega

/-- The groups of a match hold characters of the text only. -/
theorem within_of_find? {r : Regex} {text : List Char} {d : Cursor} (h : r.find? text = some d) :
    d.Within text := by
  obtain ⟨c, hrest, -, hgroups, hd⟩ := exists_of_find?_eq_some h
  refine of_mem_run (Cursor.invariant_within text) r ⟨hrest.subset, ?_⟩ hd
  rw [hgroups]
  simp

end Regex

end Interlinear
