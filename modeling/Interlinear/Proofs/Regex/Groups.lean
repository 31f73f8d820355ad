import Interlinear.Lists
import Interlinear.Proofs.Regex.Builder
import Interlinear.Proofs.Regex.Positions
import Interlinear.Regex.Compile
import Mathlib.Data.List.Forall2

set_option autoImplicit false

/-! # What groups remember

A match remembers texts under the names of its groups, and under no other names
(`Regex.group?_of_mem_run`). The names in a regular expression are those of the tree that it is
made of (`Regex.groupNames_lower`). So named groups in a row, if their names are all different and
do not occur inside the groups, remember texts that follow each other without a gap
(`Regex.exists_pieces_of_through`). -/

namespace Interlinear

namespace Cursor

theorem group?_remember_self (name : String) (c since : Cursor) :
    (c.remember name since).group? name = some (since.rest.take (c.taken - since.taken)) := by
  simp [group?, remember]

theorem group?_remember_of_ne {name name' : String} (h : name ≠ name') (c since : Cursor) :
    (c.remember name' since).group? name = c.group? name := by
  simp [group?, remember, h.symm]

end Cursor

namespace Regex

/-! ## The names in a regular expression -/

/-- The names of the groups in a regular expression. -/
def groupNames : Regex → List String
  | empty | set _ | look _ | once _ => []
  | seq a b | alt a b => a.groupNames ++ b.groupNames
  | plus _ r => r.groupNames
  | group name r => name :: r.groupNames

theorem groupNames_andThen (a b : Regex) :
    (a.andThen b).groupNames = a.groupNames ++ b.groupNames := by
  induction b with
  | seq b c ihb _ => rw [andThen, groupNames, groupNames, ihb, List.append_assoc]
  | _ => rfl

/-- The names in what a computation makes are in a list, whatever numbers were handed out before. -/
def NamesIn (names : List String) (make : StateM Nat Regex) : Prop :=
  ∀ n, (make.run n).1.groupNames ⊆ names

section NamesIn

variable {names : List String}

theorem groupNames_after {before : Option Regex} {r : Regex}
    (hbefore : (before.getD empty).groupNames ⊆ names) (hr : r.groupNames ⊆ names) :
    (after before r).groupNames ⊆ names := by
  cases before with
  | none => exact hr
  | some b =>
      rw [after, groupNames_andThen]
      exact List.append_subset.2 ⟨hbefore, hr⟩

theorem groupNames_orEmpty (greedy : Bool) (r : Regex) :
    (orEmpty greedy r).groupNames = r.groupNames := by
  cases greedy with
  | true => exact List.append_nil _
  | false => rfl

theorem namesIn_pure {r : Regex} (hr : r.groupNames ⊆ names) : NamesIn names (pure r) :=
  fun _ => hr

theorem namesIn_marked (guarded : Bool) {r : Regex} (hr : r.groupNames ⊆ names) :
    NamesIn names (marked guarded r) := by
  intro n
  cases guarded with
  | true => exact hr
  | false => exact hr

theorem namesIn_nested (guarded greedy : Bool) {one : StateM Nat Regex} (hone : NamesIn names one)
    (count : Nat) : NamesIn names (nested guarded greedy one count) := by
  fun_induction nested guarded greedy one count with
  | case1 => exact namesIn_pure (List.nil_subset _)
  | case2 =>
      intro n
      refine namesIn_marked guarded ?_ _
      rw [groupNames_orEmpty]
      exact hone n
  | case3 count _ ih =>
      intro n
      refine namesIn_marked guarded ?_ _
      rw [groupNames_orEmpty, groupNames_andThen]
      exact List.append_subset.2 ⟨hone n, ih _⟩

/-- The same of a computation that may make nothing. -/
def OptionalNamesIn (names : List String) (make : StateM Nat (Option Regex)) : Prop :=
  ∀ n, ((make.run n).1.getD empty).groupNames ⊆ names

theorem optionalNamesIn_times {one : StateM Nat Regex} (hone : NamesIn names one)
    {before : Option Regex} (hbefore : (before.getD empty).groupNames ⊆ names) (count : Nat) :
    OptionalNamesIn names (times one before count) := by
  induction count generalizing before with
  | zero => exact fun _ => hbefore
  | succ count ih =>
      intro n
      have hmore : ((some (after before (one.run n).1)).getD empty).groupNames ⊆ names :=
        groupNames_after hbefore (hone n)
      exact ih hmore _

theorem optionalNamesIn_upTo (guarded greedy : Bool) {one : StateM Nat Regex}
    (hone : NamesIn names one) {before : Option Regex}
    (hbefore : (before.getD empty).groupNames ⊆ names) (count : Nat) :
    OptionalNamesIn names (upTo guarded greedy one before count) := by
  rw [upTo]
  split
  · exact fun _ => hbefore
  · split
    · refine optionalNamesIn_times (fun n => ?_) hbefore count
      show (orEmpty greedy (one.run n).1).groupNames ⊆ names
      rw [groupNames_orEmpty]
      exact hone n
    · exact fun n => groupNames_after hbefore (namesIn_nested guarded greedy hone count n)

theorem namesIn_oneOrMore (guarded greedy : Bool) {body : StateM Nat Regex}
    (hbody : NamesIn names body) : NamesIn names (oneOrMore guarded greedy body) := by
  intro n
  cases guarded with
  | true => exact List.append_subset.2 ⟨hbody n, List.nil_subset _⟩
  | false => exact hbody n

theorem namesIn_anyNumber (guarded greedy : Bool) {body : StateM Nat Regex}
    (hbody : NamesIn names body) : NamesIn names (anyNumber guarded greedy body) := by
  intro n
  cases guarded with
  | true =>
      show (orEmpty greedy _).groupNames ⊆ names
      rw [groupNames_orEmpty]
      exact List.append_subset.2 ⟨hbody n, List.nil_subset _⟩
  | false =>
      show (orEmpty greedy _).groupNames ⊆ names
      rw [groupNames_orEmpty]
      exact hbody n

end NamesIn

/-- A regular expression has no other names than the tree that it is made of. -/
theorem groupNames_lower (guarded : Bool) (t : Tree) :
    NamesIn t.groupNames (lower guarded t) := by
  induction t generalizing guarded with
  | empty | set s | look l => exact namesIn_pure (List.nil_subset _)
  | group name t ih => exact fun n => List.cons_subset_cons name (ih guarded n)
  | seq a b iha ihb =>
      intro n
      show (andThen _ _).groupNames ⊆ _
      rw [groupNames_andThen]
      exact List.append_subset_append (iha guarded n) (ihb guarded _)
  | alt a b iha ihb =>
      intro n
      exact namesIn_marked guarded (List.append_subset_append (iha guarded n) (ihb guarded _)) _
  | repeats t least most greedy ih =>
      rw [Tree.groupNames, lower]
      split
      next =>
        split
        · intro n
          refine namesIn_marked guarded ?_ _
          rw [groupNames_orEmpty]
          exact namesIn_oneOrMore _ greedy (ih _) n
        · exact namesIn_anyNumber guarded greedy (ih _)
      next least _ =>
        intro n
        exact groupNames_after (optionalNamesIn_times (ih guarded) (List.nil_subset _) least n)
          (namesIn_oneOrMore _ greedy (ih _) _)
      next least most _ =>
        intro n
        have hbefore : OptionalNamesIn t.groupNames (times (lower guarded t) none least) :=
          optionalNamesIn_times (ih guarded) (List.nil_subset _) least
        exact optionalNamesIn_upTo guarded greedy (ih guarded) (hbefore n) (most - least) _

/-! ## What a match remembers -/

/-- A match remembers nothing under names that are not in the regular expression. -/
theorem group?_of_mem_run {r : Regex} {name : String} (hname : name ∉ r.groupNames) {c d : Cursor}
    (hd : d ∈ r.run c) : d.group? name = c.group? name := by
  induction r generalizing c d with
  | empty =>
      obtain rfl := List.mem_singleton.1 hd
      rfl
  | set s =>
      obtain ⟨-, -, -, -, hgroups⟩ := Cursor.mem_read hd
      rw [Cursor.group?, hgroups]
      rfl
  | look l =>
      obtain ⟨rfl, -⟩ := eq_of_mem_run_look hd
      rfl
  | once mark =>
      obtain ⟨-, -, hgroups⟩ := Cursor.mem_pass hd
      rw [Cursor.group?, hgroups]
      rfl
  | seq a b iha ihb =>
      have hnames := not_or.1 (mt List.mem_append.2 hname)
      obtain ⟨e, he, hd⟩ := exists_of_mem_run_seq hd
      exact (ihb hnames.2 hd).trans (iha hnames.1 he)
  | alt a b iha ihb =>
      have hnames := not_or.1 (mt List.mem_append.2 hname)
      rcases mem_run_alt hd with hd | hd
      · exact iha hnames.1 hd
      · exact ihb hnames.2 hd
  | plus greedy r ih =>
      have hstep : ∀ {e f : Cursor}, e.group? name = c.group? name → f ∈ r.run e →
          f.group? name = c.group? name := fun he hf => (ih hname hf).trans he
      refine of_mem_repeatFrom hstep greedy _ (fun d hd => ih hname hd) ?_ d (List.mem_reverse.1 hd)
      simp
  | group name' r ih =>
      obtain ⟨hne, hname⟩ := not_or.1 (mt List.mem_cons.2 hname)
      obtain ⟨e, he, rfl⟩ := List.mem_map.1 hd
      rw [Cursor.group?_remember_of_ne hne]
      exact ih hname he

/-! ## Groups in a row -/

/-- A cursor gets from one place to another by matches of regular expressions, one after the
other. -/
def Through : List Regex → Cursor → Cursor → Prop
  | [], c, d => d = c
  | r :: rs, c, d => ∃ e ∈ r.run c, Through rs e d

theorem through_of_mem_run_foldl {rs : List Regex} {r : Regex} {c d : Cursor}
    (h : d ∈ (rs.foldl seq r).run c) : ∃ e ∈ r.run c, Through rs e d := by
  induction rs generalizing r with
  | nil => exact ⟨d, h, rfl⟩
  | cons s rs ih =>
      obtain ⟨e', he', hrs⟩ := ih h
      obtain ⟨e, he, he'⟩ := exists_of_mem_run_seq he'
      exact ⟨e, he, e', he', hrs⟩

theorem group?_of_through {rs : List Regex} {name : String}
    (hname : ∀ r ∈ rs, name ∉ r.groupNames) {c d : Cursor} (h : Through rs c d) :
    d.group? name = c.group? name := by
  induction rs generalizing c with
  | nil => rw [show d = c from h]
  | cons r rs ih =>
      obtain ⟨hr, hrs⟩ := List.forall_mem_cons.1 hname
      obtain ⟨e, he, h⟩ := h
      exact (ih hrs h).trans (group?_of_mem_run hr he)

/-- **Groups in a row.** If no later group has the name of a group or holds one with it, then the
texts that are remembered follow each other without a gap, each of them read by the expression in
its group. -/
theorem exists_pieces_of_through {groups : List (String × Regex)}
    (hnames : groups.Pairwise fun g g' => g.1 ≠ g'.1 ∧ g.1 ∉ g'.2.groupNames) {c d : Cursor}
    (h : Through (groups.map fun g => group g.1 g.2) c d) :
    ∃ pieces : List (List Char), c.rest = pieces.flatten ++ d.rest ∧
      List.Forall₂ (fun g piece => d.group? g.1 = some piece ∧
        ∃ e e', e' ∈ g.2.run e ∧ e.rest = piece ++ e'.rest) groups pieces := by
  induction groups generalizing c with
  | nil =>
      obtain rfl : d = c := h
      exact ⟨[], rfl, .nil⟩
  | cons g groups ih =>
      obtain ⟨hg, hgroups⟩ := List.pairwise_cons.1 hnames
      obtain ⟨e', he', h⟩ := h
      obtain ⟨e, he, rfl⟩ := List.mem_map.1 he'
      obtain ⟨piece, hrest, htaken⟩ := reaches_of_mem_run he
      obtain ⟨pieces, hpieces, hall⟩ := ih hgroups h
      have hlater : ∀ r ∈ groups.map fun g => group g.1 g.2, g.1 ∉ r.groupNames := by
        intro r hr
        obtain ⟨g', hg', rfl⟩ := List.mem_map.1 hr
        exact not_or.2 (hg g' hg') ∘ List.mem_cons.1
      -- No later group writes over the text, so it is still remembered at the end.
      have htext : d.group? g.1 = some piece := by
        rw [group?_of_through hlater h, Cursor.group?_remember_self, htaken, hrest]
        simp
      refine ⟨piece :: pieces, ?_, .cons ⟨htext, c, e, he, hrest⟩ hall⟩
      have hrest' : e.rest = pieces.flatten ++ d.rest := hpieces
      rw [hrest, hrest', List.flatten_cons, List.append_assoc]

end Regex

end Interlinear
