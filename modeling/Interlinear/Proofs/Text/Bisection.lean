import Interlinear.Proofs.Text.Settled
import Interlinear.Text.Casing.Table
import Mathlib.Data.List.Chain

set_option autoImplicit false

/-! # Searching tables by halves

The tables of characters are lists that are searched from the first row on. To check a property of
all characters of a table, which asks other tables for each of them, that takes too long. A table in
ascending order can be asked in another way (`Reading.ask`): the code points that it says anything
of are held as the bits of a number, and the row of such a code point is searched by halves. The
answers are the same (`Reading.ask_eq_scan`).

All tables are read alike (`Reading.scan`); what differs is which code points a row is about, and
what it says of them. -/

namespace Interlinear.Text

/-- How the rows of a table are read. -/
structure Reading (α β : Type) where
  /-- The first code point that a row is about. -/
  lo : α → Nat
  /-- The last code point that a row is about. -/
  hi : α → Nat
  /-- All code points that a row is about. -/
  codes : α → List Nat
  /-- What a row says of a code point. -/
  tells : α → Nat → Option β
  le_hi : ∀ {row n}, lo row ≤ hi row → n ∈ codes row → n ≤ hi row
  mem_codes : ∀ {row n b}, tells row n = some b → n ∈ codes row

/-- A table cut into halves, those into halves, and so on. -/
inductive Halves (α : Type) where
  | leaf (rows : List α)
  /-- The rows that begin before a code point, and the others. -/
  | node (middle : Nat) (below above : Halves α)

/-- The rows that may be about a code point. -/
def Halves.find {α : Type} : Halves α → Nat → List α
  | .leaf rows, _ => rows
  | .node middle below above, n => bif Nat.blt n middle then below.find n else above.find n

namespace Reading

variable {α β : Type} (t : Reading α β)

/-! ## Searching from the first row on -/

/-- Searches a table from the first row on, up to the first one that begins later. -/
def scan : List α → Nat → Option β
  | [], _ => none
  | row :: rows, n =>
    bif Nat.blt n (t.lo row) then none
    else match t.tells row n with
      | some b => some b
      | none => scan rows n

theorem cond_blt {γ : Type} (n m : Nat) (x y : γ) :
    (bif Nat.blt n m then x else y) = if n < m then x else y := by
  simp only [Bool.cond_eq_ite, Nat.blt_eq]

theorem scan_cons (row : α) (rows : List α) (n : Nat) :
    t.scan (row :: rows) n =
      if n < t.lo row then none
      else match t.tells row n with
        | some b => some b
        | none => t.scan rows n := by
  rw [scan, cond_blt]

/-- What a table says is said by one of its rows. -/
theorem exists_of_scan_eq_some {rows : List α} {n : Nat} {b : β} (h : t.scan rows n = some b) :
    ∃ row ∈ rows, t.tells row n = some b := by
  induction rows with
  | nil => cases h
  | cons row rows ih =>
      rw [scan_cons] at h
      split at h
      · cases h
      · split at h
        next c hc =>
          obtain rfl := Option.some.inj h
          exact ⟨row, List.mem_cons_self, hc⟩
        · obtain ⟨r, hr, htells⟩ := ih h
          exact ⟨r, List.mem_cons_of_mem _ hr, htells⟩

/-- A row ends before another one begins. -/
def Before (row other : α) : Prop := t.lo row ≤ t.hi row ∧ t.hi row < t.lo other

instance : DecidableRel t.Before := fun row other =>
  inferInstanceAs (Decidable (t.lo row ≤ t.hi row ∧ t.hi row < t.lo other))

instance : Trans t.Before t.Before t.Before where
  trans := by
    rintro a b c ⟨hab, hab'⟩ ⟨hbc, hbc'⟩
    exact ⟨hab, by omega⟩

theorem scan_append_of_lt {before after : List α} {row : α} {n : Nat} (h : n < t.lo row) :
    t.scan (before ++ row :: after) n = t.scan before n := by
  induction before with
  | nil => exact (t.scan_cons row after n).trans (if_pos h)
  | cons first before ih => rw [List.cons_append, scan_cons, scan_cons, ih]

theorem scan_append_of_le {before after : List α} {row : α} {n : Nat}
    (hbefore : ∀ r ∈ before, t.Before r row) (h : t.lo row ≤ n) :
    t.scan (before ++ row :: after) n = t.scan (row :: after) n := by
  induction before with
  | nil => rfl
  | cons first before ih =>
      obtain ⟨hlo, hhi⟩ := hbefore first List.mem_cons_self
      have hnone : t.tells first n = none := by
        refine Option.eq_none_iff_forall_ne_some.2 fun b hb => ?_
        have hle := t.le_hi hlo (t.mem_codes hb)
        omega
      rw [List.cons_append, scan_cons, if_neg (by omega), hnone]
      exact ih fun r hr => hbefore r (List.mem_cons_of_mem _ hr)

/-- What a row of a table in ascending order says is what the table says. -/
theorem scan_eq_some_of_mem {rows : List α} (h : rows.Pairwise t.Before) {row : α}
    (hrow : row ∈ rows) {n : Nat} {b : β} (hlo : t.lo row ≤ n) (htells : t.tells row n = some b) :
    t.scan rows n = some b := by
  obtain ⟨before, after, rfl⟩ := List.append_of_mem hrow
  obtain ⟨-, -, hacross⟩ := List.pairwise_append.1 h
  rw [t.scan_append_of_le (fun r hr => hacross r hr row List.mem_cons_self) hlo, scan_cons,
    if_neg (Nat.not_lt.2 hlo), htells]

/-! ## Searching by halves -/

/-- Cuts a table into halves, as often as said. -/
def halve : Nat → List α → Halves α
  | 0, rows => .leaf rows
  | depth + 1, rows =>
    match rows.drop (rows.length / 2) with
    | [] => .leaf rows
    | row :: rest =>
      .node (t.lo row) (halve depth (rows.take (rows.length / 2))) (halve depth (row :: rest))

/-- What a table in ascending order says of a code point is said by the rows found by halves. -/
theorem scan_find_halve (depth : Nat) {rows : List α} (h : rows.Pairwise t.Before) (n : Nat) :
    t.scan ((t.halve depth rows).find n) n = t.scan rows n := by
  -- The row that the table is cut at decides in which half a code point can be found.
  induction depth generalizing rows with
  | zero => rfl
  | succ depth ih =>
      rw [halve]
      split
      · rfl
      next row rest hdrop =>
        have hsplit : rows.take (rows.length / 2) ++ row :: rest = rows := by
          rw [← hdrop, List.take_append_drop]
        generalize rows.take (rows.length / 2) = front at hsplit ⊢
        subst hsplit
        obtain ⟨hfront, hback, hacross⟩ := List.pairwise_append.1 h
        rw [Halves.find, cond_blt]
        split
        next hlt => rw [ih hfront, t.scan_append_of_lt hlt]
        next hlt =>
          rw [ih hback, t.scan_append_of_le (fun r hr => ?_) (Nat.not_lt.1 hlt)]
          exact hacross r hr row List.mem_cons_self

/-- Asks a table for a code point, if it says anything of it at all. -/
def ask (depth : Nat) (rows : List α) (n : Nat) : Option β :=
  bif inCodeSet (codeSet (rows.flatMap t.codes)) n then t.scan ((t.halve depth rows).find n) n
  else none

/-- **Searching by halves.** A table in ascending order gives the same answers in either way. -/
theorem ask_eq_scan (depth : Nat) {rows : List α} (h : rows.IsChain t.Before) (n : Nat) :
    t.ask depth rows n = t.scan rows n := by
  rw [ask]
  cases hn : inCodeSet (codeSet (rows.flatMap t.codes)) n with
  | true => rw [cond_true, t.scan_find_halve depth (List.isChain_iff_pairwise.1 h)]
  | false =>
      refine (Option.eq_none_iff_forall_ne_some.2 fun b hb => ?_).symm
      obtain ⟨row, hrow, htells⟩ := t.exists_of_scan_eq_some hb
      have hmem := List.mem_flatMap.2 ⟨row, hrow, t.mem_codes htells⟩
      rw [← inCodeSet_codeSet, hn] at hmem
      cases hmem

end Reading

/-! ## The readings of the tables -/

/-- The code points that a run maps. -/
def CodeRun.codes (r : CodeRun) : List Nat :=
  (List.range ((r.hi - r.lo) / r.step + 1)).map fun i => r.lo + i * r.step

theorem CodeRun.mem_codes {r : CodeRun} {n : Nat} (h : r.covers n) : n ∈ r.codes := by
  simp only [covers, Bool.and_eq_true, decide_eq_true_eq, beq_iff_eq] at h
  obtain ⟨⟨hlo, hhi⟩, hstep⟩ := h
  refine List.mem_map.2 ⟨(n - r.lo) / r.step, List.mem_range.2 ?_, ?_⟩
  · exact Nat.lt_succ_of_le (Nat.div_le_div_right (by omega))
  · rw [Nat.div_mul_cancel (Nat.dvd_of_mod_eq_zero hstep)]
    omega

theorem CodeRun.le_hi {r : CodeRun} (h : r.lo ≤ r.hi) {n : Nat} (hn : n ∈ r.codes) : n ≤ r.hi := by
  obtain ⟨i, hi, rfl⟩ := List.mem_map.1 hn
  have hle : i * r.step ≤ (r.hi - r.lo) / r.step * r.step :=
    Nat.mul_le_mul_right _ (Nat.le_of_lt_succ (List.mem_range.1 hi))
  have hdiv := Nat.div_mul_le_self (r.hi - r.lo) r.step
  omega

namespace Reading

variable {α β : Type}

/-- Runs in which source and image move in step. -/
def runs : Reading CodeRun Nat where
  lo := CodeRun.lo
  hi := CodeRun.hi
  codes := CodeRun.codes
  tells r n := bif r.covers n then some (Nat.add r.image (Nat.sub n r.lo)) else none
  le_hi h hn := CodeRun.le_hi h hn
  mem_codes {r n b} h := by
    cases hcovers : r.covers n with
    | true => exact CodeRun.mem_codes hcovers
    | false =>
        rw [hcovers] at h
        cases h

/-- Rows about a single code point each. -/
def points (key : α → Nat) (value : α → β) : Reading α β where
  lo := key
  hi := key
  codes row := [key row]
  tells row n := bif Nat.beq n (key row) then some (value row) else none
  le_hi _ h := Nat.le_of_eq (List.mem_singleton.1 h)
  mem_codes {row n b} h := by
    cases hkey : Nat.beq n (key row) with
    | true => exact List.mem_singleton.2 (Nat.eq_of_beq_eq_true hkey)
    | false =>
        rw [hkey] at h
        cases h

theorem tells_runs_eq_some_iff {r : CodeRun} {n m : Nat} :
    runs.tells r n = some m ↔ r.covers n ∧ m = r.image + (n - r.lo) := by
  cases hcovers : r.covers n with
  | true => simp [runs, hcovers, eq_comm]
  | false => simp [runs, hcovers]

theorem tells_points (key : α → Nat) (value : α → β) (row : α) (n : Nat) :
    (points key value).tells row n = if n = key row then some (value row) else none := by
  simp only [points, Bool.cond_eq_ite, Nat.beq_eq]

theorem imageInRuns?_eq_scan (rows : List CodeRun) (n : Nat) :
    imageInRuns? rows n = runs.scan rows n := by
  induction rows with
  | nil => rfl
  | cons r rows ih =>
      rw [imageInRuns?, scan_cons, ih]
      by_cases hcovers : r.covers n
      · simp [runs, hcovers]
      · simp [runs, hcovers]

theorem scan_points_cons (key : α → Nat) (value : α → β) (row : α) (rows : List α) (n : Nat) :
    (points key value).scan (row :: rows) n =
      if n < key row then none
      else if n = key row then some (value row) else (points key value).scan rows n := by
  rw [scan_cons, tells_points]
  by_cases hkey : n = key row
  · rw [if_pos hkey, if_pos hkey]
    rfl
  · rw [if_neg hkey, if_neg hkey]
    rfl

theorem aliasIn?_eq_scan (rows : List Alias) (n : Nat) :
    aliasIn? rows n = (points Alias.source Alias.target).scan rows n := by
  induction rows with
  | nil => rfl
  | cons a rows ih => rw [aliasIn?, scan_points_cons, ih]

theorem pairIn?_eq_scan (rows : List Pairing) (n : Nat) :
    pairIn? rows n = (points Pairing.composed fun p => (p.base, p.mark)).scan rows n := by
  induction rows with
  | nil => rfl
  | cons p rows ih => rw [pairIn?, scan_points_cons, ih]

theorem expansionIn?_eq_scan (rows : List Expansion) (n : Nat) :
    expansionIn? rows n = (points Expansion.source Expansion.expansion).scan rows n := by
  induction rows with
  | nil => rfl
  | cons e rows ih => rw [expansionIn?, scan_points_cons, ih]

end Reading

/-! ## Decomposing by halves -/

open Reading

/-- `pairing?`, by halves. -/
def askPairing (n : Nat) : Option (Nat × Nat) :=
  let pairs := points Pairing.composed fun p => (p.base, p.mark)
  (pairs.ask 10 primaryPairings n).orElse fun _ => pairs.ask 7 excludedPairings n

/-- `expandCode`, by halves. -/
def askExpand : Nat → Nat → List Nat
  | 0, n => [n]
  | depth + 1, n =>
    match (points Alias.source Alias.target).ask 11 aliases n with
    | some target => askExpand depth target
    | none =>
      match askPairing n with
      | some (base, mark) => askExpand depth base ++ [mark]
      | none => [n]

/-- `compatCodes`, by halves. -/
def askCompat (n : Nat) : List Nat :=
  match runs.ask 11 compatibilityRuns n with
  | some target => [target]
  | none =>
    ((points Expansion.source Expansion.expansion).ask 11 compatibilityExpansions n).getD
      ((Hangul.jamo? n).getD (askExpand expansionDepth n))

/-- The tables are in ascending order. -/
theorem isChain_tables :
    aliases.IsChain (points Alias.source Alias.target).Before ∧
      primaryPairings.IsChain (points Pairing.composed fun p => (p.base, p.mark)).Before ∧
      excludedPairings.IsChain (points Pairing.composed fun p => (p.base, p.mark)).Before ∧
      compatibilityRuns.IsChain runs.Before ∧
      compatibilityExpansions.IsChain (points Expansion.source Expansion.expansion).Before ∧
      loweringRuns.IsChain runs.Before := by
  decide +kernel

theorem askPairing_eq (n : Nat) : askPairing n = pairing? n := by
  obtain ⟨-, hprimary, hexcluded, -⟩ := isChain_tables
  rw [askPairing, pairing?, pairIn?_eq_scan, pairIn?_eq_scan, ask_eq_scan _ _ hprimary,
    ask_eq_scan _ _ hexcluded]

theorem askExpand_eq (depth n : Nat) : askExpand depth n = expandCode depth n := by
  have hask : ∀ m, (points Alias.source Alias.target).ask 11 aliases m = aliasIn? aliases m := by
    intro m
    rw [aliasIn?_eq_scan, ask_eq_scan _ _ isChain_tables.1]
  induction depth generalizing n with
  | zero => rfl
  | succ depth ih =>
      cases halias : aliasIn? aliases n with
      | some target => simp only [askExpand, expandCode, hask, halias, ih]
      | none =>
          cases hpair : pairing? n with
          | some pair => simp only [askExpand, expandCode, hask, halias, askPairing_eq, hpair, ih]
          | none => simp only [askExpand, expandCode, hask, halias, askPairing_eq, hpair]

theorem askCompat_eq (n : Nat) : askCompat n = compatCodes n := by
  obtain ⟨-, -, -, hchain, hchain', -⟩ := isChain_tables
  have hruns := (imageInRuns?_eq_scan compatibilityRuns n).trans (ask_eq_scan _ 11 hchain n).symm
  have hexpansions :=
    (expansionIn?_eq_scan compatibilityExpansions n).trans (ask_eq_scan _ 11 hchain' n).symm
  cases himage : imageInRuns? compatibilityRuns n with
  | some target => simp only [askCompat, compatCodes, ← hruns, himage]
  | none =>
      simp only [askCompat, compatCodes, ← hruns, ← hexpansions, himage, askExpand_eq,
        canonicalCodes]

end Interlinear.Text
