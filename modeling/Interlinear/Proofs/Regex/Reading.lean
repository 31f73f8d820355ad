import Interlinear.Proofs.Regex.Constituents
import Interlinear.Proofs.Regex.Truncation
import Interlinear.Regex.Compile

set_option autoImplicit false

/-! # What a regular expression means

The matcher lists places in an order of preference, forgets the ways that lead to a place a second
time, and keeps marks against endless repetitions. None of this belongs to the meaning of a regular
expression, which is the relation between the places where a match begins and where it can end
(`Regex.Reads`). What the matcher finds is right by this meaning (`Regex.reads_of_mem_run`).

So a pattern that is put between the start and the end of a text matches just texts that the pattern
reads from start to end (`Regex.spans_of_isMatch`). -/

namespace Interlinear

/-- A place in a text, seen from what is before it and after it. -/
structure Place where
  /-- The character before this place; none at the start of the text. -/
  before : Option Char
  /-- The text after this place. -/
  rest : List Char

/-- The place where a cursor is. -/
def Cursor.place (c : Cursor) : Place := ⟨c.before, c.rest⟩

namespace Regex

/-- A match that begins at one place can end at another. -/
inductive Reads : Regex → Place → Place → Prop
  | empty {p : Place} : Reads .empty p p
  | set {s : CharClass} {before : Option Char} {x : Char} {rest : List Char}
    (hx : s.contains x = true) : Reads (.set s) ⟨before, x :: rest⟩ ⟨some x, rest⟩
  | look {l : Look} {p : Place} (hl : l.holds p.before p.rest.head? = true) : Reads (.look l) p p
  | once {mark : Nat} {p : Place} : Reads (.once mark) p p
  | seq {a b : Regex} {p q s : Place} (ha : Reads a p q) (hb : Reads b q s) : Reads (.seq a b) p s
  | left {a b : Regex} {p q : Place} (ha : Reads a p q) : Reads (.alt a b) p q
  | right {a b : Regex} {p q : Place} (hb : Reads b p q) : Reads (.alt a b) p q
  | one {greedy : Bool} {r : Regex} {p q : Place} (hr : Reads r p q) : Reads (.plus greedy r) p q
  | more {greedy : Bool} {r : Regex} {p q s : Place} (hplus : Reads (.plus greedy r) p q)
    (hr : Reads r q s) : Reads (.plus greedy r) p s
  | group {name : String} {r : Regex} {p q : Place} (hr : Reads r p q) : Reads (.group name r) p q

/-- A regular expression matches a text from its start to its end. -/
def Spans (r : Regex) (text : List Char) : Prop :=
  ∃ p : Place, p.rest = [] ∧ r.Reads ⟨none, text⟩ p

/-! ## The matcher is right -/

/-- **Soundness.** A place that the matcher finds is one where a match can end. -/
theorem reads_of_mem_run {r : Regex} {c d : Cursor} (h : d ∈ r.run c) :
    Reads r c.place d.place := by
  induction r generalizing c d with
  | empty =>
      obtain rfl := List.mem_singleton.1 h
      exact .empty
  | set s =>
      obtain ⟨before, rest, taken, groups, marks⟩ := c
      rw [run, Cursor.read] at h
      cases rest with
      | nil => contradiction
      | cons x rest =>
          dsimp only at h
          split at h
          next hx =>
            obtain rfl := List.mem_singleton.1 h
            exact .set hx
          next => contradiction
  | look l =>
      obtain ⟨rfl, hl⟩ := eq_of_mem_run_look h
      exact .look hl
  | once mark =>
      rw [run, Cursor.pass] at h
      split at h
      next => contradiction
      next =>
        obtain rfl := List.mem_singleton.1 h
        exact .once
  | seq a b iha ihb =>
      obtain ⟨e, he, hd⟩ := exists_of_mem_run_seq h
      exact .seq (iha he) (ihb hd)
  | alt a b iha ihb =>
      rcases mem_run_alt h with h | h
      · exact .left (iha h)
      · exact .right (ihb h)
  | plus greedy r ih =>
      have hstep : ∀ {e f : Cursor}, Reads (.plus greedy r) c.place e.place → f ∈ r.run e →
          Reads (.plus greedy r) c.place f.place := fun he hf => .more he (ih hf)
      refine of_mem_repeatFrom hstep greedy _ (fun d hd => .one (ih hd)) ?_ d (List.mem_reverse.1 h)
      simp
  | group name r ih =>
      obtain ⟨e, he, rfl⟩ := List.mem_map.1 h
      have hr : Reads r c.place e.place := ih he
      exact .group hr

/-! ## Sequences -/

theorem reads_seq_iff {a b : Regex} {p s : Place} :
    Reads (.seq a b) p s ↔ ∃ q, Reads a p q ∧ Reads b q s := by
  constructor
  · rintro (_ | _ | _ | _ | ⟨ha, hb⟩)
    exact ⟨_, ha, hb⟩
  · rintro ⟨q, ha, hb⟩
    exact .seq ha hb

theorem reads_look_iff {l : Look} {p q : Place} :
    Reads (.look l) p q ↔ q = p ∧ l.holds p.before p.rest.head? = true := by
  constructor
  · rintro (_ | _ | hl)
    exact ⟨rfl, hl⟩
  · rintro ⟨rfl, hl⟩
    exact .look hl

/-- However sequences are grouped, they mean the same. -/
theorem reads_andThen_iff {a b : Regex} {p s : Place} :
    Reads (a.andThen b) p s ↔ ∃ q, Reads a p q ∧ Reads b q s := by
  induction b generalizing s with
  | seq b c ihb _ =>
      simp only [andThen, reads_seq_iff, ihb]
      constructor
      · rintro ⟨q', ⟨q, ha, hb⟩, hc⟩
        exact ⟨q, ha, q', hb, hc⟩
      · rintro ⟨q, ha, q', hb, hc⟩
        exact ⟨q', ⟨q, ha, hb⟩, hc⟩
  | _ => exact reads_seq_iff

theorem anchored_andThen (a b : Regex) : (a.andThen b).anchored = (a.anchored || b.anchored) := by
  induction b with
  | seq b c ihb _ => rw [andThen, anchored, anchored, ihb, Bool.or_assoc]
  | _ => rfl

/-! ## Patterns for whole texts -/

/-- A regular expression between the start and the end of a text matches only what it matches from
start to end. -/
theorem spans_of_isMatch {r : Regex} {text : List Char}
    (h : ((look .textStart).andThen (r.andThen (look .textEnd))).isMatch text = true) :
    r.Spans text := by
  obtain ⟨d, hd⟩ := Option.isSome_iff_exists.1 h
  rw [find?_of_anchored (by rw [anchored_andThen]; rfl)] at hd
  have hreads := reads_of_mem_run (List.mem_of_head? hd)
  obtain ⟨p, hstart, hreads⟩ := reads_andThen_iff.1 hreads
  obtain ⟨q, hr, hend⟩ := reads_andThen_iff.1 hreads
  obtain ⟨rfl, -⟩ := reads_look_iff.1 hstart
  obtain ⟨-, hend⟩ := reads_look_iff.1 hend
  exact ⟨q, by simpa [Look.holds] using hend, hr⟩

end Regex

end Interlinear
