import Interlinear.Error
import Interlinear.Token.Basic

set_option autoImplicit false

/-! # Rules for tokens

A rule gives a kind to the texts that a pattern matches. It may ask that something follows: another
pattern must then match the text after the token, unless nothing is left there. -/

namespace Interlinear

/-- A rule as it is written. -/
structure RuleText where
  kind : TokenKind
  pattern : String
  follow : Option String

/-- A rule. -/
structure Rule where
  kind : TokenKind
  pattern : Regex
  follow : Option Regex
deriving DecidableEq

namespace Rule

/-- The regular expression of a pattern that is to match where a token begins. -/
def atStart (pattern : String) : Except Error Regex :=
  match Regex.ofPattern ("^(?:" ++ pattern ++ ")") with
  | .ok r => .ok r
  | .error fault => .error (.faultyRule fault)

/-- Makes a rule ready. -/
def ofText (t : RuleText) : Except Error Rule := do
  let pattern ← atStart t.pattern
  let follow ←
    match t.follow with
    | none => pure none
    | some f => some <$> atStart f
  pure ⟨t.kind, pattern, follow⟩

/-- Whether a text may follow a token of the rule. -/
def admitsAfter (r : Rule) (after : List Char) : Bool :=
  match r.follow with
  | none => true
  | some f => after.isEmpty || f.isMatch after

/-- The number of characters of the token that the rule finds at the front of a text. It is not
zero: a rule does not find empty tokens. -/
def reach? (r : Rule) (text : List Char) : Option Nat :=
  match r.pattern.find? text with
  | none => none
  | some found =>
    if found.taken ≠ 0 ∧ r.admitsAfter (text.drop found.taken) then some found.taken else none

theorem reach?_eq_some_iff {r : Rule} {text : List Char} {n : Nat} :
    r.reach? text = some n ↔
      ∃ d, r.pattern.find? text = some d ∧ d.taken = n ∧ n ≠ 0 ∧
        r.admitsAfter (text.drop n) = true := by
  rw [reach?]
  cases r.pattern.find? text with
  | none => simp
  | some d =>
    simp only [Option.some.injEq, exists_eq_left']
    constructor
    · intro h
      split at h
      next hd =>
        obtain rfl := Option.some.inj h
        exact ⟨rfl, hd⟩
      next => contradiction
    · rintro ⟨rfl, hd⟩
      rw [if_pos hd]

theorem reach?_pos {r : Rule} {text : List Char} {n : Nat} (h : r.reach? text = some n) :
    0 < n := by
  obtain ⟨-, -, -, hn, -⟩ := reach?_eq_some_iff.1 h
  exact Nat.pos_of_ne_zero hn

end Rule

end Interlinear
