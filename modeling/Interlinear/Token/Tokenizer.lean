import Interlinear.Token.Rule

set_option autoImplicit false

/-! # Tokenizers

A tokenizer is a list of rules. Where a token begins, the first rule that finds one decides
(`Tokenizer.next`); where none does, a single character is a token. -/

namespace Interlinear

/-- Rules for tokens, the more important ones first. -/
structure Tokenizer where
  rules : List Rule

namespace Tokenizer

/-- Makes rules ready. The first pattern at fault is the error. -/
def ofRules (texts : List RuleText) : Except Error Tokenizer :=
  Tokenizer.mk <$> texts.mapM Rule.ofText

/-- What a rule finds at the front of a text: the kind and the number of characters of a token. -/
def found? (text : List Char) (r : Rule) : Option (TokenKind × Nat) :=
  (r.reach? text).map fun n => (r.kind, n)

/-- The kind and the number of characters of the token at the front of a text. -/
def next (t : Tokenizer) (text : List Char) : TokenKind × Nat :=
  (t.rules.findSome? (found? text)).getD (.other, 1)

/-- The tokens of the rest of a text, after `skip` of its characters that belong to the token before
them. `start` bytes come before the first token of the rest. -/
def tokensFrom (t : Tokenizer) (start : Nat) : Nat → List Char → List Token
  | _, [] => []
  | skip + 1, _ :: rest => t.tokensFrom start skip rest
  | 0, c :: rest =>
    let (kind, n) := t.next (c :: rest)
    let text := String.ofList ((c :: rest).take n)
    ⟨kind, text, start⟩ :: t.tokensFrom (start + Text.byteLength text) (n - 1) rest

theorem tokensFrom_eq_drop (t : Tokenizer) (start skip : Nat) (text : List Char) :
    t.tokensFrom start skip text = t.tokensFrom start 0 (text.drop skip) := by
  induction text generalizing skip with
  | nil => simp [tokensFrom]
  | cons c rest ih =>
    cases skip with
    | zero => rfl
    | succ skip => exact ih skip

/-- The tokens of a text. -/
def tokens (t : Tokenizer) (text : String) : List Token := t.tokensFrom 0 0 text.toList

end Tokenizer

end Interlinear
