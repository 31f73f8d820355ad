import Interlinear.Token.Tokenizer

set_option autoImplicit false

/-! # The standard rules

The tokens of running text with some markup: comments in `<c>` or `<sp>`, tags, numbers, words with
their tone marks and apostrophes, and punctuation, in Latin script and in N'Ko. -/

namespace Interlinear

/-- What may stand in a word besides letters and digits: tone marks, the diaeresis, the marks of
N'Ko, and the hyphen. It is part of a character class. -/
def wordMarks : String :=
  r"\x{0300}\x{0301}\x{0302}\x{030c}\x{0308}\x{07eb}-\x{07f3}\x{07f6}\x{07fa}\-"

/-- The standard rules, the more important ones first. -/
def standardRules : List RuleText := [
  ⟨.comment, r"(?s)<c>.*?</c>", none⟩,
  ⟨.comment, r"<sp>.*?</sp>", none⟩,
  ⟨.sentenceEnd, r"<st>", none⟩,
  ⟨.tag, r"<.*?>", none⟩,
  ⟨.paragraphBreak, r"(\r?\n){2,}", none⟩,
  ⟨.lineBreak, r"[\r\n]", none⟩,
  ⟨.space, r"\s+", none⟩,
  -- The numero sign, and ordinal numbers.
  ⟨.word, r"[nN]\x{00b0}", none⟩,
  ⟨.word, r"\d+nan", none⟩,
  ⟨.cardinal, r"(\d([-.,:]\d)?)+", none⟩,
  -- Initials.
  ⟨.word, r"(\w\.){2,}", none⟩,
  -- Words that end with an apostrophe, and other words.
  ⟨.word, r"[\w" ++ wordMarks ++ r"]+['\x{2019}\x{07f4}\x{07f5}]", none⟩,
  ⟨.word, r"(\w[" ++ wordMarks ++ r"]{0,2})+", none⟩,
  ⟨.sentenceEnd, r"[.!?\x{061f}\x{07f9}]+", some r"[\s\x{200f}]"⟩,
  ⟨.sentenceEnd, r":", some r"[^\S\n]*\n"⟩,
  ⟨.punctuation, r"[:;,\x{061b}\x{060c}\x{07f8}\x{200f}()\x{7b}\x{7d}\x{22}]+", none⟩,
  ⟨.other, r"\W", none⟩,
  ⟨.other, r"(?s).", none⟩]

set_option maxRecDepth 100000 in
/-- All standard patterns are regular expressions. -/
theorem isOk_standardRules : (Tokenizer.ofRules standardRules).isOk := by decide +kernel

/-- The tokenizer with the standard rules. -/
def Tokenizer.standard : Tokenizer :=
  match h : Tokenizer.ofRules standardRules with
  | .ok t => t
  | .error _ => absurd isOk_standardRules (by rw [h]; exact Bool.false_ne_true)

end Interlinear
