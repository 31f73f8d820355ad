import Interlinear.Text.Utf8

set_option autoImplicit false

/-! # Tokens

A text is a sequence of tokens. A token knows its text and how many bytes of the whole text come
before it. -/

namespace Interlinear

/-- What a token is. -/
inductive TokenKind where
  /-- A remark that is not part of the text proper. -/
  | comment
  /-- Punctuation that ends a sentence, or a mark that stands for it. -/
  | sentenceEnd
  /-- A mark of structure. -/
  | tag
  /-- Several line ends in a row. -/
  | paragraphBreak
  | lineBreak
  | space
  | word
  /-- A number in digits. -/
  | cardinal
  /-- Punctuation within a sentence. -/
  | punctuation
  | other
deriving DecidableEq, Repr

/-- A piece of a text. -/
structure Token where
  kind : TokenKind
  text : String
  /-- The number of bytes before the token. -/
  start : Nat
deriving DecidableEq, Repr

namespace Token

/-- The number of bytes up to the end of the token. -/
def stop (t : Token) : Nat := t.start + Text.byteLength t.text

end Token

end Interlinear
