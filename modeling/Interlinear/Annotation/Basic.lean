import Interlinear.Gloss.Print
import Interlinear.Token.Basic

set_option autoImplicit false

/-! # Annotated text

An annotated text is a list of sentences. Each holds its own text and its tokens, words with their
glosses; blank space is not among the tokens. -/

namespace Interlinear

/-- Where the glosses of a word come from. -/
inductive Origin where
  /-- The word is a number, which is known as such by its form. -/
  | tokenizer
  /-- A stage of the analysis, or -1 if the word was not resolved. -/
  | analyzer (stage : Int32)
deriving DecidableEq

/-- The origin as it is printed. -/
def Origin.text : Origin → String
  | tokenizer => "tokenizer"
  | analyzer stage => toString stage.toInt

/-- A token with what is known about it. -/
inductive AnnotatedToken where
  | word (text : String) (origin : Origin) (glosses : List Gloss)
  | punctuation (text : String)
  | sentenceEnd (text : String)
  | tag (text : String)
  | comment (text : String)
deriving DecidableEq

/-- The text of a token. -/
def AnnotatedToken.text : AnnotatedToken → String
  | word text _ _ | punctuation text | sentenceEnd text | tag text | comment text => text

/-- A sentence with its tokens. -/
structure AnnotatedSentence where
  /-- The text of the sentence, with its blank space. -/
  text : String
  tokens : List AnnotatedToken
deriving DecidableEq

end Interlinear
