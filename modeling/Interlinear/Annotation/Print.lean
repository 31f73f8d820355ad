import Interlinear.Annotation.Basic

set_option autoImplicit false

/-! # Printed annotations

Each token of a sentence is printed on a line, its text first and tabs between the fields. A line
with `EOS` ends the sentence. -/

namespace Interlinear

/-- The text of a comment on one line. -/
def unbroken (text : String) : String :=
  String.ofList (text.toList.map fun c => if c = '\n' then ' ' else c)

/-- The line of a token. -/
def AnnotatedToken.line : AnnotatedToken → String
  | word text origin glosses =>
    text ++ "\t" ++ origin.text ++ "\t" ++ String.intercalate " | " (glosses.map Gloss.text)
  | punctuation text | sentenceEnd text => text ++ "\tc"
  | tag text => text ++ "\ttag"
  | comment text => unbroken text ++ "\tcomment"

namespace AnnotatedSentence

/-- The lines of a sentence. -/
def lines (s : AnnotatedSentence) : List String := s.tokens.map (·.line) ++ ["EOS"]

/-- A sentence as it is printed. -/
def printed (s : AnnotatedSentence) : String := String.join (s.lines.map (· ++ "\n"))

end AnnotatedSentence

end Interlinear
