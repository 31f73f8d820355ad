import Interlinear.Analysis.Analyzer
import Interlinear.Annotation.Basic
import Interlinear.Orthography.Converter
import Interlinear.Text.Casing
import Interlinear.Token.Sentence
import Interlinear.Token.Standard

set_option autoImplicit false

/-! # Annotating text

A paragraph is cut into tokens and sentences, and every word is analyzed in all its spellings
(`Annotator.annotate`). A capitalized word that does not begin its sentence may be a proper noun. -/

namespace Interlinear

/-- What is needed to annotate text. -/
structure Annotator where
  analyzer : Analyzer
  /-- Applied to each word, one after the other. -/
  converters : List Converter

/-- A spelling of a word, in lower case, and its analysis. -/
structure Reading where
  spelling : String
  analysis : Analysis

/-- The gloss of a number. -/
def cardinalGloss (text : String) : Gloss := ⟨text, .ofList ["num"], "CARDINAL", []⟩

/-- The tag of proper nouns. -/
def properNounTag : String := "n.prop"

/-- The gloss of a proper noun. -/
def properNounGloss (text : String) : Gloss := ⟨text, .ofList [properNounTag], text, []⟩

namespace Reading

/-- The highest stage among the readings of a word. -/
def stageOf (rs : List Reading) : Int32 :=
  ((rs.map (·.analysis.stage)).max?).getD unresolvedStage

/-- The glosses of the readings of a word: those of the resolved readings, or of all readings if
none is resolved. -/
def glossesOf (rs : List Reading) : List Gloss :=
  let kept := if 0 ≤ stageOf rs then rs.filter fun r => 0 ≤ r.analysis.stage else rs
  kept.flatMap (·.analysis.candidates)

end Reading

namespace Annotator

/-- The readings of a word, one for each spelling. -/
def readings (a : Annotator) (word : String) : List Reading :=
  (Converter.spellings a.converters word).map fun s =>
    let spelling := Text.lowered s
    ⟨spelling, a.analyzer.analyze spelling⟩

/-- The glosses of a word with that of a proper noun, if the word may be one, before them. -/
def withProperNoun (afterWord : Bool) (word : String) (glosses : List Gloss) : List Gloss :=
  if afterWord && Text.isTitle word && !glosses.any (·.tags.contains properNounTag) then
    properNounGloss word :: glosses
  else glosses

/-- The annotation of a word. -/
def word (a : Annotator) (afterWord : Bool) (text : String) : AnnotatedToken :=
  let rs := a.readings text
  .word text (.analyzer (Reading.stageOf rs)) (withProperNoun afterWord text (Reading.glossesOf rs))

/-- The annotation of a token; none for blank space. -/
def token? (a : Annotator) (afterWord : Bool) (t : Token) : Option AnnotatedToken :=
  match t.kind with
  | .comment => some (.comment t.text)
  | .tag => some (.tag t.text)
  | .sentenceEnd => some (.sentenceEnd t.text)
  | .punctuation | .other => some (.punctuation t.text)
  | .paragraphBreak | .lineBreak | .space => none
  | .cardinal => some (.word t.text .tokenizer [cardinalGloss t.text])
  | .word => some (a.word afterWord t.text)

/-- The annotation of tokens of a sentence, after a word of it or before its first word. Numbers do
not count as words here. -/
def tokensFrom (a : Annotator) (afterWord : Bool) : List Token → List AnnotatedToken
  | [] => []
  | t :: ts => (a.token? afterWord t).toList ++ a.tokensFrom (afterWord || t.kind == .word) ts

/-- The annotation of a sentence of a text. -/
def sentence (a : Annotator) (text : String) (s : List Token) : AnnotatedSentence :=
  ⟨(sentenceText? text s).getD "", a.tokensFrom false s⟩

/-- The annotation of a paragraph. -/
def annotate (a : Annotator) (text : String) : List AnnotatedSentence :=
  (sentencesOf (Tokenizer.standard.tokens text)).map (a.sentence text)

/-- The changes made while the words of a paragraph were analyzed, each with the spelling analyzed,
in order. -/
def changes (a : Annotator) (text : String) : List (String × Change) :=
  ((Tokenizer.standard.tokens text).filter (·.kind == .word)).flatMap fun t =>
    (a.readings t.text).flatMap fun r => r.analysis.changes.map fun c => (r.spelling, c)

end Annotator

end Interlinear
