import Interlinear.Annotation.Annotator
import Interlinear.Annotation.Print
import Interlinear.Command.Dictionaries
import Interlinear.Grammar.Codec
import Interlinear.Text.Paragraphs

set_option autoImplicit false

/-! # Glossing a text

The job of the program that glosses a text: it loads dictionaries and a grammar, and prints the
annotation of the text, paragraph by paragraph. The text is brought into the compatibility
decomposed form first, like the keys of dictionaries. -/

namespace Interlinear.Command

/-- What the program is given. -/
structure ParseInput where
  dictionaries : List InputFile
  /-- The bytes of a grammar file. -/
  grammar : Option (List UInt8)
  /-- The names of the converters, in the order in which they are applied. -/
  scripts : List String
  /-- Whether tone marks do not count when words are looked up. -/
  toneless : Bool
  /-- The bytes of the text. -/
  text : List UInt8

/-- The note on a sentence plan, which is not carried out. -/
def sentencePlanNote (g : Grammar) : List Message :=
  if g.sentence.isEmpty then []
  else [.note .debug ("The sentence plan (" ++ toString g.sentence.length ++
    " steps) is not executed")]

/-- Makes an analyzer ready. -/
def prepareAnalyzer (u : Union) (g : Option Grammar) (toneless : Bool) : Job Analyzer := do
  match g with
  | some g => (sentencePlanNote g).forM Job.tell
  | none => pure ()
  let plan := Plan.ofGrammar g
  Job.warn plan.warnings
  Analyzer.ofPlan u plan toneless

/-- The note on a change made while a word was analyzed. -/
def changeNote (change : String × Change) : Message :=
  .note .debug (change.1 ++ ": stage " ++ toString change.2.stage.toInt ++ " gives " ++
    toString change.2.count ++ " candidates")

/-- Prints the annotation of a paragraph. -/
def printParagraph (a : Annotator) (paragraph : String) : Job String := do
  ((a.changes paragraph).map changeNote).forM Job.tell
  pure (String.join ((a.annotate paragraph).map (·.printed)))

/-- The annotator that is asked for. -/
def prepare (i : ParseInput) : Job Annotator := do
  Job.tell (.progress "Loading the dictionaries...")
  let u ← loadDictionaries i.dictionaries
  let grammar ←
    match i.grammar with
    | some bytes => do
      Job.tell (.progress "Loading the grammar...")
      let g ← Grammar.decode bytes
      pure (some g)
    | none => pure none
  let converters ← i.scripts.mapM fun name => (Converter.named? name : Job Converter)
  let analyzer ← prepareAnalyzer u grammar i.toneless
  Job.tell (.progress "Ready to parse :)")
  pure ⟨analyzer, converters⟩

/-- Prints the annotation of a text. -/
def parse (i : ParseInput) : Job String := do
  let annotator ← prepare i
  match Text.ofUtf8 i.text with
  | .error _ => throw .notText
  | .ok text =>
    let printed ← (Text.paragraphs (Text.decomposedCompat text)).mapM (printParagraph annotator)
    pure (String.join printed)

end Interlinear.Command
