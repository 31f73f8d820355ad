import Interlinear.Binary.Decoder
import Interlinear.Gloss.Print
import Interlinear.Grammar.Basic
import Interlinear.Regex.Compile
import Interlinear.Text.Quoted

set_option autoImplicit false

/-! # Errors and warnings

An error says what went wrong, a warning what was left out. Both have a message; an error also has
a report in full, which a program ends with. -/

namespace Interlinear

/-- The kinds of files that begin with a magic number. -/
inductive FileKind where
  | dictionary
  | grammar
deriving DecidableEq, Repr

/-- What a file is said to be in messages. -/
def FileKind.name : FileKind → String
  | dictionary => "dictionary"
  | grammar => "grammar"

/-- Why something could not be done. -/
inductive Error where
  /-- There is no converter of this name among those given. -/
  | unknownConverter (name : String) (known : List String)
  /-- A file begins with another magic number than files of its kind. -/
  | foreignFile (kind : FileKind)
  /-- A file ends within its magic number. -/
  | shortFile
  /-- What is read as text is not in UTF-8. -/
  | notText
  /-- The bytes of a file cannot be read. -/
  | undecodable (fault : Binary.Fault)
  /-- A key holds the character that marks the end of keys. -/
  | endMarkerInKey
  /-- A rule of a tokenizer is no pattern. -/
  | faultyRule (fault : PatternFault)
  /-- A morpheme has not three fields. -/
  | morphemeFields (value : String) (line : Nat)
  /-- A morpheme belongs to no lemma. -/
  | orphanMorpheme (line : Nat)
  /-- A dictionary has no language, no name or no version. -/
  | unattributed (description : String)
  /-- A dictionary does not have this key. -/
  | notFound (key : String)
  /-- A pattern does not admit a candidate of this form. -/
  | patternMismatch (form : String)
  /-- A step of a plan is of no known shape. -/
  | unsupportedStep (step : Step)
  /-- A step of a plan names a section that the grammar does not have. -/
  | unknownSection (name : String)

/-- What went wrong, in general. -/
inductive Error.Category where
  /-- An argument was of no use. -/
  | argument (name : String)
  /-- A text was not of its format. -/
  | format (name : String)
  | notFound
  | mismatch
  | plan
  | decoding
  /-- Bytes came to an end or were no text; the kind of the failure is given. -/
  | stream (kind : String)

/-- A step's kind as messages show it. -/
def StepKind.text : StepKind → String
  | stage id => "Stage(" ++ toString id.toInt ++ ")"
  | stop => "Return"

namespace Error

/-- The category of an error. -/
def category : Error → Category
  | unknownConverter _ _ => .argument "name"
  | foreignFile _ => .argument "rdr"
  | shortFile => .stream "UnexpectedEof"
  | notText => .stream "InvalidData"
  | undecodable _ => .decoding
  | endMarkerInKey => .argument "map"
  | faultyRule _ => .argument "rules"
  | morphemeFields _ _ => .format "toolbox"
  | orphanMorpheme _ => .format "toolbox"
  | unattributed _ => .format "toolbox"
  | notFound _ => .notFound
  | patternMismatch _ => .mismatch
  | unsupportedStep _ => .plan
  | unknownSection _ => .plan

/-- What went wrong in particular. -/
def detail : Error → String
  | unknownConverter name known =>
    "Unknown converter " ++ Text.quoted name ++ ", expected one of " ++
      String.intercalate ", " known
  | foreignFile kind => "The magic number of the input " ++ kind.name ++ " mismatches."
  | shortFile => "failed to fill whole buffer"
  | notText => "stream did not contain valid UTF-8"
  | undecodable fault => fault.message
  | endMarkerInKey => "InputError: END_MARKER must not be contained."
  | faultyRule fault => fault.message
  | morphemeFields value line =>
    "A morpheme must have three fields form:ps:gloss, " ++ Text.quoted value ++
      " (at line " ++ toString line ++ ")"
  | orphanMorpheme line => "A morpheme precedes every lemma (at line " ++ toString line ++ ")"
  | unattributed description =>
    "The dictionary does not contain obligatory \\lang, \\name or \\ver fields: " ++ description
  | notFound key => key
  | patternMismatch form => form
  | unsupportedStep step =>
    "Unsupported step " ++ step.kind.text ++ ": " ++ String.intercalate " " step.operands
  | unknownSection name => "Unknown pattern section: " ++ name

/-- The message of an error. -/
def message (e : Error) : String :=
  match e.category with
  | .argument name => "InvalidArgumentError: " ++ name ++ ": " ++ e.detail
  | .format name => "InvalidFormatError: " ++ name ++ ": " ++ e.detail
  | .notFound => "NotFoundError: " ++ e.detail
  | .mismatch => "PatternMismatchError: " ++ e.detail
  | .plan => "GrammarCompilationError: " ++ e.detail
  | .decoding => e.detail
  | .stream _ => e.detail

/-- A named field and the detail of an error, in braces. -/
def fields (name value detail : String) : String :=
  "\x7b " ++ name ++ ": " ++ value ++ ", " ++ detail ++ " \x7d"

/-- The report that a program ends with. -/
def report (e : Error) : String :=
  match e.category with
  | .argument name =>
    "InvalidArgument(InvalidArgumentError " ++
      fields "arg" (Text.quoted name) ("msg: " ++ Text.quoted e.detail) ++ ")"
  | .format name =>
    "InvalidFormat(InvalidFormatError " ++
      fields "arg" (Text.quoted name) ("msg: " ++ Text.quoted e.detail) ++ ")"
  | .notFound => "NotFound(" ++ Text.quoted e.detail ++ ")"
  | .mismatch => "PatternMismatch(" ++ Text.quoted e.detail ++ ")"
  | .plan => "GrammarCompilation(" ++ Text.quoted e.detail ++ ")"
  | .decoding => "BincodeDecode(" ++ e.detail ++ ")"
  | .stream kind =>
    "StdIo(Error " ++ fields "kind" kind ("message: " ++ Text.quoted e.detail) ++ ")"

end Error

/-- What was left out. -/
inductive Warning where
  /-- A gloss without a key was not entered into a dictionary. -/
  | emptyKey (gloss : Gloss)
  /-- A pattern of a section cannot be used. -/
  | unusablePattern (sectionName : String) (select : Gloss) (fault : PatternFault)

/-- The message of a warning. -/
def Warning.message : Warning → String
  | emptyKey gloss => "Skipped an empty key for " ++ gloss.text
  | unusablePattern sectionName select fault =>
    "MalformedPatternTemplateError: " ++ sectionName ++ ": " ++ select.text ++ ": " ++
      fault.message

end Interlinear
