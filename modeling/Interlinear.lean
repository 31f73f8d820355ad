import Interlinear.Analysis.Analyzer
import Interlinear.Analysis.Segmentation
import Interlinear.Annotation.Annotator
import Interlinear.Annotation.Basic
import Interlinear.Annotation.Print
import Interlinear.Binary.Decoder
import Interlinear.Binary.File
import Interlinear.Choices
import Interlinear.Command.Arguments
import Interlinear.Command.Compile
import Interlinear.Command.Dictionaries
import Interlinear.Command.Job
import Interlinear.Command.Parse
import Interlinear.Dictionary.Basic
import Interlinear.Dictionary.Builder
import Interlinear.Dictionary.Codec
import Interlinear.Dictionary.Prefixes
import Interlinear.Dictionary.Toolbox
import Interlinear.Digest.Basic
import Interlinear.Digest.Sha256
import Interlinear.Error
import Interlinear.Gloss.Basic
import Interlinear.Gloss.Codec
import Interlinear.Gloss.Print
import Interlinear.Gloss.TagSet
import Interlinear.Grammar.Basic
import Interlinear.Grammar.Codec
import Interlinear.Grammar.Matcher
import Interlinear.Grammar.Plan
import Interlinear.Lists
import Interlinear.Main
import Interlinear.OrderedMap
import Interlinear.Orthography.Converter
import Interlinear.Orthography.Maninka
import Interlinear.Regex.Basic
import Interlinear.Regex.Brackets
import Interlinear.Regex.CharClass
import Interlinear.Regex.Compile
import Interlinear.Regex.Escape
import Interlinear.Regex.Match
import Interlinear.Regex.Spacing
import Interlinear.Regex.Tokens
import Interlinear.Regex.Tree
import Interlinear.Regex.Written
import Interlinear.Text.Blank
import Interlinear.Text.Canonical
import Interlinear.Text.Casing
import Interlinear.Text.Casing.Orbit
import Interlinear.Text.Casing.Table
import Interlinear.Text.CodeRange
import Interlinear.Text.CombiningClass
import Interlinear.Text.Compatibility
import Interlinear.Text.Digit
import Interlinear.Text.Headword
import Interlinear.Text.Lines
import Interlinear.Text.NormalForm
import Interlinear.Text.Paragraphs
import Interlinear.Text.Property
import Interlinear.Text.Property.Binary
import Interlinear.Text.Property.Category
import Interlinear.Text.Property.Row
import Interlinear.Text.Property.Script
import Interlinear.Text.Quoted
import Interlinear.Text.Tone
import Interlinear.Text.Utf8
import Interlinear.Text.WordChar
import Interlinear.Token.Basic
import Interlinear.Token.Rule
import Interlinear.Token.Sentence
import Interlinear.Token.Standard
import Interlinear.Token.Tokenizer
import Interlinear.Union
import Interlinear.Proofs.Analysis.Segmentation
import Interlinear.Proofs.Regex.Spacing
import Interlinear.Proofs.Regex.Escape
import Interlinear.Proofs.Regex.Brackets
import Interlinear.Proofs.Regex.Tokens
import Interlinear.Proofs.Regex.Builder
import Interlinear.Proofs.Regex.Constituents
import Interlinear.Proofs.Regex.Positions
import Interlinear.Proofs.Regex.Truncation
import Interlinear.Proofs.Token.Partition
import Interlinear.Proofs.Regex.Runs
import Interlinear.Proofs.Regex.Groups
import Interlinear.Proofs.Regex.Pieces
import Interlinear.Proofs.Regex.Reading
import Interlinear.Proofs.Token.StandardRules
import Interlinear.Proofs.Token.SentenceEnd
import Interlinear.Proofs.Token.Truncation
import Interlinear.Proofs.Annotation.SentenceIndependence
import Interlinear.Proofs.Dictionary.Multimap
import Interlinear.Proofs.Grammar.Forms
import Interlinear.Proofs.Analysis.Agreement
import Interlinear.Proofs.Dictionary.Merging
import Interlinear.Proofs.Union.Members
import Interlinear.Proofs.Union.Registration
import Interlinear.Proofs.Text.Utf8
import Interlinear.Proofs.Binary.RoundTrip
import Interlinear.Proofs.Gloss.RoundTrip
import Interlinear.Proofs.Dictionary.RoundTrip
import Interlinear.Proofs.Grammar.RoundTrip
import Interlinear.Proofs.Except
import Interlinear.Proofs.Gloss.Resolution
import Interlinear.Proofs.Analysis.Composition
import Interlinear.Proofs.Analysis.Outcome
import Interlinear.Proofs.Dictionary.Articles
import Interlinear.Proofs.Gloss.Unification
import Interlinear.Proofs.Dictionary.Content
import Interlinear.Proofs.Text.Settled
import Interlinear.Proofs.Text.MarkOrder
import Interlinear.Proofs.Text.ToneAlike
import Interlinear.Proofs.Dictionary.ToneAliases
import Interlinear.Proofs.Text.Bisection
import Interlinear.Proofs.Text.Lowering
import Interlinear.Proofs.Text.HeadwordKey
import Interlinear.Proofs.Dictionary.Fingerprint
import Interlinear.Proofs.Grammar.Compilation
import Interlinear.Proofs.Analysis.Candidates
import Interlinear.Proofs.Token.Characters
import Interlinear.Proofs.Annotation.Coverage
import Interlinear.Proofs.Text.Controls
import Interlinear.Proofs.Gloss.Lines
import Interlinear.Proofs.Annotation.Lines
import Interlinear.Proofs.Dictionary.Lines
import Interlinear.Proofs.Annotation.Framing
import Interlinear.Proofs.Command.Job
import Interlinear.Proofs.Command.Results
import Interlinear.Proofs.Command.Framing
import Interlinear.Proofs.Text.Decomposition
import Interlinear.Proofs.Union.Prefixes
import Interlinear.Proofs.Gloss.Templates
import Interlinear.Proofs.Union.Listing
import Interlinear.Proofs.Union.Reregistration
import Interlinear.Proofs.Grammar.Reapplication
import Interlinear.Proofs.Grammar.Cutting
import Interlinear.Proofs.Choices
import Interlinear.Proofs.Analysis.Lookup
import Interlinear.Proofs.FirstOccurrences
import Interlinear.Proofs.Analysis.SecondLookup
import Interlinear.Proofs.Analysis.UnusablePatterns
import Interlinear.Proofs.Dictionary.Faults
import Interlinear.Proofs.Regex.Remainders
import Interlinear.Proofs.Regex.Passing.Escape
import Interlinear.Proofs.Regex.Passing.Brackets
import Interlinear.Proofs.Regex.Passing.Tokens
import Interlinear.Proofs.Regex.Unmatched
import Interlinear.Proofs.Grammar.FaultyTexts
import Interlinear.Proofs.Binary.Truncation
import Interlinear.Proofs.Orthography.Spellings
import Interlinear.Proofs.Text.CodeRanges
import Interlinear.Proofs.Text.TitleCase
import Interlinear.Proofs.Annotation.ProperNouns
import Interlinear.Proofs.Text.WordChars
import Interlinear.Proofs.Regex.Progress
import Interlinear.Proofs.Token.CharacterKinds
import Interlinear.Proofs.Analysis.Sequences
import Interlinear.Proofs.Token.Restart
import Interlinear.Proofs.Text.Lines
import Interlinear.Proofs.Regex.Required
import Interlinear.Proofs.Token.ParagraphBreaks
import Interlinear.Proofs.Token.Words
import Interlinear.Proofs.Gloss.Marks
import Interlinear.Proofs.Annotation.Words
import Interlinear.Proofs.Text.Composition
