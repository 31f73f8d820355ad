import Interlinear.Command.Parse
import Interlinear.Proofs.Annotation.Lines
import Interlinear.Proofs.Command.Job
import Interlinear.Proofs.Except

set_option autoImplicit false

/-! # What the job that glosses a text comes to

The results of the parts of the job, without their messages: the dictionary of a file, the union of
the files, the annotator, and the printed text (`yields_parse`). -/

namespace Interlinear.Command

open Job

/-! ## Dictionaries -/

/-- The dictionary in a file. -/
def InputFile.dictionary (f : InputFile) : Except Error Dictionary :=
  if f.isBinary then Dictionary.decode f.bytes else (Toolbox.read f.bytes).dictionary

theorem yields_readToolbox (bytes : List UInt8) :
    (readToolbox bytes).Yields (Toolbox.read bytes).dictionary := by
  -- Only what was built is asked for its attributes, and the messages before that do not matter.
  have hresult : (Toolbox.read bytes).dictionary = (Toolbox.read bytes).built >>= fun _ =>
      (Toolbox.read bytes).dictionary := by
    rw [Toolbox.Reading.dictionary]
    cases (Toolbox.read bytes).built with
    | error e => rfl
    | ok d => rfl
  rw [hresult]
  refine (yields_warn _).after ((yields_lift _).bind fun built => ?_)
  exact (yields_tell _).after (yields_lift _)

theorem yields_loadDictionary (f : InputFile) : (loadDictionary f).Yields f.dictionary := by
  rw [loadDictionary, InputFile.dictionary]
  split
  · exact yields_lift _
  · exact yields_readToolbox f.bytes

/-- Registers the dictionary in a file. -/
def registered (u : Union) (f : InputFile) : Except Error Union :=
  f.dictionary >>= fun d => .ok (u.register d).2

theorem yields_registerFile (u : Union) (f : InputFile) :
    (registerFile u f).Yields (registered u f) := by
  refine (yields_loadDictionary f).bind fun d => ?_
  exact (yields_forM yields_tell _).after (yields_pure _)

/-- The union of the dictionaries in files. -/
def unionOf (fs : List InputFile) : Except Error Union := fs.foldlM registered .empty

theorem yields_loadDictionaries (fs : List InputFile) :
    (loadDictionaries fs).Yields (unionOf fs) :=
  yields_foldlM yields_registerFile fs .empty

theorem exists_registered_iff (u : Union) (f : InputFile) :
    (∃ v, registered u f = .ok v) ↔ ∃ d, f.dictionary = .ok d := by
  constructor
  · rintro ⟨v, h⟩
    obtain ⟨d, hd, -⟩ := Except.bind_eq_ok_iff.1 h
    exact ⟨d, hd⟩
  · rintro ⟨d, hd⟩
    exact ⟨(u.register d).2, Except.bind_eq_ok_iff.2 ⟨d, hd, rfl⟩⟩

/-- The files make a union if each of them has a dictionary. -/
theorem exists_unionOf_iff (fs : List InputFile) :
    (∃ u, unionOf fs = .ok u) ↔ ∀ f ∈ fs, ∃ d, f.dictionary = .ok d :=
  Except.exists_foldlM_eq_ok_iff exists_registered_iff fs .empty

/-! ## The annotator -/

/-- The grammar in a file, if there is one. -/
def grammarOf : Option (List UInt8) → Except Error (Option Grammar)
  | some bytes => Grammar.decode bytes >>= fun g => .ok (some g)
  | none => .ok none

/-- The annotator that is asked for. -/
def annotatorOf (i : ParseInput) : Except Error Annotator :=
  unionOf i.dictionaries >>= fun u =>
    grammarOf i.grammar >>= fun g =>
      i.scripts.mapM Converter.named? >>= fun converters =>
        Analyzer.ofPlan u (.ofGrammar g) i.toneless >>= fun analyzer => .ok ⟨analyzer, converters⟩

theorem yields_prepareAnalyzer (u : Union) (g : Option Grammar) (toneless : Bool) :
    (prepareAnalyzer u g toneless).Yields (Analyzer.ofPlan u (.ofGrammar g) toneless) := by
  have hplan := (yields_warn (Plan.ofGrammar g).warnings).after
    (yields_lift (Analyzer.ofPlan u (.ofGrammar g) toneless))
  cases g with
  | none => exact (yields_pure ()).after hplan
  | some g => exact (yields_forM yields_tell _).after hplan

theorem yields_prepare (i : ParseInput) : (prepare i).Yields (annotatorOf i) := by
  refine (yields_tell _).after ((yields_loadDictionaries i.dictionaries).bind fun u => ?_)
  -- With or without a grammar, the job goes on in the same way.
  have hrest : ∀ g : Option Grammar, Yields
      (do
        let converters ← i.scripts.mapM fun name => (Converter.named? name : Job Converter)
        let analyzer ← prepareAnalyzer u g i.toneless
        tell (.progress "Ready to parse :)")
        pure ⟨analyzer, converters⟩)
      (i.scripts.mapM Converter.named? >>= fun converters =>
        Analyzer.ofPlan u (.ofGrammar g) i.toneless >>= fun analyzer =>
          .ok (Annotator.mk analyzer converters)) := by
    intro g
    have hnamed := yields_mapM (fun name => yields_lift (Converter.named? name)) i.scripts
    refine hnamed.bind fun converters => (yields_prepareAnalyzer u g i.toneless).bind fun _ => ?_
    exact (yields_tell _).after (yields_pure _)
  cases i.grammar with
  | none => exact (yields_pure none).bind hrest
  | some bytes =>
      rw [grammarOf, bind_assoc]
      refine (yields_tell _).after ((yields_lift _).bind fun g => ?_)
      exact (yields_pure (some g)).bind hrest

/-! ## The printed text -/

/-- The annotated sentences of a text. -/
def sentencesOfText (a : Annotator) (text : String) : List AnnotatedSentence :=
  (Text.paragraphs (Text.decomposedCompat text)).flatMap a.annotate

/-- The annotation of a text, as it is printed. -/
def printedText (a : Annotator) (text : String) : String :=
  String.join ((sentencesOfText a text).map (·.printed))

theorem yields_printParagraph (a : Annotator) (paragraph : String) :
    (printParagraph a paragraph).Yields
      (.ok (String.join ((a.annotate paragraph).map (·.printed)))) :=
  (yields_forM yields_tell _).after (yields_pure _)

/-- What is printed of the paragraphs is what is printed of their sentences. -/
theorem join_map_printed (a : Annotator) (ps : List String) :
    String.join (ps.map fun p => String.join ((a.annotate p).map (·.printed)))
      = String.join ((ps.flatMap a.annotate).map (·.printed)) := by
  have hgroups := join_map_join (ps.map fun p => (a.annotate p).map (·.printed))
  rwa [List.map_map, ← List.flatMap_def, ← List.map_flatMap] at hgroups

/-- The text in an input, unless its bytes are none. -/
def textOf (i : ParseInput) : Except Error String := (Text.ofUtf8 i.text).mapError fun _ => .notText

theorem yields_parse (i : ParseInput) : (parse i).Yields
    (annotatorOf i >>= fun a => textOf i >>= fun text => .ok (printedText a text)) := by
  refine (yields_prepare i).bind fun a => ?_
  rw [textOf]
  cases Text.ofUtf8 i.text with
  | error e => exact yields_throw .notText
  | ok text =>
      have hprinted := yields_mapM (yields_printParagraph a)
        (Text.paragraphs (Text.decomposedCompat text))
      have hall : (Text.paragraphs (Text.decomposedCompat text)).mapM (fun p =>
          (.ok (String.join ((a.annotate p).map (·.printed))) : Except Error String))
          = .ok ((Text.paragraphs (Text.decomposedCompat text)).map fun p =>
            String.join ((a.annotate p).map (·.printed))) := by
        rw [Except.mapM_eq_ok_iff, List.map_map]
        rfl
      rw [hall] at hprinted
      have hjoined := hprinted.bind fun printed => yields_pure (String.join printed)
      show Yields _ (.ok (printedText a text))
      rw [printedText, sentencesOfText, ← join_map_printed]
      exact hjoined

end Interlinear.Command
