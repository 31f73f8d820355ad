import Interlinear.Analysis.Segmentation
import Interlinear.Choices
import Interlinear.Grammar.Plan
import Interlinear.Text.Tone

set_option autoImplicit false

/-! # Analyzing words

A word begins as one candidate about which nothing is known. The stages of a plan change the list of
candidates one after the other, until one of them finds acceptable candidates (`Analyzer.analyze`).
The answer tells which stage was the last to change the list. -/

namespace Interlinear

/-- The dictionaries and the stages by which words are analyzed. -/
structure Analyzer where
  union : Union
  stages : List Stage
  /-- Whether tone marks do not count when words are looked up. -/
  toneless : Bool

/-- A change of the list of candidates: the stage, and the number of candidates after it. -/
structure Change where
  stage : Int32
  count : Nat
deriving DecidableEq

/-- What came of analyzing a word. -/
structure Analysis where
  /-- The last stage that changed the candidates, or -1 if none of them was acceptable. -/
  stage : Int32
  candidates : List Gloss
  /-- The changes of the list, in order. -/
  changes : List Change

/-- An analysis with an earlier change. -/
def Analysis.after (r : Analysis) (change : Change) : Analysis :=
  { r with changes := change :: r.changes }

/-- The number reported if no candidate was acceptable. -/
def unresolvedStage : Int32 := -1

namespace Analyzer

/-- An analyzer with a plan. -/
def ofPlan (u : Union) (p : Plan) (toneless : Bool) : Except Error Analyzer :=
  p.stages.map fun stages => ⟨u, stages, toneless⟩

/-! ## Looking up -/

/-- The key that a form is looked up under. -/
def key (a : Analyzer) (form : String) : String := if a.toneless then Text.toneless form else form

/-- The entries of the form of a gloss that agree with its tags and its meaning. -/
def entries (a : Analyzer) (g : Gloss) : List Gloss :=
  (a.union.glosses (a.key g.form)).filter (·.satisfies ⟨"", g.tags, g.meaning, []⟩)

/-- What a morpheme may stand for: itself if it is resolved or has no entries, and its entries
otherwise. -/
def readings (a : Analyzer) (m : Gloss) : List Gloss :=
  if m.isResolved then [m]
  else
    let found := a.entries m
    if found.isEmpty then [m] else found

/-- What a candidate stands for: itself if it is resolved, its entries if it is not taken apart,
and otherwise every combination of what its morphemes stand for. -/
def lookup (a : Analyzer) (g : Gloss) : List Gloss :=
  if g.isResolved then [g]
  else if g.morphemes.isEmpty then a.entries g
  else (choices (g.morphemes.map a.readings)).map g.withMorphemes

/-! ## Patterns -/

/-- What a pattern makes of a candidate. -/
def parse (p : CompiledPattern) (g : Gloss) : List Gloss := (p.result? g).toList

/-- What a pattern makes of a candidate whose form is cut into keys. Only candidates that are
resolved are kept. A pattern that asks for less than two morphemes is applied as it is. -/
def decompose (a : Analyzer) (p : CompiledPattern) (g : Gloss) : List Gloss :=
  if p.arity < 2 then parse p g
  else match p.restrict? g with
    | none => []
    | some base =>
      (segmentations a.union (a.key g.form) p.arity).flatMap fun pieces =>
        match p.morphemes? pieces with
        | none => []
        | some ms => ((a.lookup (base.withMorphemes ms)).filter (·.isResolved)).map p.marked

/-- What an action with a pattern makes of a candidate. -/
def act (a : Analyzer) : Action → CompiledPattern → Gloss → List Gloss
  | .parse, p, g => parse p g
  | .decompose, p, g => a.decompose p g

/-- What patterns make of a candidate one after the other: each works on the newest result, and
its own results go before the others. -/
def sequence (a : Analyzer) (action : Action) (g : Gloss) (patterns : List CompiledPattern) :
    List Gloss :=
  patterns.foldl (fun results p => a.act action p (results.headD g) ++ results) []

/-- What is made of a candidate. -/
def transform (a : Analyzer) : Transform → Gloss → List Gloss
  | .lookup, g => a.lookup g
  | .parallel action patterns, g => patterns.flatMap fun p => a.act action p g
  | .sequential action patterns, g => a.sequence action g patterns

/-! ## Stages -/

/-- The candidates after each was replaced by what is made of it, if anything is. -/
def applyTo (a : Analyzer) (t : Transform) (candidates : List Gloss) : List Gloss :=
  candidates.flatMap fun g =>
    let results := a.transform t g
    if results.isEmpty then [g] else results

/-- The candidates and, after them, what is made of each. -/
def addTo (a : Analyzer) (t : Transform) (candidates : List Gloss) : List Gloss :=
  candidates ++ candidates.flatMap (a.transform t)

/-- Carries out stages on a list of candidates that a given stage was the last to change. -/
def runFrom (a : Analyzer) (last : Int32) (candidates : List Gloss) : List Stage → Analysis
  | [] => ⟨unresolvedStage, candidates, []⟩
  | .stop acceptance :: rest =>
    let accepted := candidates.filter acceptance.accepts
    if accepted.isEmpty then a.runFrom last candidates rest else ⟨last, accepted, []⟩
  | .apply id t :: rest =>
    let next := a.applyTo t candidates
    if next = candidates then a.runFrom last candidates rest
    else (a.runFrom id next rest).after ⟨id, next.length⟩
  | .add id t :: rest =>
    let next := a.addTo t candidates
    if next = candidates then a.runFrom last candidates rest
    else (a.runFrom id next rest).after ⟨id, next.length⟩

/-- The analysis of a word. -/
def analyze (a : Analyzer) (word : String) : Analysis :=
  a.runFrom unresolvedStage [.ofForm word] a.stages

end Analyzer

end Interlinear
