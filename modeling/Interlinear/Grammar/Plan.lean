import Interlinear.Grammar.Matcher

set_option autoImplicit false

/-! # Plans made ready

Turns the steps of a token plan into stages (`Plan.compile`). The patterns of a section are made
ready once, when a step first names it, and each of them that cannot be used gives one warning. -/

namespace Interlinear

/-- Which candidates end an analysis. -/
inductive Acceptance where
  | resolved
  | unknown
deriving DecidableEq, Repr

/-- Whether a candidate is acceptable. -/
def Acceptance.accepts : Acceptance → Gloss → Bool
  | resolved, g => g.isResolved
  | unknown, g => g.isUnknown

/-- What is done with a pattern and a candidate. -/
inductive Action where
  /-- The pattern is applied to the candidate. -/
  | parse
  /-- The form of the candidate is cut into keys of the dictionaries first. -/
  | decompose
deriving DecidableEq, Repr

/-- What is made of a candidate. -/
inductive Transform where
  /-- Its entries in the dictionaries. -/
  | lookup
  /-- What each pattern makes of it. -/
  | parallel (action : Action) (patterns : List CompiledPattern)
  /-- What each pattern makes of the newest result, or of the candidate before there is one. -/
  | sequential (action : Action) (patterns : List CompiledPattern)

/-- A step made ready. -/
inductive Stage where
  /-- Ends the analysis if there are acceptable candidates. -/
  | stop (acceptance : Acceptance)
  /-- Puts what is made of each candidate in its place, if anything is. -/
  | apply (id : Int32) (transform : Transform)
  /-- Adds what is made of the candidates. -/
  | add (id : Int32) (transform : Transform)

/-- The sections that steps have named so far, in the order of their first use. -/
abbrev UsedSections := List (String × List CompiledPattern)

/-- The stages made of a plan, or the first error, and the sections used up to there. -/
structure Plan where
  used : UsedSections
  stages : Except Error (List Stage)

namespace Plan

/-- The patterns of a section, made ready now if they were not used before. -/
def useSection (sections : Sections) (used : UsedSections) (name : String) :
    Except Error (List CompiledPattern) × UsedSections :=
  match used.find? (·.1 == name) with
  | some s => (.ok s.2, used)
  | none =>
    match sections.get? name with
    | some patterns =>
      let compiled := patterns.map .ofPattern
      (.ok compiled, used ++ [(name, compiled)])
    | none => (.error (.unknownSection name), used)

/-- The action of a name. -/
def action? : String → Option Action
  | "parse" => some .parse
  | "decompose" => some .decompose
  | _ => none

/-- What a step makes of each candidate, from the operands after the first. -/
def transform (sections : Sections) (used : UsedSections) (s : Step) :
    List String → Except Error Transform × UsedSections
  | ["lookup"] => (.ok .lookup, used)
  | [combination, actionName, sectionName] =>
    match action? actionName with
    | none => (.error (.unsupportedStep s), used)
    | some action =>
      match useSection sections used sectionName with
      | (.error e, used) => (.error e, used)
      | (.ok patterns, used) =>
        if combination = "parallel" then (.ok (.parallel action patterns), used)
        else if combination = "sequential" then (.ok (.sequential action patterns), used)
        else (.error (.unsupportedStep s), used)
  | _ => (.error (.unsupportedStep s), used)

/-- The stage of a step. -/
def stage (sections : Sections) (used : UsedSections) (s : Step) :
    Except Error Stage × UsedSections :=
  match s.kind, s.operands with
  | .stop, ["parsed"] => (.ok (.stop .resolved), used)
  | .stop, ["unknown"] => (.ok (.stop .unknown), used)
  | .stage id, "apply" :: rest =>
    let (t, used) := transform sections used s rest
    (t.map (.apply id), used)
  | .stage id, "add" :: rest =>
    let (t, used) := transform sections used s rest
    (t.map (.add id), used)
  | _, _ => (.error (.unsupportedStep s), used)

/-- The stages of steps, after those that have used some sections. -/
def compileFrom (sections : Sections) (used : UsedSections) : List Step → Plan
  | [] => ⟨used, .ok []⟩
  | s :: steps =>
    match stage sections used s with
    | (.error e, used) => ⟨used, .error e⟩
    | (.ok st, used) =>
      let rest := compileFrom sections used steps
      ⟨rest.used, rest.stages.map (st :: ·)⟩

/-- The stages of the token plan of a grammar. -/
def compile (g : Grammar) : Plan := compileFrom g.sections [] g.token

/-- The plan without a grammar: words are looked up. -/
def lookupOnly : Plan := ⟨[], .ok [.apply 0 .lookup, .stop .resolved]⟩

/-- The plan of a grammar, if there is one. -/
def ofGrammar : Option Grammar → Plan
  | some g => compile g
  | none => lookupOnly

/-- The warnings about the patterns of the sections used. -/
def warnings (p : Plan) : List Warning :=
  p.used.flatMap fun (name, patterns) => patterns.filterMap (·.warning? name)

end Plan

end Interlinear
