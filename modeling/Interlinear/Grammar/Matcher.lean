import Interlinear.Error
import Interlinear.Grammar.Basic

set_option autoImplicit false

/-! # Patterns at work

The forms in the template of a pattern are regular expressions. The form of the template must match
the whole form of a candidate, and the form of a morpheme template the whole of a morpheme. A
candidate without morphemes is cut into as many pieces as the template has morphemes. An empty form
stands for any text that is not empty.

A pattern with a form that is no regular expression admits no candidate. -/

namespace Interlinear

/-- The regular expressions of a template. -/
structure Matcher where
  /-- Matches the whole form. -/
  form : Option Regex
  /-- Cuts the form into pieces. -/
  split : Option Regex
  /-- Matches a whole piece, one for each morpheme. -/
  pieces : List (Option Regex)

namespace Matcher

/-- The regular expression that matches a whole text; none if every text is to match. -/
def whole (form : String) : Except PatternFault (Option Regex) :=
  if form.isEmpty then .ok none else some <$> Regex.ofPattern ("^(?:" ++ form ++ ")$")

/-- The name of the group that matches the piece of a given number. -/
def pieceName (i : Nat) : String := "m" ++ toString i

/-- The group that matches the piece of a given number. -/
def pieceGroup (i : Nat) (form : String) : String :=
  "(?P<" ++ pieceName i ++ ">" ++ (if form.isEmpty then ".+" else form) ++ ")"

/-- The pattern that cuts a form into pieces for morphemes of the given forms. -/
def splitPattern (forms : List String) : String :=
  "^" ++ String.join (forms.mapIdx pieceGroup) ++ "$"

/-- The matcher of a template. -/
def ofTemplate (select : Gloss) : Except PatternFault Matcher := do
  let forms := select.morphemes.map (·.form)
  let split ←
    if forms.isEmpty then pure none else some <$> Regex.ofPattern (splitPattern forms)
  let form ← whole select.form
  let pieces ← forms.mapM whole
  pure ⟨form, split, pieces⟩

end Matcher

/-- Whether a text matches a regular expression, if there is one. -/
def admits (r : Option Regex) (text : String) : Bool :=
  match r with
  | none => true
  | some r => r.isMatch text.toList

/-- A pattern with its matcher. -/
structure CompiledPattern where
  pattern : Pattern
  matcher : Except PatternFault Matcher

namespace CompiledPattern

/-- Makes a pattern ready. -/
def ofPattern (p : Pattern) : CompiledPattern := ⟨p, Matcher.ofTemplate p.select⟩

/-- The matcher, if the pattern can be used. -/
def matcher? (p : CompiledPattern) : Option Matcher := p.matcher.toOption

theorem matcher?_ofPattern_eq_some_iff {pattern : Pattern} {m : Matcher} :
    (ofPattern pattern).matcher? = some m ↔ Matcher.ofTemplate pattern.select = .ok m := by
  rw [matcher?, ofPattern]
  cases Matcher.ofTemplate pattern.select with
  | error e => simp [Except.toOption]
  | ok m' => simp [Except.toOption]

/-- The warning about a pattern that cannot be used. -/
def warning? (sectionName : String) (p : CompiledPattern) : Option Warning :=
  match p.matcher with
  | .ok _ => none
  | .error fault => some (.unusablePattern sectionName p.pattern.select fault)

/-- The number of morphemes that the pattern asks for. -/
def arity (p : CompiledPattern) : Nat := p.pattern.select.morphemes.length

/-- What the template asks of tags and meaning. -/
def constraint (p : CompiledPattern) : Gloss :=
  ⟨"", p.pattern.select.tags, p.pattern.select.meaning, []⟩

/-- A candidate narrowed down to the tags and the meaning of the template, if its form matches. -/
def restrict? (p : CompiledPattern) (g : Gloss) : Option Gloss := do
  let m ← p.matcher?
  if admits m.form g.form then g.unify? p.constraint else none

/-- The morpheme that the template of a given number makes of a piece, if the piece matches. -/
def morpheme? (p : CompiledPattern) (i : Nat) (piece : String) : Option Gloss := do
  let m ← p.matcher?
  let template ← p.pattern.select.morphemes[i]?
  let r ← m.pieces[i]?
  if admits r piece then some ⟨piece, template.tags, template.meaning, []⟩ else none

/-- The morphemes that the templates make of pieces, one each. -/
def morphemes? (p : CompiledPattern) (pieces : List String) : Option (List Gloss) :=
  (pieces.mapIdx fun i piece => p.morpheme? i piece).mapM id

/-- Writes the marks of the pattern over a gloss. -/
def marked (p : CompiledPattern) (g : Gloss) : Gloss := g.overlay p.pattern.mark

/-- The pieces that a regular expression cuts a form into, if it matches. -/
def pieces? (p : CompiledPattern) (split : Regex) (form : String) : Option (List String) := do
  let found ← split.find? form.toList
  (List.range p.arity).mapM fun i => (found.group? (Matcher.pieceName i)).map String.ofList

/-- The morphemes of a candidate that already has as many as the pattern asks for, each unified
with what its template makes of its form. -/
def presplit? (p : CompiledPattern) (ms : List Gloss) : Option (List Gloss) :=
  (ms.mapIdx fun i m => (p.morpheme? i m.form).bind m.unify?).mapM id

/-- What the pattern makes of a candidate, without regard to dictionaries. -/
def result? (p : CompiledPattern) (g : Gloss) : Option Gloss := do
  let m ← p.matcher?
  let narrowed ← p.restrict? g
  match m.split with
  | none => some (p.marked narrowed)
  | some split =>
    if g.morphemes.isEmpty then
      let pieces ← p.pieces? split g.form
      let ms ← p.morphemes? pieces
      some (p.marked (narrowed.withMorphemes ms))
    else if g.morphemes.length = p.arity then
      let ms ← p.presplit? g.morphemes
      some (p.marked (narrowed.withMorphemes ms))
    else none

/-- What the pattern makes of a candidate; it is an error if it makes nothing of it. -/
def apply (p : CompiledPattern) (g : Gloss) : Except Error Gloss :=
  match p.result? g with
  | some g => .ok g
  | none => .error (.patternMismatch g.form)

end CompiledPattern

end Interlinear
