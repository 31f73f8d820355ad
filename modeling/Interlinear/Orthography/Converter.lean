import Interlinear.Error
import Interlinear.Orthography.Maninka

set_option autoImplicit false

/-! # Orthography converters

A converter gives the spellings that a word may have in another orthography. Converters are known by
their names. -/

namespace Interlinear

/-- A way to write words in another orthography. -/
structure Converter where
  name : String
  description : String
  /-- The possible spellings of a word. -/
  convert : String → List String

namespace Converter

/-- The converter for the old Latin orthography of Maninka. -/
def maninkaOld : Converter where
  name := "emklatinold"
  description := "Converter from the old Latin orthography of Maninka (ambiguous)"
  convert := Maninka.convert

/-- All converters. -/
def all : List Converter := [maninkaOld]

/-- The converter of a name. -/
def named? (name : String) : Except Error Converter :=
  match all.find? (·.name == name) with
  | some c => .ok c
  | none => .error (.unknownConverter name (all.map (·.name)))

/-- Applies a converter to every spelling. A spelling for which it gives nothing is kept. -/
def applyTo (c : Converter) (spellings : List String) : List String :=
  spellings.flatMap fun s =>
    let converted := c.convert s
    if converted.isEmpty then [s] else converted

/-- The spellings of a word after all converters were applied, one after the other. -/
def spellings (cs : List Converter) (word : String) : List String :=
  cs.foldl (fun spellings c => c.applyTo spellings) [word]

end Converter

end Interlinear
