import Interlinear.Command.Dictionaries

set_option autoImplicit false

/-! # Compiling a dictionary

The job of the program that makes a binary dictionary of one in the Toolbox format. -/

namespace Interlinear.Command

/-- What the program makes. -/
structure Compiled where
  /-- A line about the dictionary. -/
  report : String
  /-- The bytes of the dictionary file. -/
  bytes : List UInt8

/-- The line about a dictionary. -/
def reportOf (d : Dictionary) : String :=
  "lang=" ++ d.lang ++ " name=" ++ d.name ++ " ver=" ++ d.ver ++ " keys=" ++ toString d.size ++
    " fingerprint=" ++ d.fingerprint.hex

/-- Makes a binary dictionary of the bytes of a Toolbox file. -/
def compile (toolbox : List UInt8) (outPath : String) : Job Compiled := do
  Job.tell (.progress "Compiling the dictionary...")
  let d ← readToolbox toolbox
  let report := reportOf d
  Job.tell (.progress report)
  Job.tell (.progress ("Writing the binary dictionary...: " ++ Text.quoted outPath))
  pure ⟨report, d.encode⟩

end Interlinear.Command
