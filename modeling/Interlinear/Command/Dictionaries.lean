import Interlinear.Command.Job
import Interlinear.Dictionary.Codec
import Interlinear.Dictionary.Toolbox
import Interlinear.Union

set_option autoImplicit false

/-! # Loading dictionaries

Dictionaries come from files of two formats, which the extension of the file tells apart, and are
registered one after the other. -/

namespace Interlinear.Command

/-- A file that was read. -/
structure InputFile where
  path : String
  bytes : List UInt8

/-- The last component of a path, without slashes after it. -/
def fileName (path : List Char) : List Char :=
  ((path.reverse.dropWhile (· == '/')).takeWhile (· != '/')).reverse

/-- What follows the last dot of a file name, unless the name begins with this dot. -/
def extension? (name : List Char) : Option (List Char) :=
  let ext := name.reverse.takeWhile (· != '.')
  if ext.length + 1 < name.length then some ext.reverse else none

/-- Whether a file is a binary dictionary. -/
def InputFile.isBinary (f : InputFile) : Bool :=
  extension? (fileName f.path.toList) == some "bdi".toList

/-- The note on a dictionary that was made. -/
def builtNote (d : Dictionary) : String :=
  "Built dictionary " ++ d.lang ++ " " ++ d.name ++ " " ++ d.ver ++ " with " ++
    toString d.size ++ " keys"

/-- The dictionary in the Toolbox format. -/
def readToolbox (bytes : List UInt8) : Job Dictionary := do
  let reading := Toolbox.read bytes
  Job.warn reading.builder.warnings
  let built ← reading.built
  Job.note .debug (builtNote built)
  reading.dictionary

/-- The dictionary in a file. -/
def loadDictionary (f : InputFile) : Job Dictionary :=
  if f.isBinary then Dictionary.decode f.bytes else readToolbox f.bytes

/-- The notes on the registration of a dictionary from a file. -/
def registrationNotes (f : InputFile) (d : Dictionary) : Registration → List Message
  | .added id => [
    .note .debug ("Loaded dictionary " ++ d.description),
    .note .info ("Added " ++ Text.quoted f.path ++ " as " ++ id.hex)]
  | .replaced old new => [
    .note .debug ("Replaced dictionary " ++ old.hex ++ " with " ++ d.description),
    .note .info ("Replaced " ++ old.hex ++ " with " ++ Text.quoted f.path ++ " as " ++ new.hex)]
  | .unchanged id =>
    [.note .info ("Skipped " ++ Text.quoted f.path ++ ", identical to " ++ id.hex)]

/-- Loads a dictionary and registers it. -/
def registerFile (u : Union) (f : InputFile) : Job Union := do
  let d ← loadDictionary f
  let (registration, u) := u.register d
  (registrationNotes f d registration).forM Job.tell
  pure u

/-- The union of the dictionaries in files, registered in order. -/
def loadDictionaries (fs : List InputFile) : Job Union := fs.foldlM registerFile .empty

end Interlinear.Command
