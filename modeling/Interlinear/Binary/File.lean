import Interlinear.Error

set_option autoImplicit false

/-! # Files with a magic number

A file of a known kind begins with the magic number of the kind, and goes on with the bytes of a
value. What follows the value does not count. -/

namespace Interlinear

/-! ## Writing -/

/-- What came of writing a file. -/
structure Written where
  bytes : List UInt8
  /-- The number of bytes that is reported. -/
  count : Nat

/-- Writes a file: its magic number, and the bytes of a value. -/
def writeFile (magic body : List UInt8) : Written := ⟨magic ++ body, magic.length + body.length⟩

/-! ## Reading -/

/-- Takes a magic number off the front of a file. -/
def dropMagic (kind : FileKind) (magic bytes : List UInt8) : Except Error (List UInt8) :=
  match Binary.splitExact? magic.length bytes with
  | none => .error .shortFile
  | some (found, rest) => if found = magic then .ok rest else .error (.foreignFile kind)

/-- The value that the bytes of a file begin with. -/
def decodeFile {α : Type} (read : Binary.Decoder α) (bytes : List UInt8) : Except Error α :=
  match Binary.Decoder.decode read bytes with
  | .ok x => .ok x
  | .error fault => .error (.undecodable fault)

end Interlinear
