import Interlinear.Text.Utf8

set_option autoImplicit false

/-! # Reading and writing bytes

Numbers are written with a fixed number of bytes, the least significant one first, and lists and
texts after their length in eight bytes. A decoder takes what it reads from the front of the bytes
and leaves the rest. -/

namespace Interlinear.Binary

/-- Why bytes cannot be read. -/
inductive Fault where
  /-- The bytes end within a field of this many bytes. -/
  | endOfInput (wanted : Nat)
  /-- The variant of a type is not among the first ones up to `last`. -/
  | unknownVariant (type : String) (last found : Nat)
  /-- The bytes of a text are not in UTF-8. -/
  | notText (fault : Text.Utf8Fault)
  /-- The keys of a dictionary are more or fewer than its lists of entries. -/
  | unpaired
deriving DecidableEq, Repr

namespace Fault

/-- How the length of a fault in a text is shown. -/
def showLength : Option Nat → String
  | none => "None"
  | some n => "Some(" ++ toString n ++ ")"

/-- The report of a fault. -/
def message : Fault → String
  | endOfInput wanted =>
    "Io \x7b inner: Error \x7b kind: UnexpectedEof, message: \"failed to fill whole buffer\" \x7d, " ++
      "additional: " ++ toString wanted ++ " \x7d"
  | unknownVariant type last found =>
    "UnexpectedVariant \x7b type_name: \"" ++ type ++ "\", allowed: Range \x7b min: 0, max: " ++
      toString last ++ " \x7d, found: " ++ toString found ++ " \x7d"
  | notText fault =>
    "Utf8 \x7b inner: Utf8Error \x7b valid_up_to: " ++ toString fault.validUpTo ++
      ", error_len: " ++ showLength fault.length ++ " \x7d \x7d"
  | unpaired => "Other(\"keys and entries differ in length\")"

end Fault

/-! ## Writing -/

/-- The last `count` bytes of a number, the least significant one first. -/
def littleEndian : Nat → Nat → List UInt8
  | 0, _ => []
  | count + 1, n => UInt8.ofNat n :: littleEndian count (n / 256)

/-- A length, in eight bytes. -/
def length (n : Nat) : List UInt8 := littleEndian 8 n

/-- A signed number, in four bytes. -/
def int32 (n : Int32) : List UInt8 := littleEndian 4 n.toUInt32.toNat

/-- A text: its length in bytes, and the bytes. -/
def text (s : String) : List UInt8 := length (Text.utf8 s).length ++ Text.utf8 s

/-- A list: its length, and its members. -/
def list {α : Type} (write : α → List UInt8) (xs : List α) : List UInt8 :=
  length xs.length ++ xs.flatMap write

/-! ## Reading -/

/-- Reads a value from the front of the bytes. -/
abbrev Decoder (α : Type) := StateT (List UInt8) (Except Fault) α

/-- The first `n` elements and the rest, if there are as many. -/
def splitExact? {α : Type} : Nat → List α → Option (List α × List α)
  | 0, xs => some ([], xs)
  | _ + 1, [] => none
  | n + 1, x :: xs => (splitExact? n xs).map fun (taken, rest) => (x :: taken, rest)

namespace Decoder

/-- Reads `n` bytes. -/
def take (n : Nat) : Decoder (List UInt8) := fun bytes =>
  match splitExact? n bytes with
  | some (taken, rest) => .ok (taken, rest)
  | none => .error (.endOfInput n)

/-- The number that bytes write, the least significant one first. -/
def ofLittleEndian (bytes : List UInt8) : Nat := bytes.foldr (fun b n => b.toNat + 256 * n) 0

/-- Reads a number of `count` bytes. -/
def number (count : Nat) : Decoder Nat := ofLittleEndian <$> take count

/-- Reads a length. -/
def length : Decoder Nat := number 8

/-- Reads a signed number. -/
def int32 : Decoder Int32 := (fun n => (UInt32.ofNat n).toInt32) <$> number 4

/-- Reads a text. -/
def text : Decoder String := do
  let n ← length
  let bytes ← take n
  match Text.ofUtf8 bytes with
  | .ok s => pure s
  | .error fault => throw (.notText fault)

/-- Reads `n` values, one after the other. -/
def many {α : Type} (read : Decoder α) : Nat → Decoder (List α)
  | 0 => pure []
  | n + 1 => do
    let x ← read
    let xs ← many read n
    pure (x :: xs)

/-- Reads a list. -/
def list {α : Type} (read : Decoder α) : Decoder (List α) := do
  let n ← length
  many read n

/-- The value at the front of the bytes; what follows it does not count. -/
def decode {α : Type} (read : Decoder α) (bytes : List UInt8) : Except Fault α :=
  (·.1) <$> read.run bytes

end Decoder

end Interlinear.Binary
