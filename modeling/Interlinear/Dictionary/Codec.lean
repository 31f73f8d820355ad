import Interlinear.Binary.File
import Interlinear.Dictionary.Basic
import Interlinear.Gloss.Codec

set_option autoImplicit false

/-! # Dictionary files

A dictionary file is a magic number, the attributes and the fingerprint, a section for the index,
the keys, and the entries of each key. The section says whether there is an index, and holds the
index as an index format writes it. What follows the entries in the file does not count.

An index gives each key a number, and the glosses of the key are those that stand at this number
among the entries. How an index is laid out in bytes is a matter of its format (`IndexFormat`). -/

namespace Interlinear

/-! ## Formats of indexes -/

/-- How the keys of an index and their numbers are laid out in bytes. -/
structure IndexFormat where
  write : List (String × Nat) → List UInt8
  read : List UInt8 → List (String × Nat)

namespace IndexFormat

/-- The bytes of a key and its number. -/
def recordBytes (r : String × Nat) : List UInt8 := Binary.text r.1 ++ Binary.length r.2

/-- Reads a key and its number. -/
def recordDecoder : Binary.Decoder (String × Nat) := do
  let key ← Binary.Decoder.text
  let number ← Binary.Decoder.length
  pure (key, number)

/-- The format that lists the keys. -/
def plain : IndexFormat where
  write := Binary.list recordBytes
  read bytes := ((Binary.Decoder.list recordDecoder).decode bytes).toOption.getD []

end IndexFormat

/-- The index of numbered keys, where each number is the place of the glosses in a list. -/
def Index.ofRecords (records : List (String × Nat)) (glosses : List (List Gloss)) : Index :=
  .ofList (records.filterMap fun (key, number) => glosses[number]?.map (key, ·))

namespace Dictionary

/-! ## Writing -/

/-- The magic number of dictionary files. -/
def magic : List UInt8 := Text.utf8 "GlossaDictionary 0.1\n"

/-- The keys, numbered from zero on. -/
def records (d : Dictionary) : List (String × Nat) := (d.entries.map (·.1)).zipIdx

/-- The bytes of the attributes and the fingerprint. -/
def headBytes (d : Dictionary) : List UInt8 :=
  Binary.text d.lang ++ Binary.text d.name ++ Binary.text d.ver ++ d.fingerprint.bytes

/-- The bytes of the section for the index: whether there is one, and how it is laid out. -/
def indexBytes (f : IndexFormat) (d : Dictionary) : List UInt8 :=
  if d.index.isSome then
    let layout := f.write d.records
    1 :: (Binary.length layout.length ++ layout)
  else [0]

/-- The bytes of the keys and of the entries. -/
def entryBytes (d : Dictionary) : List UInt8 :=
  Binary.list Binary.text (d.entries.map (·.1)) ++
    Binary.list (Binary.list Gloss.bytes) (d.entries.map (·.2))

/-- Writes a dictionary file. -/
def write (f : IndexFormat) (d : Dictionary) : Written :=
  writeFile magic (d.headBytes ++ d.indexBytes f ++ d.entryBytes)

/-- The bytes of a dictionary file in the plain format. -/
def encode (d : Dictionary) : List UInt8 := (d.write .plain).bytes

/-! ## Reading -/

/-- Reads a digest. -/
def digestDecoder : Binary.Decoder Digest := do
  let bytes ← Binary.Decoder.take 32
  if h : bytes.length = 32 then pure ⟨bytes, h⟩ else throw (.endOfInput 32)

/-- Reads the bytes of an index, if there is one. -/
def indexDecoder : Binary.Decoder (Option (List UInt8)) := do
  let tag ← Binary.Decoder.number 1
  match tag with
  | 0 => pure none
  | 1 =>
    let n ← Binary.Decoder.length
    some <$> Binary.Decoder.take n
  | n => throw (.unknownVariant "core::option::Option<alloc::vec::Vec<u8>>" 1 n)

/-- Reads what follows the magic number. -/
def decoder (f : IndexFormat) : Binary.Decoder Dictionary := do
  let lang ← Binary.Decoder.text
  let name ← Binary.Decoder.text
  let ver ← Binary.Decoder.text
  let fingerprint ← digestDecoder
  let index ← indexDecoder
  let keys ← Binary.Decoder.list Binary.Decoder.text
  let glosses ← Binary.Decoder.list (Binary.Decoder.list Gloss.decoder)
  if keys.length = glosses.length then
    pure ⟨lang, name, ver, fingerprint, keys.zip glosses,
      index.map fun bytes => .ofRecords (f.read bytes) glosses⟩
  else throw .unpaired

/-- Reads a dictionary file. -/
def read (f : IndexFormat) (bytes : List UInt8) : Except Error Dictionary := do
  decodeFile (decoder f) (← dropMagic .dictionary magic bytes)

/-- The dictionary that the bytes of a file in the plain format hold. -/
def decode (bytes : List UInt8) : Except Error Dictionary := read .plain bytes

end Dictionary

end Interlinear
