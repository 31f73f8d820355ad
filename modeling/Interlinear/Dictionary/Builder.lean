import Interlinear.Dictionary.Basic
import Interlinear.Digest.Sha256
import Interlinear.Gloss.Codec
import Interlinear.Text.Tone

set_option autoImplicit false

/-! # Making dictionaries

A builder collects pairs of a key and a gloss in the order in which they come. The dictionary lists
under each key its glosses in that order, and its fingerprint is the digest of the bytes of all
pairs. A pair with an empty key is left out. -/

namespace Interlinear

/-- A dictionary in the making. -/
structure Builder where
  lang : String
  name : String
  ver : String
  /-- The pairs inserted, in order. -/
  pairs : Array (String × Gloss)
  /-- The glosses left out because their key was empty, in order. -/
  skipped : Array Gloss

namespace Builder

/-- A builder without attributes and pairs. -/
def empty : Builder := ⟨"", "", "", #[], #[]⟩

/-- Inserts a gloss under a key, unless the key is empty. -/
def insert (b : Builder) (key : String) (gloss : Gloss) : Builder :=
  if key.isEmpty then { b with skipped := b.skipped.push gloss }
  else { b with pairs := b.pairs.push (key, gloss) }

/-- Inserts a gloss under a key and, before that, under the key without tone marks if that is
another one. -/
def insertToneless (b : Builder) (key : String) (gloss : Gloss) : Builder :=
  let plain := Text.toneless key
  (if plain = key then b else b.insert plain gloss).insert key gloss

/-- An index with one more gloss under a key. -/
def addTo (ix : Index) (pair : String × Gloss) : Index :=
  ix.alter pair.1 fun glosses => some (glosses.getD [] ++ [pair.2])

/-- The glosses of each key. -/
def index (b : Builder) : Index := b.pairs.toList.foldl addTo ∅

/-- The number of keys. -/
def size (b : Builder) : Nat := b.index.size

/-- Whether nothing was inserted. -/
def isEmpty (b : Builder) : Bool := b.pairs.isEmpty

/-- The bytes of a pair. -/
def pairBytes (pair : String × Gloss) : List UInt8 := Binary.text pair.1 ++ pair.2.bytes

/-- The digest of all pairs. -/
def fingerprint (b : Builder) : Digest := Digest.Sha256.digest (b.pairs.toList.flatMap pairBytes)

/-- The dictionary of the pairs inserted. There is no index if there are no keys. -/
def dictionary (b : Builder) : Dictionary where
  lang := b.lang
  name := b.name
  ver := b.ver
  fingerprint := b.fingerprint
  entries := b.index.toList
  index := if b.pairs.isEmpty then none else some b.index

/-- Builds the dictionary. No key may hold the end mark of the index. -/
def build (b : Builder) : Except Error Dictionary :=
  if b.pairs.any fun pair => pair.1.toList.contains Index.endMark then .error .endMarkerInKey
  else .ok b.dictionary

/-- What was left out. -/
def warnings (b : Builder) : List Warning := b.skipped.toList.map .emptyKey

end Builder

end Interlinear
