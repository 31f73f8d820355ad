import Interlinear.Binary.Decoder
import Interlinear.Gloss.Basic

set_option autoImplicit false

/-! # Glosses as bytes

A gloss is written as its form, the ascending list of its tags, its meaning, and the list of its
morphemes. When it is read, its tags may come in any order and more than once. -/

namespace Interlinear.Gloss

/-! ## Writing -/

mutual

/-- The bytes of a gloss. -/
def bytes : Gloss → List UInt8
  | ⟨form, tags, meaning, morphemes⟩ =>
    Binary.text form ++ Binary.list Binary.text tags.toList ++ Binary.text meaning ++
      (Binary.length morphemes.length ++ allBytes morphemes)

/-- The bytes of glosses, one after the other. -/
def allBytes : List Gloss → List UInt8
  | [] => []
  | g :: gs => g.bytes ++ allBytes gs

end

theorem allBytes_eq_flatMap (gs : List Gloss) : allBytes gs = gs.flatMap bytes := by
  induction gs with
  | nil => rfl
  | cons g gs ih => simp [allBytes, ih]

/-! ## Reading -/

/-- Reads a gloss whose morphemes are nested at most `depth` deep. -/
def decoderTo : Nat → Binary.Decoder Gloss
  | 0 => fun _ => .error (.endOfInput 8)
  | depth + 1 => do
    let form ← Binary.Decoder.text
    let tags ← Binary.Decoder.list Binary.Decoder.text
    let meaning ← Binary.Decoder.text
    let morphemes ← Binary.Decoder.list (decoderTo depth)
    pure ⟨form, .ofList tags, meaning, morphemes⟩

/-- Reads a gloss. Every level of morphemes takes more than one byte, so there are fewer levels
than bytes; where the bytes are used up, the length of a form is missing. -/
def decoder : Binary.Decoder Gloss := fun bytes => decoderTo (bytes.length + 1) bytes

end Interlinear.Gloss
