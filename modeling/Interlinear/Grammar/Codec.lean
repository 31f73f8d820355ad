import Interlinear.Binary.File
import Interlinear.Gloss.Codec
import Interlinear.Grammar.Basic

set_option autoImplicit false

/-! # Grammar files

A grammar file is a magic number, the token plan, the sentence plan and the sections. What follows
them in the file does not count. -/

namespace Interlinear

/-! ## Writing -/

/-- The bytes of a step's kind: the number of the variant, and what it holds. -/
def StepKind.bytes : StepKind → List UInt8
  | stage id => Binary.littleEndian 4 0 ++ Binary.int32 id
  | stop => Binary.littleEndian 4 1

/-- The bytes of a step. -/
def Step.bytes (s : Step) : List UInt8 := s.kind.bytes ++ Binary.list Binary.text s.operands

/-- The bytes of a pattern. -/
def Pattern.bytes (p : Pattern) : List UInt8 := p.select.bytes ++ p.mark.bytes

/-- The bytes of a section. -/
def sectionBytes (s : String × List Pattern) : List UInt8 :=
  Binary.text s.1 ++ Binary.list Pattern.bytes s.2

namespace Grammar

/-- The magic number of grammar files. -/
def magic : List UInt8 := Text.utf8 "GlossaGrammar 0.1\n"

/-- The bytes of a grammar: those of its plans and its sections. -/
def bytes (g : Grammar) : List UInt8 :=
  Binary.list Step.bytes g.token ++ Binary.list Step.bytes g.sentence ++
    Binary.list sectionBytes g.sections.toList

/-- Writes a grammar file. -/
def write (g : Grammar) : Written := writeFile magic g.bytes

/-- The bytes of a grammar file. -/
def encode (g : Grammar) : List UInt8 := g.write.bytes

end Grammar

/-! ## Reading -/

/-- Reads the kind of a step. -/
def StepKind.decoder : Binary.Decoder StepKind := do
  let variant ← Binary.Decoder.number 4
  match variant with
  | 0 => stage <$> Binary.Decoder.int32
  | 1 => pure stop
  | n => throw (.unknownVariant "StepId" 1 n)

/-- Reads a step. -/
def Step.decoder : Binary.Decoder Step := do
  let kind ← StepKind.decoder
  let operands ← Binary.Decoder.list Binary.Decoder.text
  pure ⟨kind, operands⟩

/-- Reads a pattern. -/
def Pattern.decoder : Binary.Decoder Pattern := do
  let select ← Gloss.decoder
  let mark ← Gloss.decoder
  pure ⟨select, mark⟩

/-- Reads a section. -/
def sectionDecoder : Binary.Decoder (String × List Pattern) := do
  let name ← Binary.Decoder.text
  let patterns ← Binary.Decoder.list Pattern.decoder
  pure (name, patterns)

namespace Grammar

/-- Reads what follows the magic number. Sections may come in any order and more than once. -/
def decoder : Binary.Decoder Grammar := do
  let token ← Binary.Decoder.list Step.decoder
  let sentence ← Binary.Decoder.list Step.decoder
  let sections ← Binary.Decoder.list sectionDecoder
  pure ⟨token, sentence, .ofList sections⟩

/-- The grammar that the bytes of a file hold. -/
def decode (bytes : List UInt8) : Except Error Grammar := do
  decodeFile decoder (← dropMagic .grammar magic bytes)

end Grammar

end Interlinear
