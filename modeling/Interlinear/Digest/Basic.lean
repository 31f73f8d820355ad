set_option autoImplicit false

/-! # Digests

A digest is a short text of bytes that stands for a long one. Two contents with the same digest are
taken to be the same content. -/

namespace Interlinear

/-- A digest of 32 bytes. -/
structure Digest where
  bytes : List UInt8
  length_eq : bytes.length = 32
deriving DecidableEq

namespace Digest

/-- A byte in two lowercase hexadecimal digits. -/
def hexByte (b : UInt8) : List Char := [Nat.digitChar (b.toNat / 16), Nat.digitChar (b.toNat % 16)]

/-- A digest in hexadecimal digits. -/
def hex (d : Digest) : String := String.ofList (d.bytes.flatMap hexByte)

end Digest

end Interlinear
