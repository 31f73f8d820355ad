set_option autoImplicit false

/-! # Text as bytes

Texts are stored in UTF-8. Reading bytes that are not UTF-8 tells how many bytes before the fault
were well formed and, unless the bytes merely end too early, how many the fault covers. -/

namespace Interlinear.Text

/-- Why bytes are not a text. -/
structure Utf8Fault where
  /-- The number of bytes before the fault, all well formed. -/
  validUpTo : Nat
  /-- The number of bytes at fault; none if the bytes end inside a character. -/
  length : Option Nat
deriving DecidableEq, Repr

/-- A byte that continues a character, with the last six bits of a number. -/
def tailByte (n : Nat) : UInt8 := UInt8.ofNat (0x80 + n % 0x40)

/-- The bytes of a character. -/
def utf8Char (c : Char) : List UInt8 :=
  let n := c.toNat
  if n < 0x80 then [UInt8.ofNat n]
  else if n < 0x800 then [UInt8.ofNat (0xC0 + n / 0x40), tailByte n]
  else if n < 0x10000 then
    [UInt8.ofNat (0xE0 + n / 0x1000), tailByte (n / 0x40), tailByte n]
  else
    [UInt8.ofNat (0xF0 + n / 0x40000), tailByte (n / 0x1000), tailByte (n / 0x40), tailByte n]

/-- The bytes of a list of characters. -/
def utf8Chars (cs : List Char) : List UInt8 := cs.flatMap utf8Char

/-- The bytes of a text. -/
def utf8 (s : String) : List UInt8 := utf8Chars s.toList

/-- The number of bytes of a text. -/
def byteLength (s : String) : Nat := s.utf8ByteSize

/-- Whether a byte continues a character. -/
def isTail (b : Nat) : Bool := 0x80 ≤ b && b < 0xC0

/-- Whether `b` may be the second byte of a character of three bytes that begins with `a`: the
character is not shorter than it need be and is no surrogate. -/
def startsThree (a b : Nat) : Bool :=
  isTail b && (a != 0xE0 || 0xA0 ≤ b) && (a != 0xED || b < 0xA0)

/-- Whether `b` may be the second byte of a character of four bytes that begins with `a`: the
character is not shorter than it need be and lies in the range of code points. -/
def startsFour (a b : Nat) : Bool :=
  isTail b && (a != 0xF0 || 0x90 ≤ b) && (a != 0xF4 || b < 0x90)

/-- Reads bytes as characters; `done` bytes come before them. -/
def charsFrom (done : Nat) : List UInt8 → Except Utf8Fault (List Char)
  | [] => .ok []
  | a :: as =>
    let a := a.toNat
    if a < 0x80 then (Char.ofNat a :: ·) <$> charsFrom (done + 1) as
    else if 0xC2 ≤ a ∧ a < 0xE0 then
      match as with
      | [] => .error ⟨done, none⟩
      | b :: bs =>
        if !isTail b.toNat then .error ⟨done, some 1⟩
        else (Char.ofNat ((a - 0xC0) * 64 + (b.toNat - 0x80)) :: ·) <$> charsFrom (done + 2) bs
    else if 0xE0 ≤ a ∧ a < 0xF0 then
      match as with
      | [] => .error ⟨done, none⟩
      | b :: bs =>
        if !startsThree a b.toNat then .error ⟨done, some 1⟩
        else match bs with
          | [] => .error ⟨done, none⟩
          | c :: cs =>
            if !isTail c.toNat then .error ⟨done, some 2⟩
            else (Char.ofNat
                (((a - 0xE0) * 64 + (b.toNat - 0x80)) * 64 + (c.toNat - 0x80)) :: ·) <$>
              charsFrom (done + 3) cs
    else if 0xF0 ≤ a ∧ a < 0xF5 then
      match as with
      | [] => .error ⟨done, none⟩
      | b :: bs =>
        if !startsFour a b.toNat then .error ⟨done, some 1⟩
        else match bs with
          | [] => .error ⟨done, none⟩
          | c :: cs =>
            if !isTail c.toNat then .error ⟨done, some 2⟩
            else match cs with
              | [] => .error ⟨done, none⟩
              | d :: ds =>
                if !isTail d.toNat then .error ⟨done, some 3⟩
                else (Char.ofNat
                    ((((a - 0xF0) * 64 + (b.toNat - 0x80)) * 64 + (c.toNat - 0x80)) * 64 +
                      (d.toNat - 0x80)) :: ·) <$>
                  charsFrom (done + 4) ds
    else .error ⟨done, some 1⟩

/-- The characters that bytes write. -/
def charsOfUtf8 (bytes : List UInt8) : Except Utf8Fault (List Char) := charsFrom 0 bytes

/-- The text that bytes write. -/
def ofUtf8 (bytes : List UInt8) : Except Utf8Fault String := String.ofList <$> charsOfUtf8 bytes

end Interlinear.Text
