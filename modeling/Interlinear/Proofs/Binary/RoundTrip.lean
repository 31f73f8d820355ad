import Interlinear.Binary.File
import Interlinear.Lists
import Interlinear.Proofs.Text.Utf8
import Mathlib.Algebra.Group.Nat.Defs

set_option autoImplicit false

/-! # Reading back bytes

A decoder reads bytes as a value (`Binary.Reads`) if it takes just these bytes off the front of any
that begin with them. The decoders of a format are put together like its bytes, and so are the
proofs that they read them. A length is read back if it fits in its eight bytes; where all bytes
together are no more than that, every length among them fits. -/

namespace Interlinear

namespace Binary

/-! ## Lengths -/

/-- A length can be written in eight bytes. -/
def Fits (n : Nat) : Prop := n < 2 ^ 64

theorem Fits.mono {m n : Nat} (h : Fits n) (hle : m ≤ n) : Fits m := Nat.lt_of_le_of_lt hle h

theorem length_littleEndian (count n : Nat) : (littleEndian count n).length = count := by
  induction count generalizing n with
  | zero => rfl
  | succ count ih => rw [littleEndian, List.length_cons, ih]

theorem length_length (n : Nat) : (length n).length = 8 := length_littleEndian 8 n

theorem length_text (s : String) : (text s).length = 8 + (Text.utf8 s).length := by
  rw [text, List.length_append, length_length]

/-- Where the bytes of a list fit, so does its length, and so do the bytes of each member. -/
theorem fits_of_list {α : Type} {write : α → List UInt8} {xs : List α}
    (h : Fits (list write xs).length) (hne : ∀ x ∈ xs, write x ≠ []) :
    Fits xs.length ∧ ∀ x ∈ xs, Fits (write x).length := by
  rw [list, List.length_append] at h
  have hall : Fits (xs.flatMap write).length := h.mono (Nat.le_add_left ..)
  refine ⟨hall.mono (List.length_le_length_flatMap hne), fun x hx => ?_⟩
  exact hall.mono (List.length_le_length_flatMap_of_mem write hx)

/-- The length of a list fits, and so do the lengths in each of its members. -/
def ListFits {α : Type} (fits : α → Prop) (xs : List α) : Prop :=
  Fits xs.length ∧ ∀ x ∈ xs, fits x

theorem listFits_of_length {α : Type} {write : α → List UInt8} {fits : α → Prop} {xs : List α}
    (h : Fits (list write xs).length) (hne : ∀ x, write x ≠ [])
    (hfits : ∀ x, Fits (write x).length → fits x) : ListFits fits xs := by
  obtain ⟨hcount, hall⟩ := fits_of_list h fun x _ => hne x
  exact ⟨hcount, fun x hx => hfits x (hall x hx)⟩

theorem text_ne_nil (s : String) : text s ≠ [] := by
  rw [← List.length_pos_iff, length_text]
  omega

theorem list_ne_nil {α : Type} (write : α → List UInt8) (xs : List α) : list write xs ≠ [] := by
  rw [← List.length_pos_iff, list, List.length_append, length_length]
  omega

/-- The length of a text fits. -/
def TextFits (s : String) : Prop := Fits (Text.utf8 s).length

theorem textFits_of_length {s : String} (h : Fits (text s).length) : TextFits s := by
  rw [length_text] at h
  exact h.mono (Nat.le_add_left ..)

/-! ## Decoders -/

/-- A decoder takes bytes off the front of any that begin with them, and reads a value. -/
def Reads {α : Type} (read : Decoder α) (bytes : List UInt8) (x : α) : Prop :=
  ∀ rest, read.run (bytes ++ rest) = .ok (x, rest)

variable {α β : Type} {read : Decoder α} {bytes : List UInt8} {x : α}

theorem reads_pure (x : α) : Reads (pure x) [] x := fun _ => rfl

theorem Reads.bind (h : Reads read bytes x) {next : α → Decoder β} {more : List UInt8} {y : β}
    (hnext : Reads (next x) more y) : Reads (read >>= next) (bytes ++ more) y := by
  intro rest
  rw [List.append_assoc, StateT.run_bind, h]
  exact hnext rest

/-- After the last bytes, a value is made of what was read. -/
theorem Reads.bind_pure (h : Reads read bytes x) {next : α → Decoder β} {y : β}
    (hnext : next x = pure y) : Reads (read >>= next) bytes y := by
  rw [← List.append_nil bytes]
  exact h.bind (hnext ▸ reads_pure y)

theorem Reads.map (h : Reads read bytes x) (f : α → β) : Reads (f <$> read) bytes (f x) := by
  intro rest
  rw [StateT.run_map, h]
  rfl

theorem splitExact?_append {γ : Type} (xs ys : List γ) :
    splitExact? xs.length (xs ++ ys) = some (xs, ys) := by
  induction xs with
  | nil => rfl
  | cons x xs ih => rw [List.length_cons, List.cons_append, splitExact?, ih, Option.map_some]

theorem reads_take (bytes : List UInt8) : Reads (Decoder.take bytes.length) bytes bytes := by
  intro rest
  show Decoder.take bytes.length (bytes ++ rest) = _
  rw [Decoder.take, splitExact?_append]

theorem ofLittleEndian_littleEndian {count n : Nat} (h : n < 256 ^ count) :
    Decoder.ofLittleEndian (littleEndian count n) = n := by
  induction count generalizing n with
  | zero => exact (Nat.lt_one_iff.1 h).symm
  | succ count ih =>
      have hdiv : n / 256 < 256 ^ count := Nat.div_lt_of_lt_mul (by rwa [Nat.pow_succ'] at h)
      rw [littleEndian, Decoder.ofLittleEndian, List.foldr_cons, ← Decoder.ofLittleEndian, ih hdiv,
        UInt8.toNat_ofNat']
      exact Nat.mod_add_div n 256

theorem reads_number {count n : Nat} (h : n < 256 ^ count) :
    Reads (Decoder.number count) (littleEndian count n) n := by
  have hread := (reads_take (littleEndian count n)).map Decoder.ofLittleEndian
  rwa [length_littleEndian, ofLittleEndian_littleEndian h] at hread

theorem reads_length {n : Nat} (h : Fits n) : Reads Decoder.length (length n) n := reads_number h

/-- A number with its sign is read back, also if it is negative: what is written are its bits. -/
theorem reads_int32 (n : Int32) : Reads Decoder.int32 (int32 n) n := by
  have hlt : n.toUInt32.toNat < 256 ^ 4 := n.toUInt32.toNat_lt
  have hback : (UInt32.ofNat n.toUInt32.toNat).toInt32 = n := by
    rw [UInt32.ofNat_toNat]
    exact n.toInt32_toUInt32
  have hread : Reads Decoder.int32 (int32 n) (UInt32.ofNat n.toUInt32.toNat).toInt32 :=
    (reads_number hlt).map fun n => (UInt32.ofNat n).toInt32
  rwa [hback] at hread

theorem reads_text {s : String} (h : TextFits s) : Reads Decoder.text (text s) s := by
  refine (reads_length h).bind ((reads_take (Text.utf8 s)).bind_pure ?_)
  rw [Text.ofUtf8_utf8]

theorem reads_many {write : α → List UInt8} {xs : List α}
    (h : ∀ x ∈ xs, Reads read (write x) x) :
    Reads (Decoder.many read xs.length) (xs.flatMap write) xs := by
  induction xs with
  | nil => exact reads_pure []
  | cons x xs ih =>
      have hxs := ih fun y hy => h y (List.mem_cons_of_mem x hy)
      exact (h x List.mem_cons_self).bind (hxs.bind_pure rfl)

theorem reads_list {write : α → List UInt8} {xs : List α} (hfits : Fits xs.length)
    (h : ∀ x ∈ xs, Reads read (write x) x) : Reads (Decoder.list read) (list write xs) xs :=
  (reads_length hfits).bind (reads_many h)

theorem reads_list_of_listFits {write : α → List UInt8} {fits : α → Prop} {xs : List α}
    (h : ListFits fits xs) (hread : ∀ x, fits x → Reads read (write x) x) :
    Reads (Decoder.list read) (list write xs) xs := by
  obtain ⟨hcount, hall⟩ := h
  exact reads_list hcount fun x hx => hread x (hall x hx)

/-- A list is read back if its bytes fit and its members are read back where theirs do. -/
theorem reads_list_of_fits {write : α → List UInt8} {xs : List α}
    (hfits : Fits (list write xs).length) (hne : ∀ x ∈ xs, write x ≠ [])
    (h : ∀ x ∈ xs, Fits (write x).length → Reads read (write x) x) :
    Reads (Decoder.list read) (list write xs) xs := by
  obtain ⟨hcount, hall⟩ := fits_of_list hfits hne
  exact reads_list hcount fun x hx => h x hx (hall x hx)

theorem Reads.decode (h : Reads read bytes x) (rest : List UInt8) :
    Decoder.decode read (bytes ++ rest) = .ok x := by
  rw [Decoder.decode, h]
  rfl

end Binary

/-! ## Files -/

theorem dropMagic_append (kind : FileKind) (magic bytes : List UInt8) :
    dropMagic kind magic (magic ++ bytes) = .ok bytes := by
  rw [dropMagic, Binary.splitExact?_append]
  exact if_pos rfl

theorem decodeFile_of_reads {α : Type} {read : Binary.Decoder α} {bytes : List UInt8} {x : α}
    (h : Binary.Reads read bytes x) (rest : List UInt8) :
    decodeFile read (bytes ++ rest) = .ok x := by
  rw [decodeFile, h.decode]

end Interlinear
