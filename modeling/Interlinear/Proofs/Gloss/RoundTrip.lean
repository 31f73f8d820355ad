import Interlinear.Gloss.Codec
import Interlinear.Proofs.Binary.RoundTrip

set_option autoImplicit false

/-! # Reading back glosses

The bytes of a gloss are read as that gloss, at whatever depth its morphemes are nested
(`Gloss.reads_decoder`). The proof follows the nesting; the decoder counts levels, and there are
fewer levels than bytes. -/

namespace Interlinear.Gloss

theorem bytes_eq (g : Gloss) :
    g.bytes = Binary.text g.form ++ (Binary.list Binary.text g.tags.toList ++
      (Binary.text g.meaning ++ Binary.list bytes g.morphemes)) := by
  obtain ⟨form, tags, meaning, morphemes⟩ := g
  rw [bytes, allBytes_eq_flatMap, List.append_assoc, List.append_assoc]
  rfl

theorem bytes_ne_nil (g : Gloss) : g.bytes ≠ [] := by
  rw [bytes_eq]
  exact List.append_ne_nil_of_left_ne_nil (Binary.text_ne_nil g.form) _

/-- A morpheme has fewer bytes than the gloss. -/
theorem length_bytes_lt {g m : Gloss} (h : m ∈ g.morphemes) : m.bytes.length < g.bytes.length := by
  have hle := List.length_le_length_flatMap_of_mem bytes h
  rw [bytes_eq g]
  simp only [List.length_append, Binary.list, Binary.length_length]
  omega

/-! ## Lengths -/

/-- All lengths in the bytes of a gloss fit, those in its morphemes too. -/
inductive Fits : Gloss → Prop where
  | mk {g : Gloss} (form : Binary.TextFits g.form) (tagCount : Binary.Fits g.tags.toList.length)
    (tags : ∀ tag ∈ g.tags.toList, Binary.TextFits tag) (meaning : Binary.TextFits g.meaning)
    (count : Binary.Fits g.morphemes.length) (morphemes : ∀ m ∈ g.morphemes, Fits m) : Fits g

theorem fits_of_length (g : Gloss) (h : Binary.Fits g.bytes.length) : g.Fits := by
  have hbytes := h
  rw [bytes_eq] at hbytes
  simp only [List.length_append] at hbytes
  have hform : Binary.TextFits g.form := Binary.textFits_of_length (hbytes.mono (by omega))
  have hmeaning : Binary.TextFits g.meaning := Binary.textFits_of_length (hbytes.mono (by omega))
  have htagBytes : Binary.Fits (Binary.list Binary.text g.tags.toList).length :=
    hbytes.mono (by omega)
  have hpartBytes : Binary.Fits (Binary.list bytes g.morphemes).length := hbytes.mono (by omega)
  obtain ⟨htagCount, htags⟩ := Binary.fits_of_list htagBytes fun tag _ => Binary.text_ne_nil tag
  obtain ⟨hcount, hmorphemes⟩ := Binary.fits_of_list hpartBytes fun m _ => m.bytes_ne_nil
  exact .mk hform htagCount (fun tag htag => Binary.textFits_of_length (htags tag htag)) hmeaning
    hcount fun m hm => m.fits_of_length (hmorphemes m hm)
termination_by g.bytes.length
decreasing_by exact length_bytes_lt hm

/-! ## Reading -/

theorem reads_decoderTo {g : Gloss} (h : g.Fits) {depth : Nat} (hdepth : g.bytes.length ≤ depth) :
    Binary.Reads (decoderTo depth) g.bytes g := by
  induction h generalizing depth with
  | @mk g hform htagCount htags hmeaning hcount _ ih =>
      -- A morpheme has fewer bytes than the gloss, so one level less is enough for it.
      cases depth with
      | zero => exact absurd (List.length_eq_zero_iff.1 (Nat.le_zero.1 hdepth)) g.bytes_ne_nil
      | succ depth =>
          have hmorphemes : ∀ m ∈ g.morphemes, Binary.Reads (decoderTo depth) m.bytes m := by
            intro m hm
            have hlt := length_bytes_lt hm
            exact ih m hm (by omega)
          have htagTexts : Binary.Reads (Binary.Decoder.list Binary.Decoder.text)
              (Binary.list Binary.text g.tags.toList) g.tags.toList :=
            Binary.reads_list htagCount fun tag htag => Binary.reads_text (htags tag htag)
          rw [bytes_eq, decoderTo]
          refine (Binary.reads_text hform).bind (htagTexts.bind ?_)
          refine (Binary.reads_text hmeaning).bind ?_
          refine (Binary.reads_list hcount hmorphemes).bind_pure ?_
          rw [TagSet.ofList_toList]
          cases g
          rfl

/-- The bytes of a gloss are read as that gloss. -/
theorem reads_decoder {g : Gloss} (h : g.Fits) : Binary.Reads decoder g.bytes g := by
  intro rest
  refine reads_decoderTo h ?_ rest
  rw [List.length_append]
  omega

end Interlinear.Gloss
