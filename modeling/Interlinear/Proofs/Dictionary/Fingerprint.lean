import Interlinear.Proofs.Dictionary.Multimap
import Interlinear.Proofs.Gloss.RoundTrip

set_option autoImplicit false

/-! # What a fingerprint identifies

The fingerprint of a dictionary is the digest of its content, which are the bytes of the pairs that
were inserted, one after the other (`Builder.content`). Nothing in the content marks where a pair
ends. But every text and every list in it has its length before it, so the content can be read back
pair by pair, and different sequences of pairs have different contents
(`Builder.pairs_eq_of_content_eq`).

So a fingerprint that two dictionaries share either stands for the same entries, or two messages of
the same digest are found (`Builder.content_inj_and_entries_of_fingerprint_eq`). -/

namespace Interlinear

/-- Two different messages have the same digest. -/
def Digest.Sha256.Collision (m n : List UInt8) : Prop := m ≠ n ∧ digest m = digest n

/-! ## Bytes one after the other -/

/-- Where each member of two lists is read back from its bytes, whatever follows them, lists with the
same bytes are equal. -/
theorem Binary.eq_of_flatMap_eq {α : Type} {read : Decoder α} {write : α → List UInt8}
    (hne : ∀ x, write x ≠ []) {xs ys : List α} (hxs : ∀ x ∈ xs, Reads read (write x) x)
    (hys : ∀ y ∈ ys, Reads read (write y) y) (h : xs.flatMap write = ys.flatMap write) :
    xs = ys := by
  induction xs generalizing ys with
  | nil =>
      cases ys with
      | nil => rfl
      | cons y ys =>
          rw [List.flatMap_cons] at h
          exact absurd h.symm (List.append_ne_nil_of_left_ne_nil (hne y) _)
  | cons x xs ih =>
      cases ys with
      | nil =>
          rw [List.flatMap_cons] at h
          exact absurd h (List.append_ne_nil_of_left_ne_nil (hne x) _)
      | cons y ys =>
          rw [List.flatMap_cons, List.flatMap_cons] at h
          obtain ⟨hx, hrestx⟩ := List.forall_mem_cons.1 hxs
          obtain ⟨hy, hresty⟩ := List.forall_mem_cons.1 hys
          -- One decoder takes the first member off both lists of bytes, which are the same.
          have hread := hx (xs.flatMap write)
          rw [h, hy (ys.flatMap write)] at hread
          obtain ⟨rfl, hrest⟩ := Prod.mk.inj (Except.ok.inj hread)
          rw [ih hrestx hresty hrest.symm]

namespace Builder

/-! ## Contents -/

/-- The bytes that the fingerprint is the digest of. -/
def content (b : Builder) : List UInt8 := b.pairs.toList.flatMap pairBytes

theorem fingerprint_eq (b : Builder) : b.fingerprint = Digest.Sha256.digest b.content := rfl

/-- All lengths in the bytes of a pair fit, those in the morphemes of the gloss too. -/
def PairFits (pair : String × Gloss) : Prop := Binary.TextFits pair.1 ∧ pair.2.Fits

/-- Where the bytes of a pair fit, so do all lengths in them. -/
theorem pairFits_of_length {pair : String × Gloss} (h : Binary.Fits (pairBytes pair).length) :
    PairFits pair := by
  rw [pairBytes, List.length_append] at h
  have hkey : Binary.Fits (Binary.text pair.1).length := h.mono (Nat.le_add_right ..)
  have hgloss : Binary.Fits pair.2.bytes.length := h.mono (Nat.le_add_left ..)
  exact ⟨Binary.textFits_of_length hkey, pair.2.fits_of_length hgloss⟩

/-- Reads a pair. -/
def pairDecoder : Binary.Decoder (String × Gloss) := do
  let key ← Binary.Decoder.text
  let gloss ← Gloss.decoder
  pure (key, gloss)

theorem reads_pairDecoder {pair : String × Gloss} (h : PairFits pair) :
    Binary.Reads pairDecoder (pairBytes pair) pair :=
  (Binary.reads_text h.1).bind ((Gloss.reads_decoder h.2).bind_pure rfl)

theorem pairBytes_ne_nil (pair : String × Gloss) : pairBytes pair ≠ [] :=
  List.append_ne_nil_of_left_ne_nil (Binary.text_ne_nil pair.1) _

/-- The content tells the pairs and their order. -/
theorem pairs_eq_of_content_eq {b c : Builder} (hb : ∀ pair ∈ b.pairs.toList, PairFits pair)
    (hc : ∀ pair ∈ c.pairs.toList, PairFits pair) (h : b.content = c.content) :
    b.pairs.toList = c.pairs.toList :=
  Binary.eq_of_flatMap_eq pairBytes_ne_nil (fun pair hpair => reads_pairDecoder (hb pair hpair))
    (fun pair hpair => reads_pairDecoder (hc pair hpair)) h

/-! ## Dictionaries -/

/-- The pairs decide what a dictionary lists and finds. -/
theorem entries_eq_of_pairs_eq {b c : Builder} (h : b.pairs.toList = c.pairs.toList) :
    b.dictionary.entries = c.dictionary.entries ∧ b.dictionary.index = c.dictionary.index := by
  have hpairs : b.pairs = c.pairs := Array.toList_inj.1 h
  have hindex : b.index = c.index := by rw [index, index, h]
  constructor
  · show b.index.toList = c.index.toList
    rw [hindex]
  · show (if b.pairs.isEmpty then none else some b.index)
      = if c.pairs.isEmpty then none else some c.index
    rw [hpairs, hindex]

/-- **A fingerprint identifies the content.** A fingerprint is the digest of the content. Whatever
calls two builders are used by, as long as all lengths can be written: their contents are the same
only if the same pairs were inserted in the same order. So, unless the contents are a collision of
the digest, dictionaries with the same fingerprint list and find the same. -/
theorem content_inj_and_entries_of_fingerprint_eq (calls others : List Call)
    (hcalls : ∀ pair ∈ calls.flatMap Call.pairs, PairFits pair)
    (hothers : ∀ pair ∈ others.flatMap Call.pairs, PairFits pair) :
    (∀ b : Builder, b.fingerprint = Digest.Sha256.digest b.content) ∧
    ((ofCalls calls).content = (ofCalls others).content →
      calls.flatMap Call.pairs = others.flatMap Call.pairs) ∧
    ∀ d e, (ofCalls calls).build = .ok d → (ofCalls others).build = .ok e →
      d.fingerprint = e.fingerprint →
      ¬ Digest.Sha256.Collision (ofCalls calls).content (ofCalls others).content →
      d.entries = e.entries ∧ d.index = e.index := by
  rw [← pairs_ofCalls] at hcalls hothers ⊢
  rw [← pairs_ofCalls]
  have hpairs : (ofCalls calls).content = (ofCalls others).content →
      (ofCalls calls).pairs.toList = (ofCalls others).pairs.toList :=
    pairs_eq_of_content_eq hcalls hothers
  refine ⟨fingerprint_eq, hpairs, ?_⟩
  intro d e hd he hfingerprint hcollision
  obtain ⟨rfl, -⟩ := of_build_eq_ok hd
  obtain ⟨rfl, -⟩ := of_build_eq_ok he
  have hdigest : Digest.Sha256.digest (ofCalls calls).content
      = Digest.Sha256.digest (ofCalls others).content := by
    rw [← fingerprint_eq, ← fingerprint_eq]
    exact hfingerprint
  have hcontent : (ofCalls calls).content = (ofCalls others).content := by
    by_contra hne
    exact hcollision ⟨hne, hdigest⟩
  exact entries_eq_of_pairs_eq (hpairs hcontent)

/-- Calls that insert two glosses of one word in either order. -/
def voices : List Call :=
  [.insert "kan" ⟨"kan", .ofList ["n"], "neck", []⟩,
    .insert "kan" ⟨"kan", .ofList ["n", "v"], "voice", [⟨"ka", .empty, "", []⟩]⟩]

theorem content_ne_of_voices :
    (∀ pair ∈ voices.flatMap Call.pairs, PairFits pair) ∧
      (ofCalls voices).content ≠ (ofCalls voices.reverse).content := by
  have hlengths : ∀ pair ∈ voices.flatMap Call.pairs, (pairBytes pair).length < 2 ^ 64 := by
    decide +kernel
  have hfits : ∀ pair ∈ voices.flatMap Call.pairs, PairFits pair :=
    fun pair hpair => pairFits_of_length (hlengths pair hpair)
  have hfits' : ∀ pair ∈ voices.reverse.flatMap Call.pairs, PairFits pair := by
    intro pair hpair
    obtain ⟨c, hc, hpair⟩ := List.mem_flatMap.1 hpair
    exact hfits pair (List.mem_flatMap.2 ⟨c, List.mem_reverse.1 hc, hpair⟩)
  refine ⟨hfits, fun hcontent => ?_⟩
  have hpairs :=
    (content_inj_and_entries_of_fingerprint_eq voices voices.reverse hfits hfits').2.1 hcontent
  have hne : voices.flatMap Call.pairs ≠ voices.reverse.flatMap Call.pairs := by decide +kernel
  exact hne hpairs

end Builder

end Interlinear
