import Interlinear.Text.Tone

set_option autoImplicit false

/-! # What decomposition is made of

Taking a character apart yields characters only: whatever is in the tables, and every jamo, is the
code point of a character other than the control characters at the beginning of the code
(`IsPlain`). So a control character, such as the null character or a line feed, is in a decomposed
text only if it is in the text itself (`control_mem_of_mem_decomposeChars`), and the same holds of a
text without its tone marks. -/

namespace Interlinear.Text

/-- A number is the code point of a character, and not one of the control characters at the
beginning of the code. -/
def IsPlain (n : Nat) : Prop := n.isValidChar ∧ 0x20 ≤ n

instance (n : Nat) : Decidable (IsPlain n) := inferInstanceAs (Decidable (_ ∧ _))

/-- A character is one of the control characters at the beginning of the code. -/
def IsControl (c : Char) : Prop := c.toNat < 0x20

instance (c : Char) : Decidable (IsControl c) := inferInstanceAs (Decidable (_ < _))

theorem toNat_ofNat {n : Nat} (h : n.isValidChar) : (Char.ofNat n).toNat = n := by
  rw [Char.ofNat, dif_pos h]
  rfl

theorem not_isControl_ofNat {n : Nat} (h : IsPlain n) : ¬ IsControl (Char.ofNat n) := by
  rw [IsControl, toNat_ofNat h.1]
  exact Nat.not_lt.2 h.2

/-! ## The tables -/

theorem mem_of_pairIn?_eq_some {ps : List Pairing} {n base mark : Nat}
    (h : pairIn? ps n = some (base, mark)) : ⟨n, base, mark⟩ ∈ ps := by
  induction ps with
  | nil => simp [pairIn?] at h
  | cons p ps ih =>
      rw [pairIn?] at h
      split at h
      · contradiction
      · split at h
        next hn =>
          obtain ⟨rfl, rfl⟩ := Prod.mk.inj (Option.some.inj h)
          rw [hn]
          exact List.mem_cons_self
        · exact List.mem_cons_of_mem _ (ih h)

theorem mem_of_aliasIn?_eq_some {as : List Alias} {n target : Nat}
    (h : aliasIn? as n = some target) : ⟨n, target⟩ ∈ as := by
  induction as with
  | nil => simp [aliasIn?] at h
  | cons a as ih =>
      rw [aliasIn?] at h
      split at h
      · contradiction
      · split at h
        next hn =>
          obtain rfl := Option.some.inj h
          rw [hn]
          exact List.mem_cons_self
        · exact List.mem_cons_of_mem _ (ih h)

theorem mem_of_pairing?_eq_some {n base mark : Nat} (h : pairing? n = some (base, mark)) :
    ⟨n, base, mark⟩ ∈ primaryPairings ++ excludedPairings := by
  rw [pairing?] at h
  cases hfirst : pairIn? primaryPairings n with
  | some pair =>
      rw [hfirst] at h
      obtain rfl := Option.some.inj h
      exact List.mem_append_left _ (mem_of_pairIn?_eq_some hfirst)
  | none =>
      rw [hfirst] at h
      exact List.mem_append_right _ (mem_of_pairIn?_eq_some h)

theorem isPlain_aliases : ∀ a ∈ aliases, IsPlain a.target := by decide +kernel

theorem isPlain_primaryPairings :
    ∀ p ∈ primaryPairings, IsPlain p.composed ∧ IsPlain p.base ∧ IsPlain p.mark := by
  decide +kernel

theorem isPlain_excludedPairings :
    ∀ p ∈ excludedPairings, IsPlain p.base ∧ IsPlain p.mark := by
  decide +kernel

theorem isPlain_of_pairing? {n base mark : Nat} (h : pairing? n = some (base, mark)) :
    IsPlain base ∧ IsPlain mark := by
  rcases List.mem_append.1 (mem_of_pairing?_eq_some h) with hmem | hmem
  · exact (isPlain_primaryPairings _ hmem).2
  · exact isPlain_excludedPairings _ hmem

/-! ## Decomposition -/

/-- What a code point is taken apart into comes from the tables, if it is not the code point
itself. -/
theorem eq_or_isPlain_of_mem_expandCode (depth : Nat) {n m : Nat} (hm : m ∈ expandCode depth n) :
    m = n ∨ IsPlain m := by
  induction depth generalizing n m with
  | zero => exact .inl (List.mem_singleton.1 hm)
  | succ depth ih =>
      rw [expandCode] at hm
      split at hm
      next target htarget =>
        rcases ih hm with rfl | hplain
        · exact .inr (isPlain_aliases _ (mem_of_aliasIn?_eq_some htarget))
        · exact .inr hplain
      next =>
        split at hm
        next base mark hpair =>
          obtain ⟨hbase, hmark⟩ := isPlain_of_pairing? hpair
          rcases List.mem_append.1 hm with hm | hm
          · rcases ih hm with rfl | hplain
            · exact .inr hbase
            · exact .inr hplain
          · obtain rfl := List.mem_singleton.1 hm
            exact .inr hmark
        next => exact .inl (List.mem_singleton.1 hm)

/-- The jamo stand in a block of their own. -/
theorem bounds_of_mem_jamo? {n m : Nat} {codes : List Nat} (h : Hangul.jamo? n = some codes)
    (hm : m ∈ codes) : 0x1100 ≤ m ∧ m ≤ 0x11FF := by
  have hlead : Hangul.leadBase = 0x1100 := rfl
  have hvowel : Hangul.vowelBase = 0x1161 := rfl
  have htail : Hangul.tailBase = 0x11A7 := rfl
  have hsyllable : Hangul.syllableBase = 0xAC00 := rfl
  have hcount : Hangul.syllableCount = 11172 := rfl
  have hper : Hangul.perLead = 588 := rfl
  have htails : Hangul.tailCount = 28 := rfl
  simp only [Hangul.jamo?, hlead, hvowel, htail, hsyllable, hcount, hper, htails] at h
  split at h
  next hn =>
    obtain rfl := Option.some.inj h
    split at hm
    · simp only [List.mem_cons, List.not_mem_nil, or_false] at hm
      omega
    · simp only [List.mem_append, List.mem_cons, List.not_mem_nil, or_false, or_assoc] at hm
      omega
  next => contradiction

theorem eq_or_isPlain_of_mem_canonicalCodes {n m : Nat} (hm : m ∈ canonicalCodes n) :
    m = n ∨ IsPlain m := by
  rw [canonicalCodes] at hm
  cases hjamo : Hangul.jamo? n with
  | none =>
      rw [hjamo] at hm
      exact eq_or_isPlain_of_mem_expandCode expansionDepth hm
  | some codes =>
      rw [hjamo] at hm
      obtain ⟨hlo, hhi⟩ := bounds_of_mem_jamo? hjamo hm
      exact .inr ⟨Or.inl (by omega), by omega⟩

/-- Where characters are replaced by themselves and by plain ones, no control character is
brought in. -/
theorem control_mem_of_mem_flatMap {codes : Nat → List Nat}
    (hcodes : ∀ {n m}, m ∈ codes n → m = n ∨ IsPlain m) {cs : List Char} {x : Char}
    (hx : IsControl x) (h : x ∈ cs.flatMap fun c => (codes c.toNat).map Char.ofNat) : x ∈ cs := by
  obtain ⟨c, hc, hmem⟩ := List.mem_flatMap.1 h
  obtain ⟨m, hm, rfl⟩ := List.mem_map.1 hmem
  rcases hcodes hm with rfl | hplain
  · rwa [Char.ofNat_toNat]
  · exact absurd hx (not_isControl_ofNat hplain)

theorem mem_placeMark {c x : Char} {cs : List Char} : x ∈ placeMark c cs ↔ x = c ∨ x ∈ cs := by
  induction cs with
  | nil => simp [placeMark]
  | cons d ds ih =>
      rw [placeMark]
      split
      · rw [List.mem_cons, ih, List.mem_cons, or_left_comm]
      · rw [List.mem_cons, List.mem_cons]

theorem mem_orderMarks {x : Char} {cs : List Char} : x ∈ orderMarks cs ↔ x ∈ cs := by
  induction cs with
  | nil => rfl
  | cons c cs ih =>
      show x ∈ placeMark c (orderMarks cs) ↔ _
      rw [mem_placeMark, ih, List.mem_cons]

/-- Decomposition does not bring in control characters. -/
theorem control_mem_of_mem_decomposeChars {cs : List Char} {x : Char} (hx : IsControl x)
    (h : x ∈ decomposeChars cs) : x ∈ cs := by
  rw [decomposeChars, mem_orderMarks] at h
  exact control_mem_of_mem_flatMap eq_or_isPlain_of_mem_canonicalCodes hx h

theorem control_mem_of_mem_toneless {s : String} {x : Char} (hx : IsControl x)
    (h : x ∈ (toneless s).toList) : x ∈ s.toList := by
  rw [toneless, String.toList_ofList] at h
  exact control_mem_of_mem_decomposeChars hx (List.mem_filter.1 h).1

end Interlinear.Text
