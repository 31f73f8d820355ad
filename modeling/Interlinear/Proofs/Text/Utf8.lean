import Interlinear.Proofs.Except
import Interlinear.Text.Utf8

set_option autoImplicit false

/-! # Reading back texts

The bytes of a text are read as that text (`Text.ofUtf8_utf8`). A character has one to four bytes;
the first one tells how many, and the others are marked as those that continue it. What is checked
of a second byte holds because each character is written with as few bytes as can be, and because
surrogates are no characters. For the same reason a line feed is read only where it is written
(`lineFeed_mem_of_charsFrom`). -/

namespace Interlinear.Text

theorem toNat_tailByte (n : Nat) : (tailByte n).toNat = 0x80 + n % 0x40 :=
  UInt8.toNat_ofNat'.trans (Nat.mod_eq_of_lt (by omega))

theorem isTail_tailByte (n : Nat) : isTail (tailByte n).toNat = true := by
  rw [toNat_tailByte, isTail, Bool.and_eq_true, decide_eq_true_iff, decide_eq_true_iff]
  omega

/-- The code points of characters: those of surrogates are left out. -/
theorem range_of_char (c : Char) : c.toNat < 0xD800 ∨ (0xDFFF < c.toNat ∧ c.toNat < 0x110000) :=
  c.valid

/-! ## One character -/

variable {done : Nat} {a b c d : UInt8} {bytes : List UInt8}

theorem charsFrom_one (ha : a.toNat < 0x80) :
    charsFrom done (a :: bytes) = (Char.ofNat a.toNat :: ·) <$> charsFrom (done + 1) bytes := by
  rw [charsFrom.eq_def]
  exact if_pos ha

theorem charsFrom_two (ha : 0xC2 ≤ a.toNat ∧ a.toNat < 0xE0) (hb : isTail b.toNat = true) :
    charsFrom done (a :: b :: bytes) =
      (Char.ofNat ((a.toNat - 0xC0) * 64 + (b.toNat - 0x80)) :: ·) <$>
        charsFrom (done + 2) bytes := by
  rw [charsFrom.eq_def]
  dsimp only
  rw [if_neg (by omega), if_pos ha, hb]
  rfl

theorem charsFrom_three (ha : 0xE0 ≤ a.toNat ∧ a.toNat < 0xF0)
    (hb : startsThree a.toNat b.toNat = true) (hc : isTail c.toNat = true) :
    charsFrom done (a :: b :: c :: bytes) =
      (Char.ofNat (((a.toNat - 0xE0) * 64 + (b.toNat - 0x80)) * 64 + (c.toNat - 0x80)) :: ·) <$>
        charsFrom (done + 3) bytes := by
  rw [charsFrom.eq_def]
  dsimp only
  rw [if_neg (by omega), if_neg (by omega), if_pos ha, hb, hc]
  rfl

theorem charsFrom_four (ha : 0xF0 ≤ a.toNat ∧ a.toNat < 0xF5)
    (hb : startsFour a.toNat b.toNat = true) (hc : isTail c.toNat = true)
    (hd : isTail d.toNat = true) :
    charsFrom done (a :: b :: c :: d :: bytes) =
      (Char.ofNat ((((a.toNat - 0xF0) * 64 + (b.toNat - 0x80)) * 64 + (c.toNat - 0x80)) * 64 +
        (d.toNat - 0x80)) :: ·) <$> charsFrom (done + 4) bytes := by
  rw [charsFrom.eq_def]
  dsimp only
  rw [if_neg (by omega), if_neg (by omega), if_neg (by omega), if_pos ha, hb, hc, hd]
  rfl

/-- The bytes of a character are read as that character. -/
theorem charsFrom_utf8Char (c : Char) (done : Nat) (bytes : List UInt8) :
    charsFrom done (utf8Char c ++ bytes) =
      (c :: ·) <$> charsFrom (done + (utf8Char c).length) bytes := by
  have hrange := range_of_char c
  suffices hread : ∃ n, n = c.toNat ∧ charsFrom done (utf8Char c ++ bytes) =
      (Char.ofNat n :: ·) <$> charsFrom (done + (utf8Char c).length) bytes by
    obtain ⟨n, rfl, hread⟩ := hread
    rwa [Char.ofNat_toNat] at hread
  rw [utf8Char]
  generalize c.toNat = n at hrange
  split
  next h =>
    have ha : (UInt8.ofNat n).toNat = n := UInt8.toNat_ofNat'.trans (Nat.mod_eq_of_lt (by omega))
    exact ⟨_, ha, charsFrom_one (by omega)⟩
  next h =>
  split
  next h =>
    have ha : (UInt8.ofNat (0xC0 + n / 0x40)).toNat = 0xC0 + n / 0x40 :=
      UInt8.toNat_ofNat'.trans (Nat.mod_eq_of_lt (by omega))
    refine ⟨_, ?_, charsFrom_two (by omega) (isTail_tailByte n)⟩
    rw [ha, toNat_tailByte]
    omega
  next h =>
  split
  next h =>
    have ha : (UInt8.ofNat (0xE0 + n / 0x1000)).toNat = 0xE0 + n / 0x1000 :=
      UInt8.toNat_ofNat'.trans (Nat.mod_eq_of_lt (by omega))
    have hb := toNat_tailByte (n / 0x40)
    refine ⟨_, ?_, charsFrom_three (by omega) ?_ (isTail_tailByte n)⟩
    · rw [ha, hb, toNat_tailByte]
      omega
    · -- Fewer bytes would do below 0xA0 after 0xE0; from there on after 0xED are the surrogates.
      rw [startsThree, isTail_tailByte, ha, hb]
      simp only [Bool.true_and, Bool.and_eq_true, Bool.or_eq_true, bne_iff_ne, decide_eq_true_eq]
      omega
  next h =>
    have ha : (UInt8.ofNat (0xF0 + n / 0x40000)).toNat = 0xF0 + n / 0x40000 :=
      UInt8.toNat_ofNat'.trans (Nat.mod_eq_of_lt (by omega))
    have hb := toNat_tailByte (n / 0x1000)
    refine ⟨_, ?_, charsFrom_four (by omega) ?_ (isTail_tailByte _) (isTail_tailByte n)⟩
    · rw [ha, hb, toNat_tailByte, toNat_tailByte]
      omega
    · -- Fewer bytes would do below 0x90 after 0xF0; from there on after 0xF4 are no code points.
      rw [startsFour, isTail_tailByte, ha, hb]
      simp only [Bool.true_and, Bool.and_eq_true, Bool.or_eq_true, bne_iff_ne, decide_eq_true_eq]
      omega

/-! ## Texts -/

theorem charsFrom_utf8Chars (cs : List Char) (done : Nat) :
    charsFrom done (utf8Chars cs) = .ok cs := by
  induction cs generalizing done with
  | nil => rfl
  | cons c cs ih =>
      rw [utf8Chars, List.flatMap_cons, ← utf8Chars, charsFrom_utf8Char, ih]
      rfl

/-- The bytes of a text are read as that text. -/
theorem ofUtf8_utf8 (s : String) : ofUtf8 (utf8 s) = .ok s := by
  rw [ofUtf8, charsOfUtf8, utf8, charsFrom_utf8Chars]
  exact congrArg Except.ok String.ofList_toList

/-! ## Line feeds -/

/-- Only the code point of a line feed is read as one. -/
theorem eq_of_ofNat_eq_lineFeed {n : Nat} (h : Char.ofNat n = '\n') : n = 0x0A := by
  by_cases hn : n.isValidChar
  · have hcode : (Char.ofNat n).toNat = n := by
      rw [Char.ofNat, dif_pos hn]
      rfl
    rw [← hcode, h]
    rfl
  · rw [Char.ofNat, dif_neg hn] at h
    exact absurd h (by decide)

theorem exists_of_cons_eq_ok {n : Nat} {rest : Except Utf8Fault (List Char)} {cs : List Char}
    (h : (Char.ofNat n :: ·) <$> rest = .ok cs) (hmem : '\n' ∈ cs) :
    n = 0x0A ∨ ∃ cs', rest = .ok cs' ∧ '\n' ∈ cs' := by
  obtain ⟨cs', hrest, rfl⟩ := Except.map_eq_ok_iff.1 h
  rcases List.mem_cons.1 hmem with heq | hmem
  · exact .inl (eq_of_ofNat_eq_lineFeed heq.symm)
  · exact .inr ⟨cs', hrest, hmem⟩

/-- A line feed that is read is a byte by itself: characters of several bytes have higher code
points. -/
theorem lineFeed_mem_of_charsFrom {done : Nat} {bytes : List UInt8} {cs : List Char}
    (h : charsFrom done bytes = .ok cs) (hmem : '\n' ∈ cs) : 0x0A ∈ bytes := by
  fun_induction charsFrom done bytes generalizing cs with
  | case1 =>
      cases h
      exact absurd hmem List.not_mem_nil
  | case2 done b bytes a hone =>
      rename_i ih
      rcases exists_of_cons_eq_ok h hmem with hcode | ⟨cs', hrest, hmem⟩
      · have hb : b = 0x0A := UInt8.toNat_inj.1 hcode
        rw [hb]
        exact List.mem_cons_self
      · exact List.mem_cons_of_mem b (ih hrest hmem)
  | case5 done b a hone hlead c bytes hc =>
      rename_i ih
      rcases exists_of_cons_eq_ok h hmem with hcode | ⟨cs', hrest, hmem⟩
      · omega
      · exact List.mem_cons_of_mem b (List.mem_cons_of_mem c (ih hrest hmem))
  | case10 done b a hone htwo hlead c hc d bytes hd =>
      rename_i ih
      rcases exists_of_cons_eq_ok h hmem with hcode | ⟨cs', hrest, hmem⟩
      · simp only [startsThree, isTail, Bool.not_eq_true, Bool.not_eq_false', Bool.and_eq_true,
          Bool.or_eq_true, bne_iff_ne, decide_eq_true_eq] at hc
        omega
      · exact List.mem_cons_of_mem b (List.mem_cons_of_mem c
          (List.mem_cons_of_mem d (ih hrest hmem)))
  | case17 done b a hone htwo hthree hlead c hc d hd e bytes he =>
      rename_i ih
      rcases exists_of_cons_eq_ok h hmem with hcode | ⟨cs', hrest, hmem⟩
      · simp only [startsFour, isTail, Bool.not_eq_true, Bool.not_eq_false', Bool.and_eq_true,
          Bool.or_eq_true, bne_iff_ne, decide_eq_true_eq] at hc
        omega
      · exact List.mem_cons_of_mem b (List.mem_cons_of_mem c
          (List.mem_cons_of_mem d (List.mem_cons_of_mem e (ih hrest hmem))))
  | _ => cases h

end Interlinear.Text
