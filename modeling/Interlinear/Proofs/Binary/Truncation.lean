import Interlinear.Proofs.Dictionary.RoundTrip
import Interlinear.Proofs.Except
import Interlinear.Proofs.Grammar.RoundTrip

set_option autoImplicit false

/-! # Files that are cut off

What a decoder reads from bytes, it reads from them with others behind them, too, and leaves those
others (`Binary.Carries`). So nothing can be read from a file that is cut off: with the missing bytes
put back, what was read would leave them over, while the whole file is read to its end
(`Binary.exists_fault_of_truncated`).

The decoder of glosses counts levels, as many as there are bytes. With more bytes behind, there are
more levels, so two decoders are compared and not one with itself (`Gloss.carries_decoderTo`). -/

namespace Interlinear

namespace Binary

/-! ## Reading on with more bytes behind -/

/-- Some bytes at the end are missing. -/
def Truncated (part bytes : List UInt8) : Prop := part <+: bytes ∧ part ≠ bytes

/-- What the first decoder reads from bytes, the second one reads from them with more bytes behind
them, which it leaves. -/
def Carries {α : Type} (read read' : Decoder α) : Prop :=
  ∀ (bytes rest more : List UInt8) (x : α), read.run bytes = .ok (x, rest) →
    read'.run (bytes ++ more) = .ok (x, rest ++ more)

theorem truncated_take {bytes : List UInt8} {n : Nat} (h : n < bytes.length) :
    Truncated (bytes.take n) bytes := by
  refine ⟨List.take_prefix n bytes, fun heq => ?_⟩
  have hlen := congrArg List.length heq
  rw [List.length_take] at hlen
  omega

variable {α β : Type} {read read' : Decoder α}

theorem carries_pure (x : α) : Carries (pure x) (pure x) := by
  intro bytes rest more y h
  cases h
  rfl

theorem carries_throw (fault : Fault) : Carries (throw fault : Decoder α) (throw fault) := by
  intro bytes rest more y h
  cases h

theorem Carries.bind (h : Carries read read') {next next' : α → Decoder β}
    (hnext : ∀ x, Carries (next x) (next' x)) : Carries (read >>= next) (read' >>= next') := by
  intro bytes rest more y hrun
  rw [StateT.run_bind] at hrun ⊢
  obtain ⟨⟨x, left⟩, hx, hy⟩ := Except.bind_eq_ok_iff.1 hrun
  rw [h _ _ more _ hx]
  exact hnext x _ _ more _ hy

theorem Carries.map (h : Carries read read') (f : α → β) : Carries (f <$> read) (f <$> read') := by
  intro bytes rest more y hrun
  rw [StateT.run_map] at hrun ⊢
  obtain ⟨⟨x, left⟩, hx, hy⟩ := Except.map_eq_ok_iff.1 hrun
  obtain ⟨rfl, rfl⟩ := Prod.mk.inj hy
  rw [h _ _ more _ hx]
  rfl

theorem splitExact?_eq_some_iff {γ : Type} {n : Nat} {xs taken rest : List γ} :
    splitExact? n xs = some (taken, rest) ↔ xs = taken ++ rest ∧ taken.length = n := by
  constructor
  · intro h
    induction n generalizing xs taken with
    | zero =>
        obtain ⟨rfl, rfl⟩ := Prod.mk.inj (Option.some.inj h)
        exact ⟨rfl, rfl⟩
    | succ n ih =>
        cases xs with
        | nil => cases h
        | cons x xs =>
            obtain ⟨⟨taken', rest'⟩, hsplit, heq⟩ := Option.map_eq_some_iff.1 h
            obtain ⟨rfl, rfl⟩ := Prod.mk.inj heq
            obtain ⟨rfl, rfl⟩ := ih hsplit
            exact ⟨rfl, rfl⟩
  · rintro ⟨rfl, rfl⟩
    exact splitExact?_append taken rest

theorem splitExact?_eq_none_iff {γ : Type} {n : Nat} {xs : List γ} :
    splitExact? n xs = none ↔ xs.length < n := by
  constructor
  · intro h
    by_contra hle
    have hsplit : splitExact? n xs = some (xs.take n, xs.drop n) :=
      splitExact?_eq_some_iff.2 ⟨(List.take_append_drop n xs).symm,
        List.length_take_of_le (Nat.not_lt.1 hle)⟩
    rw [h] at hsplit
    cases hsplit
  · intro h
    refine Option.eq_none_iff_forall_ne_some.2 ?_
    rintro ⟨taken, rest⟩ hsplit
    obtain ⟨rfl, rfl⟩ := splitExact?_eq_some_iff.1 hsplit
    rw [List.length_append] at h
    omega

theorem carries_take (n : Nat) : Carries (Decoder.take n) (Decoder.take n) := by
  intro bytes rest more taken h
  have hsplit : splitExact? n bytes = some (taken, rest) := by
    change Decoder.take n bytes = _ at h
    rw [Decoder.take] at h
    split at h
    next taken' rest' hsplit =>
      obtain ⟨rfl, rfl⟩ := Prod.mk.inj (Except.ok.inj h)
      exact hsplit
    next => cases h
  obtain ⟨rfl, rfl⟩ := splitExact?_eq_some_iff.1 hsplit
  have hrun := reads_take taken (rest ++ more)
  rwa [← List.append_assoc] at hrun

theorem carries_number (count : Nat) : Carries (Decoder.number count) (Decoder.number count) :=
  (carries_take count).map _

theorem carries_length : Carries Decoder.length Decoder.length := carries_number 8

theorem carries_int32 : Carries Decoder.int32 Decoder.int32 := (carries_number 4).map _

theorem carries_text : Carries Decoder.text Decoder.text := by
  refine carries_length.bind fun n => (carries_take n).bind fun bytes => ?_
  split
  · exact carries_pure _
  · exact carries_throw _

theorem Carries.many (h : Carries read read') (n : Nat) :
    Carries (Decoder.many read n) (Decoder.many read' n) := by
  induction n with
  | zero => exact carries_pure []
  | succ n ih => exact h.bind fun x => ih.bind fun xs => carries_pure (x :: xs)

theorem Carries.list (h : Carries read read') : Carries (Decoder.list read) (Decoder.list read') :=
  carries_length.bind h.many

/-! ## Bytes that are cut off -/

/-- No part of what a decoder reads to its end can be read by it. -/
theorem exists_fault_of_truncated {bytes part : List UInt8} {x : α} (hreads : Reads read bytes x)
    (hcarries : Carries read read) (hpart : Truncated part bytes) :
    ∃ fault, Decoder.decode read part = .error fault := by
  obtain ⟨⟨missing, rfl⟩, hne⟩ := hpart
  cases hrun : read.run part with
  | error fault =>
      refine ⟨fault, ?_⟩
      rw [Decoder.decode, hrun]
      rfl
  | ok result =>
      -- What was read would leave the missing bytes over, if they were there.
      have hover := hcarries _ _ missing _ hrun
      have hwhole := hreads []
      rw [List.append_nil, hover] at hwhole
      have hnil : missing = [] :=
        (List.append_eq_nil_iff.1 (Prod.mk.inj (Except.ok.inj hwhole)).2).2
      rw [hnil, List.append_nil] at hne
      exact absurd rfl hne

end Binary

open Binary (Carries Reads Truncated carries_length carries_number carries_pure carries_take
  carries_text carries_throw)

/-! ## Files -/

/-- A file is not read if it is cut off. If the cut is in its magic number, which is `magicLength`
bytes long, the stream ends too early; if it comes later, what is left cannot be decoded. -/
def RefusesTruncated {α : Type} (read : List UInt8 → Except Error α) (magicLength : Nat)
    (file : List UInt8) : Prop :=
  ∀ part, Truncated part file →
    (part.length < magicLength → read part = .error .shortFile) ∧
    (magicLength ≤ part.length → ∃ fault, read part = .error (.undecodable fault))

theorem refusesTruncated_of_reads {α : Type} {read : Binary.Decoder α} {body : List UInt8} {x : α}
    (kind : FileKind) (magic : List UInt8) (hreads : Reads read body x)
    (hcarries : Carries read read) :
    RefusesTruncated (fun bytes => do decodeFile read (← dropMagic kind magic bytes)) magic.length
      (magic ++ body) := by
  rintro part ⟨hbegins, hne⟩
  constructor
  · intro hshort
    have hdrop : dropMagic kind magic part = .error .shortFile := by
      rw [dropMagic, Binary.splitExact?_eq_none_iff.2 hshort]
    simp only [hdrop]
    rfl
  · -- The whole magic number is there, so it is the body that is cut off.
    intro hlong
    obtain ⟨rest, rfl⟩ := List.prefix_of_prefix_length_le (List.prefix_append magic body) hbegins
      hlong
    have hrest : Truncated rest body :=
      ⟨(List.prefix_append_right_inj magic).1 hbegins, fun heq => hne (by rw [heq])⟩
    obtain ⟨fault, hfault⟩ := Binary.exists_fault_of_truncated hreads hcarries hrest
    refine ⟨fault, ?_⟩
    simp only [dropMagic_append]
    show decodeFile read rest = _
    rw [decodeFile, hfault]

/-! ## Glosses -/

namespace Gloss

/-- With as many levels or more, what was read is read again. -/
theorem carries_decoderTo {depth depth' : Nat} (h : depth ≤ depth') :
    Carries (decoderTo depth) (decoderTo depth') := by
  -- The levels of both decoders are used up together, so the induction is on the smaller number.
  induction depth generalizing depth' with
  | zero =>
      intro bytes rest more g hrun
      cases hrun
  | succ depth ih =>
      cases depth' with
      | zero => omega
      | succ depth' =>
          have hmorphemes := (ih (Nat.le_of_succ_le_succ h)).list
          rw [decoderTo, decoderTo]
          refine carries_text.bind fun form => carries_text.list.bind fun tags => ?_
          refine carries_text.bind fun meaning => hmorphemes.bind fun morphemes => ?_
          exact carries_pure _

theorem carries_decoder : Carries decoder decoder := by
  intro bytes rest more g h
  refine carries_decoderTo ?_ _ _ more _ h
  rw [List.length_append]
  omega

end Gloss

/-! ## Dictionaries -/

namespace Dictionary

theorem carries_digestDecoder : Carries digestDecoder digestDecoder := by
  refine (carries_take 32).bind fun bytes => ?_
  split
  · exact carries_pure _
  · exact carries_throw _

theorem carries_indexDecoder : Carries indexDecoder indexDecoder := by
  refine (carries_number 1).bind fun tag => ?_
  split
  · exact carries_pure none
  · exact carries_length.bind fun n => (carries_take n).map some
  · exact carries_throw _

theorem carries_decoder (f : IndexFormat) : Carries (decoder f) (decoder f) := by
  refine carries_text.bind fun lang => carries_text.bind fun name => carries_text.bind fun ver => ?_
  refine carries_digestDecoder.bind fun fingerprint => carries_indexDecoder.bind fun index => ?_
  refine carries_text.list.bind fun keys => Gloss.carries_decoder.list.list.bind fun glosses => ?_
  split
  · exact carries_pure _
  · exact carries_throw _

theorem refusesTruncated_write {f : IndexFormat} {d : Dictionary}
    (h : Binary.Fits (d.write f).bytes.length) :
    RefusesTruncated (read f) magic.length (d.write f).bytes := by
  rw [bytes_write] at h ⊢
  rw [List.length_append] at h
  exact refusesTruncated_of_reads .dictionary magic (reads_decoder (h.mono (Nat.le_add_left ..)))
    (carries_decoder f)

end Dictionary

/-! ## Grammars -/

theorem StepKind.carries_decoder : Carries decoder decoder := by
  refine (carries_number 4).bind fun variant => ?_
  split
  · exact Binary.carries_int32.map stage
  · exact carries_pure stop
  · exact carries_throw _

theorem Step.carries_decoder : Carries decoder decoder :=
  StepKind.carries_decoder.bind fun _ => carries_text.list.bind fun _ => carries_pure _

theorem Pattern.carries_decoder : Carries decoder decoder :=
  Gloss.carries_decoder.bind fun _ => Gloss.carries_decoder.bind fun _ => carries_pure _

theorem carries_sectionDecoder : Carries sectionDecoder sectionDecoder :=
  carries_text.bind fun _ => Pattern.carries_decoder.list.bind fun _ => carries_pure _

namespace Grammar

theorem carries_decoder : Carries decoder decoder := by
  refine Step.carries_decoder.list.bind fun token => Step.carries_decoder.list.bind fun sentence => ?_
  exact carries_sectionDecoder.list.bind fun sections => carries_pure _

theorem refusesTruncated_write {g : Grammar} (h : g.Fits) :
    RefusesTruncated decode magic.length g.write.bytes :=
  refusesTruncated_of_reads .grammar magic (reads_decoder h) carries_decoder

end Grammar

/-! ## Both kinds of files -/

/-- **No file that is cut off is read.** Where bytes are missing at the end of a file that a grammar
or a dictionary was written to, reading it fails: the stream ends too early if the cut is in the
magic number, and otherwise the bytes cannot be decoded. No shorter grammar and no shorter dictionary
is ever read. The lengths in the file must be such as a machine can count. -/
theorem truncated_files_refused :
    (∀ g : Grammar, g.Fits →
      RefusesTruncated Grammar.decode Grammar.magic.length g.write.bytes) ∧
    ∀ (f : IndexFormat) (d : Dictionary), Binary.Fits (d.write f).bytes.length →
      RefusesTruncated (Dictionary.read f) Dictionary.magic.length (d.write f).bytes :=
  ⟨fun _ => Grammar.refusesTruncated_write, fun _ _ => Dictionary.refusesTruncated_write⟩

/-- A grammar file cut off within its magic number, and files of both kinds cut off before their last
byte. -/
theorem truncated_plurals_necklaces_refused :
    (Grammar.plurals.Fits ∧
      Binary.Fits (Dictionary.necklaces.dictionary.write .plain).bytes.length) ∧
    Grammar.decode (Grammar.plurals.write.bytes.take 5) = .error .shortFile ∧
    (∃ fault, Grammar.decode (Grammar.plurals.write.bytes.take 561) = .error (.undecodable fault)) ∧
    ∃ fault, Dictionary.read .plain
      ((Dictionary.necklaces.dictionary.write .plain).bytes.take 474)
        = .error (.undecodable fault) := by
  have hgrammar : Grammar.plurals.write.bytes.length = 562 := by decide +kernel
  have hdictionary : (Dictionary.necklaces.dictionary.write .plain).bytes.length = 475 := by
    decide +kernel
  have hmagic : Grammar.magic.length = 18 ∧ Dictionary.magic.length = 21 := by decide +kernel
  have hplurals : Grammar.plurals.Fits :=
    Grammar.fits_of_length (by rw [Binary.Fits, hgrammar]; decide)
  have hnecklaces : Binary.Fits (Dictionary.necklaces.dictionary.write .plain).bytes.length := by
    rw [Binary.Fits, hdictionary]
    decide
  obtain ⟨hgrammars, hdictionaries⟩ := truncated_files_refused
  have hpart : ∀ n < 562, Truncated (Grammar.plurals.write.bytes.take n) _ :=
    fun n hn => Binary.truncated_take (hgrammar ▸ hn)
  have hlast : Truncated ((Dictionary.necklaces.dictionary.write .plain).bytes.take 474) _ :=
    Binary.truncated_take (by rw [hdictionary]; decide)
  refine ⟨⟨hplurals, hnecklaces⟩, ?_, ?_, ?_⟩
  · refine (hgrammars _ hplurals _ (hpart 5 (by decide))).1 ?_
    rw [List.length_take, hgrammar, hmagic.1]
    decide
  · refine (hgrammars _ hplurals _ (hpart 561 (by decide))).2 ?_
    rw [List.length_take, hgrammar, hmagic.1]
    decide
  · refine (hdictionaries _ _ hnecklaces _ hlast).2 ?_
    rw [List.length_take, hdictionary, hmagic.2]
    decide

end Interlinear
