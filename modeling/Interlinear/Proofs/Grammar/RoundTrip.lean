import Interlinear.Grammar.Codec
import Interlinear.Proofs.Gloss.RoundTrip
import Mathlib.Data.List.Induction

set_option autoImplicit false

/-! # Reading back grammars

A grammar that is written to a file is read back as it was, whatever follows it in the file
(`Grammar.decode_write_append`). The decoders of steps, patterns and sections are put together like
their bytes, and so are the proofs. Sections are put into order again when they are read; since
they are written in ascending order, each goes to the end of those before it
(`Sections.toList_ofList`).

The one condition is that the lengths that are written fit in eight bytes (`Grammar.Fits`), as those
of all lists and texts in a machine do. A file that is no longer than that holds no other lengths
(`Grammar.fits_of_length`). -/

namespace Interlinear

open Binary (ListFits Reads TextFits)

/-! ## Sections in order -/

namespace Sections

/-- A section whose name is after all others goes to the end. -/
theorem place_eq_append {name : String} {patterns : List Pattern}
    {ss : List (String × List Pattern)} (h : ∀ s ∈ ss, s.1 < name) :
    place name patterns ss = ss ++ [(name, patterns)] := by
  induction ss with
  | nil => rfl
  | cons s ss ih =>
      have hs : s.1 < name := h s List.mem_cons_self
      have hrest := ih fun t ht => h t (List.mem_cons_of_mem s ht)
      rw [place, if_neg (String.lt_asymm hs), if_neg (String.ne_of_lt hs).symm, hrest]
      rfl

/-- An ascending list of sections is the list of the sections made of it. -/
theorem toList_ofList {ss : List (String × List Pattern)}
    (h : (ss.map (·.1)).Pairwise (· < ·)) : (ofList ss).toList = ss := by
  -- The last section is the one that is inserted last, so the list is taken apart from its end.
  induction ss using List.reverseRecOn with
  | nil => rfl
  | append_singleton ss s ih =>
      rw [List.map_append, List.pairwise_append] at h
      obtain ⟨hss, -, hlast⟩ := h
      have hbefore : ∀ t ∈ ss, t.1 < s.1 := by
        intro t ht
        exact hlast t.1 (List.mem_map_of_mem ht) s.1 (by simp)
      have hplace : (ofList (ss ++ [s])).toList = place s.1 s.2 (ofList ss).toList := by
        rw [ofList, List.foldl_append]
        rfl
      rw [hplace, ih hss, place_eq_append hbefore]

theorem ofList_toList (s : Sections) : ofList s.toList = s := ext (toList_ofList s.ascending)

end Sections

/-! ## Steps -/

/-- The lengths in the bytes of a step fit. -/
def Step.Fits (s : Step) : Prop := ListFits TextFits s.operands

theorem StepKind.reads_decoder (k : StepKind) : Reads decoder k.bytes k := by
  cases k with
  | stage id =>
      have hvariant : Reads (Binary.Decoder.number 4) (Binary.littleEndian 4 0) 0 :=
        Binary.reads_number (by decide)
      exact hvariant.bind ((Binary.reads_int32 id).map stage)
  | stop =>
      have hvariant : Reads (Binary.Decoder.number 4) (Binary.littleEndian 4 1) 1 :=
        Binary.reads_number (by decide)
      exact hvariant.bind_pure rfl

theorem Step.reads_decoder {s : Step} (h : s.Fits) : Reads decoder s.bytes s := by
  have hoperands := Binary.reads_list_of_listFits h fun _ hs => Binary.reads_text hs
  exact s.kind.reads_decoder.bind (hoperands.bind_pure rfl)

theorem Step.bytes_ne_nil (s : Step) : s.bytes ≠ [] :=
  List.append_ne_nil_of_right_ne_nil _ (Binary.list_ne_nil Binary.text s.operands)

theorem Step.fits_of_length {s : Step} (h : Binary.Fits s.bytes.length) : s.Fits := by
  rw [Step.bytes, List.length_append] at h
  exact Binary.listFits_of_length (h.mono (Nat.le_add_left ..)) Binary.text_ne_nil
    fun _ => Binary.textFits_of_length

/-! ## Patterns and sections -/

/-- The lengths in the bytes of a pattern fit, at whatever depth its glosses are nested. -/
def Pattern.Fits (p : Pattern) : Prop := p.select.Fits ∧ p.mark.Fits

theorem Pattern.reads_decoder {p : Pattern} (h : p.Fits) : Reads decoder p.bytes p :=
  (Gloss.reads_decoder h.1).bind ((Gloss.reads_decoder h.2).bind_pure rfl)

theorem Pattern.bytes_ne_nil (p : Pattern) : p.bytes ≠ [] :=
  List.append_ne_nil_of_left_ne_nil p.select.bytes_ne_nil _

theorem Pattern.fits_of_length {p : Pattern} (h : Binary.Fits p.bytes.length) : p.Fits := by
  rw [Pattern.bytes, List.length_append] at h
  exact ⟨p.select.fits_of_length (h.mono (Nat.le_add_right ..)),
    p.mark.fits_of_length (h.mono (Nat.le_add_left ..))⟩

/-- The lengths in the bytes of a section fit. -/
def SectionFits (s : String × List Pattern) : Prop := TextFits s.1 ∧ ListFits Pattern.Fits s.2

theorem reads_sectionDecoder {s : String × List Pattern} (h : SectionFits s) :
    Reads sectionDecoder (sectionBytes s) s := by
  have hpatterns := Binary.reads_list_of_listFits h.2 fun _ hp => Pattern.reads_decoder hp
  exact (Binary.reads_text h.1).bind (hpatterns.bind_pure rfl)

theorem sectionBytes_ne_nil (s : String × List Pattern) : sectionBytes s ≠ [] :=
  List.append_ne_nil_of_left_ne_nil (Binary.text_ne_nil s.1) _

theorem sectionFits_of_length {s : String × List Pattern}
    (h : Binary.Fits (sectionBytes s).length) : SectionFits s := by
  rw [sectionBytes, List.length_append] at h
  refine ⟨Binary.textFits_of_length (h.mono (Nat.le_add_right ..)), ?_⟩
  exact Binary.listFits_of_length (h.mono (Nat.le_add_left ..)) Pattern.bytes_ne_nil
    fun _ => Pattern.fits_of_length

namespace Grammar

/-! ## Grammars -/

/-- The lengths in the bytes of a grammar fit. -/
structure Fits (g : Grammar) : Prop where
  token : ListFits Step.Fits g.token
  sentence : ListFits Step.Fits g.sentence
  sections : ListFits SectionFits g.sections.toList

theorem reads_decoder {g : Grammar} (h : g.Fits) : Reads decoder g.bytes g := by
  have htoken := Binary.reads_list_of_listFits h.token fun _ hs => Step.reads_decoder hs
  have hsentence := Binary.reads_list_of_listFits h.sentence fun _ hs => Step.reads_decoder hs
  have hsections := Binary.reads_list_of_listFits h.sections fun _ hs => reads_sectionDecoder hs
  rw [bytes, List.append_assoc]
  refine htoken.bind (hsentence.bind (hsections.bind_pure ?_))
  rw [Sections.ofList_toList]

/-- In a file whose length fits, all lengths fit. -/
theorem fits_of_length {g : Grammar} (h : Binary.Fits g.write.bytes.length) : g.Fits := by
  have hbytes : Binary.Fits (magic ++ g.bytes).length := h
  simp only [bytes, List.length_append] at hbytes
  have hstep : ∀ s : Step, Binary.Fits s.bytes.length → s.Fits := fun _ => Step.fits_of_length
  refine ⟨?_, ?_, ?_⟩
  · exact Binary.listFits_of_length (hbytes.mono (by omega)) Step.bytes_ne_nil hstep
  · exact Binary.listFits_of_length (hbytes.mono (by omega)) Step.bytes_ne_nil hstep
  · exact Binary.listFits_of_length (hbytes.mono (by omega)) sectionBytes_ne_nil
      fun _ => sectionFits_of_length

theorem decode_append (bytes : List UInt8) :
    decode (magic ++ bytes) = decodeFile decoder bytes := by
  rw [decode, dropMagic_append]
  rfl

/-- **Files of grammars are read back.** A grammar is written with the number of bytes that is
reported. Whatever follows the file, it is read as the same grammar: with the same steps, also where
their numbers are negative, and with the same patterns in the same sections. -/
theorem decode_write_append {g : Grammar} (h : g.Fits) (suffix : List UInt8) :
    g.write.count = g.write.bytes.length ∧ decode (g.write.bytes ++ suffix) = .ok g := by
  have hfile : g.write.bytes = magic ++ g.bytes := rfl
  have hcount : g.write.count = magic.length + g.bytes.length := rfl
  constructor
  · rw [hfile, hcount, List.length_append]
  · rw [hfile, List.append_assoc, decode_append, decodeFile_of_reads (reads_decoder h)]

/-- A grammar with negative stages, a step that no plan can do, a section without patterns and one
whose patterns hold glosses in glosses. -/
def plurals : Grammar :=
  let stem : Gloss := ⟨"", .ofList ["n", "adj"], "", [.empty, .ofForm "kɔ́"]⟩
  let plural : Pattern :=
    ⟨⟨".+w", .empty, "", [stem, .ofForm "w"]⟩, ⟨"", .ofList ["n"], "PL", [.empty, stem]⟩⟩
  let steps := (empty.addStep ⟨.stage (-2147483648), ["apply", "lookup"]⟩).addStep ⟨.stage (-1), []⟩
  let sentence := steps.addSentenceStep ⟨.stop, ["parsed", ""]⟩
  (sentence.addSection "plural" [plural]).addSection "none" []

theorem decode_write_plurals :
    plurals.Fits ∧ plurals.write.count = plurals.write.bytes.length ∧
      decode (plurals.write.bytes ++ [0x00, 0xFF]) = .ok plurals := by
  have hlength : plurals.write.bytes.length < 2 ^ 64 := by decide +kernel
  have hfits : plurals.Fits := fits_of_length hlength
  exact ⟨hfits, decode_write_append hfits [0x00, 0xFF]⟩

end Grammar

end Interlinear
