import Interlinear.Dictionary.Codec
import Interlinear.Dictionary.Prefixes
import Interlinear.Dictionary.Toolbox
import Interlinear.Proofs.Dictionary.Multimap
import Interlinear.Proofs.Gloss.RoundTrip

set_option autoImplicit false

/-! # Reading back dictionaries

A dictionary that is written to a file and read back is the same in all that can be asked of it
(`Dictionary.Alike`). The index is made anew from the layout in the file. All that is needed of the
format is that the keys of an index and their numbers are read back as they were written
(`IndexFormat.Lossless`). -/

namespace Interlinear

open Binary (Fits Reads)

/-! ## Formats of indexes -/

/-- The keys of an index: there is one, they ascend, and none holds the end mark. -/
structure Index.Keys (keys : List String) : Prop where
  nonempty : keys ≠ []
  ascending : keys.Pairwise (· < ·)
  unmarked : ∀ key ∈ keys, Index.Unmarked key

namespace IndexFormat

/-- The keys of an index and their numbers are read back as they were written. -/
def Lossless (f : IndexFormat) : Prop :=
  ∀ keys, Index.Keys keys → Fits (f.write keys.zipIdx).length →
    f.read (f.write keys.zipIdx) = keys.zipIdx

theorem recordBytes_ne_nil (r : String × Nat) : recordBytes r ≠ [] :=
  List.append_ne_nil_of_left_ne_nil (Binary.text_ne_nil r.1) _

theorem reads_record {r : String × Nat} (hbytes : Fits (recordBytes r).length)
    (hnumber : Fits r.2) : Reads recordDecoder (recordBytes r) r := by
  rw [recordBytes, List.length_append] at hbytes
  have hkey : Binary.TextFits r.1 := Binary.textFits_of_length (hbytes.mono (by omega))
  exact (Binary.reads_text hkey).bind ((Binary.reads_length hnumber).bind_pure rfl)

theorem lossless_plain : plain.Lossless := by
  intro keys _ hfits
  have hwrite : plain.write keys.zipIdx = Binary.list recordBytes keys.zipIdx := rfl
  rw [hwrite] at hfits ⊢
  obtain ⟨hcount, hbytes⟩ := Binary.fits_of_list hfits fun r _ => recordBytes_ne_nil r
  have hreads : Reads (Binary.Decoder.list recordDecoder) (Binary.list recordBytes keys.zipIdx)
      keys.zipIdx := by
    refine Binary.reads_list hcount fun r hr => reads_record (hbytes r hr) ?_
    have hlt := (List.mem_zipIdx hr).2.1
    rw [List.length_zipIdx] at hcount
    exact hcount.mono (by omega)
  have hdecode := hreads.decode []
  rw [List.append_nil] at hdecode
  rw [plain]
  dsimp only
  rw [hdecode]
  rfl

end IndexFormat

namespace Index

/-- Each key finds its glosses at its number, in the list from there on. -/
theorem filterMap_zipIdx {entries : List (String × List Gloss)} {glosses : List (List Gloss)}
    {start : Nat} (h : glosses.drop start = entries.map (·.2)) :
    ((entries.map (·.1)).zipIdx start).filterMap
      (fun (key, number) => glosses[number]?.map (key, ·)) = entries := by
  -- The numbers go on from `start`, so the entries left are those from there on.
  induction entries generalizing start with
  | nil => rfl
  | cons e entries ih =>
      have hhead : glosses[start]? = some e.2 := by
        rw [← List.head?_drop, h]
        rfl
      have htail : glosses.drop (start + 1) = entries.map (·.2) := by
        rw [← List.tail_drop, h]
        rfl
      rw [List.map_cons, List.zipIdx_cons, List.filterMap_cons, ih htail]
      simp only [hhead, Option.map_some]

theorem ofRecords_zipIdx (entries : List (String × List Gloss)) :
    ofRecords (entries.map (·.1)).zipIdx (entries.map (·.2)) = .ofList entries := by
  rw [ofRecords, filterMap_zipIdx List.drop_zero]

/-- The entries of an index make an index with the same glosses. -/
theorem equiv_ofList_toList (ix : Index) : (Std.TreeMap.ofList ix.toList).Equiv ix := by
  refine Std.TreeMap.Equiv.of_forall_constGet?_eq fun key => ?_
  cases hkey : ix[key]? with
  | some glosses =>
      exact Std.TreeMap.getElem?_ofList_of_mem Std.ReflOrd.compare_self ix.distinct_keys_toList
        (Std.TreeMap.mem_toList_iff_getElem?_eq_some.2 hkey)
  | none =>
      refine Std.TreeMap.getElem?_ofList_of_contains_eq_false ?_
      rw [Std.TreeMap.map_fst_toList_eq_keys, Std.TreeMap.contains_keys,
        Std.TreeMap.contains_eq_isSome_getElem?, hkey]
      rfl

/-- What an index finds depends on its keys and their glosses only. -/
theorem find?_congr {a b : Index} (h : a.Equiv b) (form : String) :
    a.find? form = b.find? form := by
  have hcontinued : ∀ key, a.isContinued key = b.isContinued key := by
    intro key
    rw [isContinued, isContinued, h.keys_eq]
  simp only [find?, h.getElem?_eq, hcontinued]

end Index

namespace Dictionary

/-! ## What a file holds -/

theorem reads_digest (x : Digest) : Reads digestDecoder x.bytes x := by
  have hread := Binary.reads_take x.bytes
  rw [x.length_eq] at hread
  refine hread.bind_pure ?_
  rw [dif_pos x.length_eq]

theorem reads_no_index : Reads indexDecoder [0] none :=
  have htag : Reads (Binary.Decoder.number 1) (Binary.littleEndian 1 0) 0 :=
    Binary.reads_number (by decide)
  htag.bind_pure rfl

theorem reads_index {layout : List UInt8} (h : Fits layout.length) :
    Reads indexDecoder (1 :: (Binary.length layout.length ++ layout)) (some layout) := by
  have htag : Reads (Binary.Decoder.number 1) (Binary.littleEndian 1 1) 1 :=
    Binary.reads_number (by decide)
  exact htag.bind ((Binary.reads_length h).bind ((Binary.reads_take layout).map some))

/-- The dictionary with the index that is made anew from the layout of its own. -/
def reread (f : IndexFormat) (d : Dictionary) : Dictionary :=
  { d with index := d.index.map fun _ =>
      .ofRecords (f.read (f.write d.records)) (d.entries.map (·.2)) }

variable {f : IndexFormat} {d : Dictionary}

theorem fits_layout {ix : Index} (hindex : d.index = some ix) (h : Fits (d.indexBytes f).length) :
    Fits (f.write d.records).length := by
  rw [indexBytes, hindex] at h
  refine h.mono ?_
  rw [Option.isSome_some, if_pos rfl, List.length_cons, List.length_append]
  omega

theorem reads_indexBytes (h : Fits (d.indexBytes f).length) :
    Reads indexDecoder (d.indexBytes f) (d.index.map fun _ => f.write d.records) := by
  cases hindex : d.index with
  | none =>
      rw [indexBytes, hindex]
      exact reads_no_index
  | some ix =>
      have hlayout := fits_layout hindex h
      rw [indexBytes, hindex]
      exact reads_index hlayout

/-- The decoder reads the attributes, the index, the keys and the entries as they were written. -/
theorem reads_decoder (h : Fits (d.headBytes ++ d.indexBytes f ++ d.entryBytes).length) :
    Reads (decoder f) (d.headBytes ++ d.indexBytes f ++ d.entryBytes) (d.reread f) := by
  have hbytes := h
  simp only [headBytes, entryBytes, List.length_append] at hbytes
  have hlang : Binary.TextFits d.lang := Binary.textFits_of_length (hbytes.mono (by omega))
  have hname : Binary.TextFits d.name := Binary.textFits_of_length (hbytes.mono (by omega))
  have hver : Binary.TextFits d.ver := Binary.textFits_of_length (hbytes.mono (by omega))
  have hindex : Fits (d.indexBytes f).length := hbytes.mono (by omega)
  have hkeyBytes : Fits (Binary.list Binary.text (d.entries.map (·.1))).length :=
    hbytes.mono (by omega)
  have hglossBytes : Fits (Binary.list (Binary.list Gloss.bytes) (d.entries.map (·.2))).length :=
    hbytes.mono (by omega)
  have hkeys : Reads (Binary.Decoder.list Binary.Decoder.text) _ (d.entries.map (·.1)) :=
    Binary.reads_list_of_fits hkeyBytes (fun key _ => Binary.text_ne_nil key)
      fun key _ hkey => Binary.reads_text (Binary.textFits_of_length hkey)
  have hglosses : Reads (Binary.Decoder.list (Binary.Decoder.list Gloss.decoder)) _
      (d.entries.map (·.2)) :=
    Binary.reads_list_of_fits hglossBytes (fun gs _ => Binary.list_ne_nil Gloss.bytes gs)
      fun gs _ hgs => Binary.reads_list_of_fits hgs (fun g _ => g.bytes_ne_nil)
        fun g _ hg => Gloss.reads_decoder (g.fits_of_length hg)
  -- The bytes are regrouped as the decoder takes them, one piece after the other.
  rw [headBytes, entryBytes]
  simp only [List.append_assoc]
  refine (Binary.reads_text hlang).bind ((Binary.reads_text hname).bind ?_)
  refine (Binary.reads_text hver).bind ((reads_digest d.fingerprint).bind ?_)
  refine (reads_indexBytes hindex).bind (hkeys.bind (hglosses.bind_pure ?_))
  have hpaired : (d.entries.map (·.1)).zip (d.entries.map (·.2)) = d.entries := by
    rw [List.zip_map', List.map_id']
  rw [List.length_map, List.length_map, if_pos rfl, hpaired, Option.map_map]
  rfl

theorem bytes_write (f : IndexFormat) (d : Dictionary) :
    (d.write f).bytes = magic ++ (d.headBytes ++ d.indexBytes f ++ d.entryBytes) := rfl

theorem read_append (f : IndexFormat) (bytes : List UInt8) :
    read f (magic ++ bytes) = decodeFile (decoder f) bytes := by
  rw [read, dropMagic_append]
  rfl

/-- What is read from the file of a dictionary, whatever follows it. -/
theorem read_write (h : Fits (d.write f).bytes.length) (suffix : List UInt8) :
    read f ((d.write f).bytes ++ suffix) = .ok (d.reread f) := by
  rw [bytes_write, List.length_append] at h
  have hreads := reads_decoder (h.mono (Nat.le_add_left _ _))
  rw [bytes_write, List.append_assoc, read_append, decodeFile_of_reads hreads]

/-! ## What can be asked of a dictionary -/

/-- Two dictionaries are the same in all that can be asked of them. -/
structure Alike (a b : Dictionary) : Prop where
  lang : a.lang = b.lang
  name : a.name = b.name
  ver : a.ver = b.ver
  fingerprint : a.fingerprint = b.fingerprint
  size : a.size = b.size
  entries : a.entries = b.entries
  lookup : ∀ form, a.lookup form = b.lookup form
  contains : ∀ form, a.contains form = b.contains form
  prefixes : ∀ form, a.prefixes form = b.prefixes form

/-- The entries of a dictionary with an index are those of the index, and their keys are those of
an index. -/
def Indexed (d : Dictionary) : Prop :=
  ∀ ix, d.index = some ix → d.entries = ix.toList ∧ Index.Keys (d.entries.map (·.1))

/-- Read back from a lossless format, an index finds what it found before. -/
theorem Indexed.find?_reread (hf : f.Lossless) (hd : d.Indexed)
    (hfits : Fits (d.indexBytes f).length) (form : String) :
    (d.reread f).find? form = d.find? form := by
  rw [find?, find?, reread]
  cases hindex : d.index with
  | none => rfl
  | some ix =>
      obtain ⟨hentries, hkeys⟩ := hd ix hindex
      have hlayout := fits_layout hindex hfits
      rw [Option.map_some, Option.bind_some, Option.bind_some, records, hf _ hkeys hlayout,
        Index.ofRecords_zipIdx, hentries]
      exact Index.find?_congr (Index.equiv_ofList_toList ix) form

theorem Indexed.alike_reread (hf : f.Lossless) (hd : d.Indexed)
    (hfits : Fits (d.indexBytes f).length) : (d.reread f).Alike d := by
  have hfind := hd.find?_reread hf hfits
  have hcontains : (d.reread f).contains = d.contains := by
    funext form
    rw [contains, contains, hfind]
  refine ⟨rfl, rfl, rfl, rfl, rfl, rfl, fun form => ?_, congrFun hcontains, fun form => ?_⟩
  · rw [lookup, lookup, hfind]
  · rw [prefixes_eq_filter, prefixes_eq_filter, hcontains]

/-! ## Dictionaries that are made -/

/-- Dictionaries come from builders, or from files in the Toolbox format. -/
inductive Made : Dictionary → Prop where
  | built {b : Builder} {d : Dictionary} (h : b.build = .ok d) : Made d
  | toolbox {bytes : List UInt8} {d : Dictionary} (h : (Toolbox.read bytes).dictionary = .ok d) :
      Made d

/-- What is read from a file in the Toolbox format comes from a builder, too. -/
theorem exists_build_of_toolbox {bytes : List UInt8}
    (h : (Toolbox.read bytes).dictionary = .ok d) : ∃ b : Builder, b.build = .ok d := by
  have hbuilt : (Toolbox.read bytes).built = .ok d := by
    rw [Toolbox.Reading.dictionary] at h
    cases hbuilt : (Toolbox.read bytes).built with
    | error e =>
        rw [hbuilt] at h
        cases h
    | ok d' =>
        rw [hbuilt] at h
        change (if d'.isAttributed then _ else _) = _ at h
        split at h
        · exact h
        · cases h
  rw [Toolbox.read] at hbuilt
  split at hbuilt
  split at hbuilt
  · cases hbuilt
  · exact ⟨_, hbuilt⟩

/-- A dictionary that was made is that of the pairs of some builder. -/
theorem Made.exists_build (h : d.Made) : ∃ b : Builder, b.build = .ok d := by
  cases h with
  | built h => exact ⟨_, h⟩
  | toolbox h => exact exists_build_of_toolbox h

theorem indexed_of_build {b : Builder} (h : b.build = .ok d) : d.Indexed := by
  obtain ⟨rfl, hunmarked⟩ := Builder.of_build_eq_ok h
  intro ix hix
  rw [Builder.dictionary] at hix
  by_cases hempty : b.pairs.isEmpty
  · -- Without pairs, there is no index.
    rw [if_pos hempty] at hix
    cases hix
  · rw [if_neg hempty] at hix
    obtain rfl := Option.some.inj hix
    have hkeys : b.dictionary.entries.map (·.1) = b.index.keys := Std.TreeMap.map_fst_toList_eq_keys
    refine ⟨rfl, ?_⟩
    rw [hkeys]
    refine ⟨?_, Index.ascending_keys b.index, fun key hkey => ?_⟩
    · obtain ⟨pair, hpair⟩ := List.exists_mem_of_ne_nil b.pairs.toList (by simpa using hempty)
      exact List.ne_nil_of_mem (Builder.mem_keys_index.2 ⟨pair.2, hpair⟩)
    · obtain ⟨g, hpair⟩ := Builder.mem_keys_index.1 hkey
      exact hunmarked (key, g) hpair

theorem Made.indexed (h : d.Made) : d.Indexed := by
  obtain ⟨b, hb⟩ := h.exists_build
  exact indexed_of_build hb

/-- **Files of dictionaries are read back.** A dictionary that was made is written with the number
of bytes that is reported. Whatever follows the file, it is read as a dictionary that is the same in
all that can be asked of it. The length of the file must be one that a machine can count. -/
theorem read_write_alike (f : IndexFormat) (hf : f.Lossless) {d : Dictionary} (hd : d.Made)
    (hfits : Fits (d.write f).bytes.length) (suffix : List UInt8) :
    (d.write f).count = (d.write f).bytes.length ∧
      ∃ e, read f ((d.write f).bytes ++ suffix) = .ok e ∧ e.Alike d := by
  have hindex : Fits (d.indexBytes f).length := by
    rw [bytes_write] at hfits
    simp only [List.length_append] at hfits
    exact hfits.mono (by omega)
  refine ⟨(List.length_append ..).symm, d.reread f, read_write hfits suffix, ?_⟩
  exact hd.indexed.alike_reread hf hindex

/-- Two morphemes of a word. -/
def necklaceParts : List Gloss :=
  [⟨"kannu", .empty, "necklace", []⟩, ⟨"w", .ofList ["mrph"], "PL", []⟩]

/-- A word with morphemes, and one that stands under its key without tone marks, too. -/
def necklaces : Builder :=
  ({ Builder.empty with lang := "bam", name := "words", ver := "1" }.insert "kannuw"
    ⟨"kannuw", .ofList ["n", "adj"], "", necklaceParts⟩).insertToneless "ka\u0301n"
      ⟨"ka\u0301n", .empty, "neck", []⟩

theorem read_write_necklaces :
    ∃ d, necklaces.build = .ok d ∧ (d.write .plain).count = (d.write .plain).bytes.length ∧
      ∃ e, read .plain ((d.write .plain).bytes ++ [0x0A, 0xFF]) = .ok e ∧ e.Alike d := by
  have hbuild : necklaces.build = .ok necklaces.dictionary := if_neg (by decide +kernel)
  have hfits : (necklaces.dictionary.write .plain).bytes.length < 2 ^ 64 := by decide +kernel
  exact ⟨_, hbuild,
    read_write_alike .plain IndexFormat.lossless_plain (.built hbuild) hfits [0x0A, 0xFF]⟩

end Dictionary

end Interlinear
