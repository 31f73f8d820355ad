import Interlinear.Proofs.Dictionary.Articles
import Interlinear.Proofs.Dictionary.Multimap

set_option autoImplicit false

/-! # Faults of Toolbox files

A file is read in one pass, but its faults can be told from the file as a whole
(`Toolbox.FirstFault`). A line is at fault because of its own bytes or, if it gives a morpheme,
because of the lines before it (`LineFault`): no lemma stands between the last blank line and it.
The first line at fault is reported. If there is none, a key must not hold the end mark of an index,
and at last the attributes of the dictionary must be given. Articles that are left out count for the
lines at fault but not for the keys.

The reading keeps the fields of the open article, those since the last blank line (`openLines`).
With these, a line is refused exactly if it is at fault (`Scan.takeLine_eq_error_iff`), so the pass
ends at the first such line (`Scan.takeLines_fault_iff`). -/

namespace Interlinear.Toolbox

open Text

/-! ## Faults -/

/-- The lines that are texts, as texts. -/
def textsOf (lines : List (List UInt8)) : List (List Char) :=
  lines.filterMap fun line => (charsOfUtf8 line).toOption

/-- The lines after the last blank one. -/
def openLines (texts : List (List Char)) : List (List Char) :=
  (texts.reverse.takeWhile (!isBlankLine ·)).reverse

/-- What is wrong with a line that comes after some others. A morpheme has three fields if there are
two colons in it. -/
inductive LineFault (before : List (List UInt8)) (line : List UInt8) : Error → Prop
  | notText (hline : ∀ cs, charsOfUtf8 line ≠ .ok cs) : LineFault before line .notText
  | morphemeFields {cs : List Char} {f : Field} (hline : charsOfUtf8 line = .ok cs)
      (hfield : field? (trimEnd cs) = some f) (htag : f.tag = "mm")
      (hcolons : f.value.count ':' ≠ 2) :
      LineFault before line (.morphemeFields (String.ofList f.value) (before.length + 1))
  | orphanMorpheme {cs : List Char} {f : Field} (hline : charsOfUtf8 line = .ok cs)
      (hfield : field? (trimEnd cs) = some f) (htag : f.tag = "mm")
      (hcolons : f.value.count ':' = 2)
      (hlemma : valuesOf lemmaTags (fieldsOf (openLines (textsOf before))) = []) :
      LineFault before line (.orphanMorpheme (before.length + 1))

/-- No line is at fault. -/
def Flawless (lines : List (List UInt8)) : Prop :=
  ∀ before line after, lines = before ++ line :: after → ∀ e, ¬LineFault before line e

/-- A key of an article that is not left out holds the end mark of an index. -/
def KeyFault (texts : List (List Char)) : Prop :=
  ∃ article ∈ articlesOf texts, tagsOf? article ≠ some (.ofList [Article.morphemeTag]) ∧
    ∃ value ∈ valuesOf lemmaTags article, Index.endMark ∈ (headwordKey (String.ofList value)).toList

/-- The last language, name or version that is given is empty, or none is given. -/
def Unattributed (texts : List (List Char)) : Prop :=
  ∃ tag ∈ ["lang", "name", "ver"], lastValue tag (fieldsOf texts) "" = ""

/-- What is wrong with the lines of a file, and is reported. -/
inductive FirstFault (lines : List (List UInt8)) : Error → Prop
  | line {before after : List (List UInt8)} {line : List UInt8} {e : Error}
      (hlines : lines = before ++ line :: after) (hbefore : Flawless before)
      (hfault : LineFault before line e) : FirstFault lines e
  | key (hlines : Flawless lines) (hkey : KeyFault (textsOf lines)) :
      FirstFault lines .endMarkerInKey
  | attributes (hlines : Flawless lines) (hkey : ¬KeyFault (textsOf lines))
      (hattributes : Unattributed (textsOf lines)) :
      FirstFault lines (.unattributed (ofLines (textsOf lines)).dictionary.description)

/-! ## Lines -/

theorem flawless_append_singleton {lines : List (List UInt8)} {line : List UInt8} :
    Flawless (lines ++ [line]) ↔ Flawless lines ∧ ∀ e, ¬LineFault lines line e := by
  constructor
  · intro h
    refine ⟨fun before x after heq => h before x (after ++ [line]) ?_, h lines line [] rfl⟩
    rw [heq, List.append_assoc, List.cons_append]
  · rintro ⟨hlines, hline⟩ before x after heq
    -- The line in question is the last one, or it stands among those before it.
    cases after using List.reverseRecOn with
    | nil =>
        obtain ⟨rfl, hlast⟩ := List.append_inj' heq rfl
        rwa [← List.singleton_inj.1 hlast]
    | append_singleton after y =>
        rw [← List.cons_append, ← List.append_assoc] at heq
        exact hlines before x after (List.append_inj' heq rfl).1

theorem flawless_nil : Flawless [] := by
  intro before line after heq
  simp at heq

/-- If there are lines at fault, there is a first one. -/
theorem exists_first_of_not_flawless {lines : List (List UInt8)} (h : ¬Flawless lines) :
    ∃ before line after e, lines = before ++ line :: after ∧ Flawless before ∧
      LineFault before line e := by
  induction lines using List.reverseRecOn with
  | nil => exact absurd flawless_nil h
  | append_singleton lines last ih =>
      by_cases hlines : Flawless lines
      · rw [flawless_append_singleton, and_iff_right hlines] at h
        push Not at h
        obtain ⟨e, hfault⟩ := h
        exact ⟨lines, last, [], e, rfl, hlines, hfault⟩
      · obtain ⟨before, line, after, e, rfl, hbefore, hfault⟩ := ih hlines
        refine ⟨before, line, after ++ [last], e, ?_, hbefore, hfault⟩
        rw [List.append_assoc, List.cons_append]

/-! ## Texts -/

theorem textsOf_append_of_ok {line : List UInt8} {cs : List Char} (h : charsOfUtf8 line = .ok cs)
    (lines : List (List UInt8)) : textsOf (lines ++ [line]) = textsOf lines ++ [cs] := by
  rw [textsOf, List.filterMap_append, List.filterMap_cons_some (by rw [h]; rfl)]
  rfl

theorem textsOf_of_mapM {lines : List (List UInt8)} {texts : List (List Char)}
    (h : lines.mapM charsOfUtf8 = .ok texts) : textsOf lines = texts := by
  calc textsOf lines
      = (lines.map charsOfUtf8).filterMap Except.toOption := by rw [List.filterMap_map]; rfl
    _ = (texts.map .ok).filterMap Except.toOption := by rw [Except.mapM_eq_ok_iff.1 h]
    _ = texts.filterMap some := List.filterMap_map
    _ = texts := List.filterMap_some

theorem openLines_append_of_blank {cs : List Char} (h : isBlankLine cs = true)
    (texts : List (List Char)) : openLines (texts ++ [cs]) = [] := by
  rw [openLines, List.reverse_append, List.reverse_singleton, List.singleton_append,
    List.takeWhile_cons_of_neg (by simp [h]), List.reverse_nil]

theorem openLines_append_of_not_blank {cs : List Char} (h : ¬isBlankLine cs = true)
    (texts : List (List Char)) : openLines (texts ++ [cs]) = openLines texts ++ [cs] := by
  rw [openLines, List.reverse_append, List.reverse_singleton, List.singleton_append,
    List.takeWhile_cons_of_pos (by simp [h]), List.reverse_cons]
  rfl

theorem field?_of_isBlankLine {cs : List Char} (h : isBlankLine cs = true) :
    field? (trimEnd cs) = none := by
  cases hfield : field? (trimEnd cs) with
  | none => rfl
  | some f =>
      have hfields := fieldsOf_of_isBlankLine h
      rw [fieldsOf_singleton_of_some hfield] at hfields
      cases hfields

/-! ## Morphemes -/

/-- A text with a separator `n` times is cut into `n + 1` pieces. -/
theorem length_splitAll (sep : Char) (cs : List Char) :
    (splitAll sep cs).length = cs.count sep + 1 := by
  induction cs with
  | nil => rfl
  | cons c cs ih =>
      rw [splitAll]
      split
      next heq => rw [heq, List.length_cons, ih, List.count_cons_self]
      next hne =>
        rw [List.count_cons_of_ne hne, ← ih]
        split
        next hnil => simp [hnil] at ih
        next piece pieces hsplit => rw [hsplit, List.length_cons, List.length_cons]

theorem morpheme_eq_error {value : List Char} (h : value.count ':' ≠ 2) (number : Nat) :
    morpheme value number = .error (.morphemeFields (String.ofList value) number) := by
  have hlength := length_splitAll ':' value
  unfold morpheme
  split
  next hsplit =>
    rw [hsplit] at hlength
    simp at hlength
    omega
  next => rfl

theorem exists_morpheme {value : List Char} (h : value.count ':' = 2) (number : Nat) :
    ∃ m, morpheme value number = .ok m := by
  have hlength := length_splitAll ':' value
  rw [h] at hlength
  match hsplit : splitAll ':' value, hlength with
  | [form, tags, meaning], _ => exact ⟨_, by rw [morpheme, hsplit]⟩

theorem isSome_morpheme? {value : List Char} (h : value.count ':' = 2) :
    (morpheme? value).isSome = true := by
  obtain ⟨m, hm⟩ := exists_morpheme h 0
  rw [morpheme?, hm]
  rfl

/-! ## The pass -/

namespace Scan

variable {b : Builder} {before : List (List UInt8)} {line : List UInt8}

/-- Before the next line, when all lines before it were taken in. -/
def after (b : Builder) (before : List (List UInt8)) : Scan :=
  ⟨b, .ofFields (fieldsOf (openLines (textsOf before)))⟩

theorem takeField_of_colons {f : Field} (htag : f.tag = "mm") (h : f.value.count ':' ≠ 2)
    (s : Scan) (number : Nat) :
    s.takeField number f = .error (.morphemeFields (String.ofList f.value) number) := by
  simp only [takeField, htag, morpheme_eq_error h]
  rfl

theorem takeField_of_no_lemma {f : Field} (htag : f.tag = "mm") (h : f.value.count ':' = 2)
    {fields : List Field} (hlemma : valuesOf lemmaTags fields = []) (number : Nat) :
    takeField ⟨b, .ofFields fields⟩ number f = .error (.orphanMorpheme number) := by
  obtain ⟨m, hm⟩ := exists_morpheme h number
  have hnone := Article.addMorpheme?_ofFields_eq_none hlemma m
  simp only [takeField, htag, hm, bind, Except.bind, hnone]

theorem takeLine_of_field {cs : List Char} {f : Field} (hline : charsOfUtf8 line = .ok cs)
    (hfield : field? (trimEnd cs) = some f) (s : Scan) (number : Nat) :
    s.takeLine number line = s.takeField number f := by
  have hblank : ¬isBlankLine cs = true := by
    intro h
    rw [field?_of_isBlankLine h] at hfield
    cases hfield
  simp only [takeLine, hline, if_neg hblank, hfield]

theorem takeLine_of_lineFault {e : Error} (h : LineFault before line e) :
    (after b before).takeLine (before.length + 1) line = .error e := by
  cases h with
  | notText hline =>
      cases hcs : charsOfUtf8 line with
      | error fault => rw [takeLine, hcs]
      | ok cs => exact absurd hcs (hline cs)
  | morphemeFields hline hfield htag hcolons =>
      rw [takeLine_of_field hline hfield]
      exact takeField_of_colons htag hcolons _ _
  | orphanMorpheme hline hfield htag hcolons hlemma =>
      rw [takeLine_of_field hline hfield]
      exact takeField_of_no_lemma htag hcolons hlemma _

/-- A line is refused exactly if it is at fault. -/
theorem takeLine_eq_error_iff {e : Error} :
    (after b before).takeLine (before.length + 1) line = .error e ↔ LineFault before line e := by
  refine ⟨fun h => ?_, takeLine_of_lineFault⟩
  cases hline : charsOfUtf8 line with
  | error fault =>
      rw [takeLine, hline] at h
      obtain rfl := Except.error.inj h
      exact .notText (by simp [hline])
  | ok cs =>
      cases hfield : field? (trimEnd cs) with
      | none =>
          simp only [takeLine, hline, hfield] at h
          split at h <;> cases h
      | some f =>
          rw [takeLine_of_field hline hfield, after] at h
          by_cases htag : f.tag = "mm"
          · by_cases hcolons : f.value.count ':' = 2
            · by_cases hlemma : valuesOf lemmaTags (fieldsOf (openLines (textsOf before))) = []
              · rw [takeField_of_no_lemma htag hcolons hlemma] at h
                obtain rfl := Except.error.inj h
                exact .orphanMorpheme hline hfield htag hcolons hlemma
              · rw [takeField_ofFields.2 ⟨fun _ => ⟨isSome_morpheme? hcolons, hlemma⟩, rfl⟩] at h
                cases h
            · rw [takeField_of_colons htag hcolons] at h
              obtain rfl := Except.error.inj h
              exact .morphemeFields hline hfield htag hcolons
          · rw [takeField_ofFields_of_ne htag] at h
            cases h

/-- A line that is taken in is the last one of the open article, unless it is blank. -/
theorem exists_after_of_takeLine {s : Scan} {number : Nat}
    (h : (after b before).takeLine number line = .ok s) :
    ∃ b' : Builder, s = after b' (before ++ [line]) := by
  cases hline : charsOfUtf8 line with
  | error fault =>
      rw [takeLine, hline] at h
      cases h
  | ok cs =>
      simp only [after, textsOf_append_of_ok hline]
      by_cases hblank : isBlankLine cs = true
      · rw [takeLine_of_blank hline hblank] at h
        obtain rfl := Except.ok.inj h
        rw [openLines_append_of_blank hblank]
        exact ⟨_, rfl⟩
      · rw [openLines_append_of_not_blank hblank, fieldsOf_append]
        cases hfield : field? (trimEnd cs) with
        | none =>
            simp only [takeLine, hline, if_neg hblank, hfield] at h
            obtain rfl := Except.ok.inj h
            rw [fieldsOf_singleton_of_none hfield, List.append_nil]
            exact ⟨b, rfl⟩
        | some f =>
            rw [takeLine_of_field hline hfield, after, takeField_ofFields] at h
            rw [fieldsOf_singleton_of_some hfield]
            exact ⟨_, h.2⟩

/-- **The pass ends at the first line at fault.** -/
theorem takeLines_fault_iff (hbefore : Flawless before) {lines : List (List UInt8)} {e : Error} :
    ((after b before).takeLines before.length lines).2 = some e ↔
      ∃ mid line rest, lines = mid ++ line :: rest ∧ Flawless (before ++ mid) ∧
        LineFault (before ++ mid) line e := by
  induction lines generalizing b before with
  | nil => simp [takeLines]
  | cons line lines ih =>
      cases htake : (after b before).takeLine (before.length + 1) line with
      | error e' =>
          have hfault : LineFault before line e' := takeLine_eq_error_iff.1 htake
          rw [takeLines_cons_of_error htake]
          constructor
          · intro h
            obtain rfl := Option.some.inj h
            exact ⟨[], line, lines, rfl, by rwa [List.append_nil], by rwa [List.append_nil]⟩
          · rintro ⟨mid, x, rest, heq, hmid, hx⟩
            cases mid with
            | nil =>
                obtain ⟨rfl, rfl⟩ := List.cons.inj heq
                rw [List.append_nil] at hx
                have hsame := takeLine_of_lineFault (b := b) hx
                rw [htake] at hsame
                rw [Except.error.inj hsame]
            | cons y mid =>
                obtain ⟨rfl, -⟩ := List.cons.inj heq
                exact absurd hfault (hmid before line mid rfl e')
      | ok s =>
          have hline : ∀ e', ¬LineFault before line e' := by
            intro e' hfault
            rw [takeLine_of_lineFault hfault] at htake
            cases htake
          obtain ⟨b', rfl⟩ := exists_after_of_takeLine htake
          have hnext := @ih b' (before ++ [line])
            (flawless_append_singleton.2 ⟨hbefore, hline⟩)
          rw [List.length_append, List.length_singleton] at hnext
          rw [takeLines_cons_of_ok htake, hnext]
          constructor
          · rintro ⟨mid, x, rest, rfl, hmid, hx⟩
            refine ⟨line :: mid, x, rest, rfl, ?_, ?_⟩
            · rwa [List.append_assoc] at hmid
            · rwa [List.append_assoc] at hx
          · rintro ⟨mid, x, rest, heq, hmid, hx⟩
            cases mid with
            | nil =>
                obtain ⟨rfl, rfl⟩ := List.cons.inj heq
                rw [List.append_nil] at hx
                exact absurd hx (hline e)
            | cons y mid =>
                obtain ⟨rfl, rfl⟩ := List.cons.inj heq
                refine ⟨mid, x, rest, rfl, ?_, ?_⟩
                · rwa [List.append_assoc]
                · rwa [List.append_assoc]

/-- The pass over a whole file. -/
theorem takeLines_start_fault_iff {lines : List (List UInt8)} {e : Error} :
    (start.takeLines 0 lines).2 = some e ↔
      ∃ before line rest, lines = before ++ line :: rest ∧ Flawless before ∧
        LineFault before line e :=
  takeLines_fault_iff (b := .empty) flawless_nil

end Scan

/-! ## Keys and attributes -/

theorem pairs_insertAll (b : Builder) (entries : List (String × Gloss)) :
    (insertAll b entries).pairs.toList
      = b.pairs.toList ++ entries.flatMap fun e => (Builder.Call.insertToneless e.1 e.2).pairs := by
  induction entries generalizing b with
  | nil => exact (List.append_nil _).symm
  | cons e entries ih =>
      have hpairs := b.pairs_perform (.insertToneless e.1 e.2)
      rw [Builder.perform] at hpairs
      rw [insertAll, List.foldl_cons, ← insertAll, ih, hpairs, List.flatMap_cons,
        List.append_assoc]

/-- Inserting an entry puts in a key with the end mark exactly if its own key has it: without tone
marks it has it still, and a key with it is not empty. -/
theorem forall_unmarked_pairs_insertToneless {key : String} {gloss : Gloss} :
    (∀ pair ∈ (Builder.Call.insertToneless key gloss).pairs, Index.Unmarked pair.1) ↔
      Index.Unmarked key := by
  have hpairOf : ∀ {key : String}, Index.Unmarked key →
      ∀ pair ∈ Builder.Call.pairOf key gloss, Index.Unmarked pair.1 := by
    intro key hkey pair hpair
    rw [Builder.Call.pairOf] at hpair
    split at hpair
    · cases hpair
    · rw [List.mem_singleton.1 hpair]
      exact hkey
  rw [Builder.Call.pairs, List.forall_mem_append]
  constructor
  · rintro ⟨-, h⟩ hmark
    have hne : ¬key.isEmpty = true := by
      intro hempty
      rw [String.isEmpty_iff.1 hempty] at hmark
      simp at hmark
    rw [Builder.Call.pairOf, if_neg hne, List.forall_mem_singleton] at h
    exact h hmark
  · intro hkey
    refine ⟨?_, hpairOf hkey⟩
    split
    · exact List.forall_mem_nil _
    · exact hpairOf hkey.toneless

theorem map_fst_lemmasOf (fields : List Field) :
    (lemmasOf fields).map Prod.fst = valuesOf lemmaTags fields := by
  induction fields with
  | nil => rfl
  | cons f fields ih =>
      rw [← List.singleton_append, valuesOf_append, ← ih, List.singleton_append, lemmasOf]
      split
      next h => rw [valuesOf_singleton_of_mem h]; rfl
      next h => rw [valuesOf_singleton_of_not_mem h]; rfl

/-- The keys of an article are those of its lemmas, unless it is left out. -/
theorem forall_key_entriesOf {p : String → Prop} {fields : List Field} :
    (∀ e ∈ entriesOf fields, p e.1) ↔
      (tagsOf? fields ≠ some (.ofList [Article.morphemeTag]) →
        ∀ value ∈ valuesOf lemmaTags fields, p (headwordKey (String.ofList value))) := by
  have hleft : (tagsOf? fields).getD .empty = .ofList [Article.morphemeTag] ↔
      tagsOf? fields = some (.ofList [Article.morphemeTag]) := by
    cases tagsOf? fields with
    | none => decide
    | some tags => simp
  unfold entriesOf
  dsimp only
  split
  next h => simp [hleft.1 h]
  next h =>
    rw [← map_fst_lemmasOf, List.forall_mem_map, List.forall_mem_map,
      imp_iff_right (fun heq => h (hleft.2 heq))]
    rfl

theorem keyFault_iff {texts : List (List Char)} :
    KeyFault texts ↔ ¬∀ pair ∈ (ofLines texts).pairs.toList, Index.Unmarked pair.1 := by
  have hnone : (withAttributes .empty (fieldsOf texts)).pairs.toList = [] := rfl
  rw [ofLines, pairs_insertAll, hnone, List.nil_append, List.forall_mem_flatMap]
  simp only [forall_unmarked_pairs_insertToneless]
  rw [List.forall_mem_flatMap]
  simp only [forall_key_entriesOf]
  simp [KeyFault, Index.Unmarked]

/-- Entries leave the attributes as they are. -/
theorem attributes_insertAll (b : Builder) (entries : List (String × Gloss)) :
    (insertAll b entries).lang = b.lang ∧ (insertAll b entries).name = b.name ∧
      (insertAll b entries).ver = b.ver := by
  have hinsert : ∀ (b : Builder) (key : String) (gloss : Gloss),
      (b.insert key gloss).lang = b.lang ∧ (b.insert key gloss).name = b.name ∧
        (b.insert key gloss).ver = b.ver := by
    intro b key gloss
    rw [Builder.insert]
    split <;> exact ⟨rfl, rfl, rfl⟩
  induction entries generalizing b with
  | nil => exact ⟨rfl, rfl, rfl⟩
  | cons e entries ih =>
      rw [insertAll, List.foldl_cons, ← insertAll]
      obtain ⟨hlang, hname, hver⟩ := ih (b.insertToneless e.1 e.2)
      rw [hlang, hname, hver, Builder.insertToneless]
      obtain ⟨hlang, hname, hver⟩ := hinsert
        (if toneless e.1 = e.1 then b else b.insert (toneless e.1) e.2) e.1 e.2
      rw [hlang, hname, hver]
      split
      · exact ⟨rfl, rfl, rfl⟩
      · exact hinsert b (toneless e.1) e.2

theorem isAttributed_ofLines_iff {texts : List (List Char)} :
    (ofLines texts).dictionary.isAttributed = true ↔ ¬Unattributed texts := by
  obtain ⟨hlang, hname, hver⟩ := attributes_insertAll (withAttributes .empty (fieldsOf texts))
    ((articlesOf texts).flatMap entriesOf)
  simp only [Dictionary.isAttributed, Builder.dictionary, ofLines, hlang, hname, hver,
    Unattributed]
  simp [withAttributes, Builder.empty, and_assoc]

/-! ## Files -/

/-- A file without lines at fault is read to its end. -/
theorem built_read_of_flawless {bytes : List UInt8} (h : Flawless (linesOf 0x0A 0x0D bytes)) :
    (read bytes).built = (ofLines (textsOf (linesOf 0x0A 0x0D bytes))).build := by
  cases htake : Scan.start.takeLines 0 (linesOf 0x0A 0x0D bytes) with
  | mk s fault =>
      cases fault with
      | some e =>
          obtain ⟨before, line, rest, hlines, -, hfault⟩ :=
            Scan.takeLines_start_fault_iff.1 (congrArg Prod.snd htake)
          exact absurd hfault (h before line rest hlines e)
      | none =>
          obtain ⟨texts, htexts⟩ := Scan.exists_texts_of_takeLines htake
          obtain ⟨-, rfl⟩ := (takeLines_linesOf htexts).1 htake
          rw [read, htake, textsOf_of_mapM htexts]

/-- A line at fault ends the reading. -/
theorem built_read_of_lineFault {bytes : List UInt8} {before rest : List (List UInt8)}
    {line : List UInt8} {e : Error} (hlines : linesOf 0x0A 0x0D bytes = before ++ line :: rest)
    (hbefore : Flawless before) (hfault : LineFault before line e) :
    (read bytes).built = .error e := by
  have htake := Scan.takeLines_start_fault_iff.2 ⟨before, line, rest, hlines, hbefore, hfault⟩
  cases hscan : Scan.start.takeLines 0 (linesOf 0x0A 0x0D bytes) with
  | mk s fault =>
      rw [hscan] at htake
      obtain rfl := htake
      rw [read, hscan]

/-- A file with a first fault gives no dictionary but reports it. -/
theorem dictionary_read_of_firstFault {bytes : List UInt8} {e : Error}
    (h : FirstFault (linesOf 0x0A 0x0D bytes) e) : (read bytes).dictionary = .error e := by
  cases h with
  | line hlines hbefore hfault =>
      rw [Reading.dictionary, built_read_of_lineFault hlines hbefore hfault]
      rfl
  | key hlines hkey =>
      rw [Reading.dictionary, built_read_of_flawless hlines,
        Builder.build_eq_error (keyFault_iff.1 hkey)]
      rfl
  | attributes hlines hkey hattributes =>
      have hunmarked := not_not.1 (mt keyFault_iff.2 hkey)
      rw [Reading.dictionary, built_read_of_flawless hlines, Builder.build_eq_ok hunmarked]
      exact if_neg fun hattributed => isAttributed_ofLines_iff.1 hattributed hattributes

/-- If something is wrong with a file, something is wrong with it first. -/
theorem exists_firstFault_iff {lines : List (List UInt8)} :
    (∃ e, FirstFault lines e) ↔
      ¬Flawless lines ∨ KeyFault (textsOf lines) ∨ Unattributed (textsOf lines) := by
  by_cases hlines : Flawless lines
  · by_cases hkey : KeyFault (textsOf lines)
    · exact iff_of_true ⟨_, .key hlines hkey⟩ (.inr (.inl hkey))
    · constructor
      · rintro ⟨e, h⟩
        cases h with
        | line heq _ hfault => exact absurd hfault (hlines _ _ _ heq e)
        | key _ h => exact absurd h hkey
        | attributes _ _ hattributes => exact .inr (.inr hattributes)
      · rintro (h | h | hattributes)
        · exact absurd hlines h
        · exact absurd h hkey
        · exact ⟨_, .attributes hlines hkey hattributes⟩
  · obtain ⟨before, line, rest, e, heq, hbefore, hfault⟩ := exists_first_of_not_flawless hlines
    exact iff_of_true ⟨e, .line heq hbefore hfault⟩ (.inl hlines)

theorem dictionary_read_of_no_fault {bytes : List UInt8}
    (h : ¬∃ e, FirstFault (linesOf 0x0A 0x0D bytes) e) :
    (read bytes).dictionary
      = .ok (ofLines (textsOf (linesOf 0x0A 0x0D bytes))).dictionary := by
  rw [exists_firstFault_iff, not_or, not_or, not_not] at h
  obtain ⟨hlines, hkey, hattributes⟩ := h
  have hunmarked := not_not.1 (mt keyFault_iff.2 hkey)
  rw [Reading.dictionary, built_read_of_flawless hlines, Builder.build_eq_ok hunmarked]
  exact if_pos (isAttributed_ofLines_iff.2 hattributes)

/-- **The first fault is reported.** Reading a file fails exactly if a line is at fault, a key of an
article that is not left out holds the end mark of an index, or an attribute is not given; and what
it reports is the first fault, in this order. -/
theorem dictionary_read_eq_error_iff (bytes : List UInt8) :
    ((∃ e, (read bytes).dictionary = .error e) ↔
      ¬Flawless (linesOf 0x0A 0x0D bytes) ∨ KeyFault (textsOf (linesOf 0x0A 0x0D bytes)) ∨
        Unattributed (textsOf (linesOf 0x0A 0x0D bytes))) ∧
    ∀ e, (read bytes).dictionary = .error e ↔ FirstFault (linesOf 0x0A 0x0D bytes) e := by
  have hreport : ∀ e, (read bytes).dictionary = .error e ↔
      FirstFault (linesOf 0x0A 0x0D bytes) e := by
    intro e
    refine ⟨fun h => ?_, dictionary_read_of_firstFault⟩
    by_cases hfault : ∃ e', FirstFault (linesOf 0x0A 0x0D bytes) e'
    · obtain ⟨e', hfault⟩ := hfault
      have hsame := dictionary_read_of_firstFault hfault
      rw [h] at hsame
      rwa [Except.error.inj hsame]
    · rw [dictionary_read_of_no_fault hfault] at h
      cases h
  refine ⟨?_, hreport⟩
  rw [← exists_firstFault_iff]
  exact exists_congr hreport

/-- The lemma is one of another article, and the line at fault comes before the one that is not
written as a morpheme. -/
example :
    let bytes := utf8 "\\lx so\n\n\\lang bam\nso\n\\mm so:n:house\n\\mm so"
    ((read bytes).dictionary matches .error (.orphanMorpheme 5)) = true := by
  decide +kernel

end Interlinear.Toolbox
