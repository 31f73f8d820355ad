import Interlinear.Proofs.Dictionary.Articles
import Interlinear.Proofs.Dictionary.Multimap
import Interlinear.Proofs.Gloss.Lines
import Interlinear.Proofs.Text.Lines
import Interlinear.Proofs.Text.Utf8

set_option autoImplicit false

/-! # Glosses of Toolbox files are on one line

Whatever a Toolbox file says of a lemma or of a morpheme stands in a value, and a value is a part of
a line. So no text of a gloss in the dictionary goes over the end of a line
(`Toolbox.oneLine_of_dictionary_read`). -/

namespace Interlinear

/-- All glosses that are found in a dictionary are on one line. -/
def Dictionary.OneLine (d : Dictionary) : Prop :=
  ∀ form glosses, d.find? form = some glosses → ∀ g ∈ glosses, g.OneLine

namespace Toolbox

open Text

/-! ## Values -/

/-- A value is a part of its line. -/
theorem value_subset_of_field? {line : List Char} {f : Field} (h : field? line = some f) :
    f.value ⊆ line := by
  unfold field? at h
  split at h
  next rest =>
    obtain rfl := Option.some.inj h
    calc trim ((rest.dropWhile (· != ' ')).drop 1)
        ⊆ (rest.dropWhile (· != ' ')).drop 1 := trim_subset _
      _ ⊆ rest.dropWhile (· != ' ') := (List.drop_sublist 1 _).subset
      _ ⊆ rest := (List.dropWhile_sublist _).subset
      _ ⊆ '\\' :: rest := List.subset_cons_self _ rest
  next => contradiction

/-- The values of some fields are on one line. -/
def LineFeedFree (fields : List Field) : Prop := ∀ f ∈ fields, '\n' ∉ f.value

theorem lineFeedFree_fieldsOf {lines : List (List Char)} (h : ∀ line ∈ lines, '\n' ∉ line) :
    LineFeedFree (fieldsOf lines) := by
  intro f hf hmem
  obtain ⟨line, hline, hfield⟩ := List.mem_filterMap.1 hf
  exact h line hline (trimEnd_subset line (value_subset_of_field? hfield hmem))

theorem LineFeedFree.of_mem_valuesOf {fields : List Field} (h : LineFeedFree fields)
    {tags : List String} {value : List Char} (hvalue : value ∈ valuesOf tags fields) :
    '\n' ∉ value := by
  obtain ⟨f, hf, rfl⟩ := List.mem_map.1 hvalue
  exact h f (List.mem_filter.1 hf).1

theorem oneLine_ofList {value : List Char} (h : '\n' ∉ value) :
    Text.OneLine (String.ofList value) := by
  rwa [Text.OneLine, String.toList_ofList]

/-- The pieces that a text is cut into are parts of it. -/
theorem subset_of_mem_splitAll {sep : Char} {cs piece : List Char} (h : piece ∈ splitAll sep cs) :
    piece ⊆ cs := by
  induction cs generalizing piece with
  | nil =>
      rw [List.mem_singleton.1 h]
      exact List.nil_subset []
  | cons c cs ih =>
      rw [splitAll] at h
      split at h
      · rcases List.mem_cons.1 h with rfl | h
        · exact List.nil_subset _
        · exact List.Subset.trans (ih h) (List.subset_cons_self c cs)
      · split at h
        next =>
          rw [List.mem_singleton.1 h]
          exact List.cons_subset_cons c (List.nil_subset cs)
        next first rest hsplit =>
          rw [hsplit] at ih
          rcases List.mem_cons.1 h with rfl | h
          · exact List.cons_subset_cons c (ih List.mem_cons_self)
          · have htail := ih (List.mem_cons_of_mem first h)
            exact List.Subset.trans htail (List.subset_cons_self c cs)

theorem oneLine_of_mem_splitAll {sep : Char} {value piece : List Char} (hvalue : '\n' ∉ value)
    (h : piece ∈ splitAll sep value) : Text.OneLine (String.ofList piece) :=
  oneLine_ofList fun hmem => hvalue (subset_of_mem_splitAll h hmem)

theorem oneLine_of_mem_tagsOf {value : List Char} (hvalue : '\n' ∉ value) {tag : String}
    (h : tag ∈ (tagsOf value).toList) : Text.OneLine tag := by
  obtain ⟨piece, hpiece, rfl⟩ := List.mem_map.1 (TagSet.mem_ofList.1 h)
  exact oneLine_of_mem_splitAll hvalue (List.mem_filter.1 hpiece).1

theorem oneLine_of_morpheme? {value : List Char} (hvalue : '\n' ∉ value) {m : Gloss}
    (h : morpheme? value = some m) : m.OneLine := by
  unfold morpheme? morpheme at h
  split at h
  next form tags meaning hsplit =>
    obtain rfl := Option.some.inj h
    have hpiece : ∀ piece ∈ [form, tags, meaning], '\n' ∉ piece := by
      rw [← hsplit]
      exact fun piece hpiece hmem => hvalue (subset_of_mem_splitAll hpiece hmem)
    have htags : '\n' ∉ tags := hpiece tags (by simp)
    exact .mk (oneLine_ofList (hpiece form (by simp))) (fun _ => oneLine_of_mem_tagsOf htags)
      (oneLine_ofList (hpiece meaning (by simp))) (by simp)
  next => cases h

/-! ## Entries -/

namespace LineFeedFree

variable {fields : List Field}

theorem oneLine_of_mem_morphemesOf (h : LineFeedFree fields) {m : Gloss}
    (hm : m ∈ morphemesOf fields) : m.OneLine := by
  obtain ⟨value, hvalue, hmorpheme⟩ := List.mem_filterMap.1 hm
  exact oneLine_of_morpheme? (h.of_mem_valuesOf hvalue) hmorpheme

theorem of_mem_lemmasOf (h : LineFeedFree fields) {headword : List Char × List Gloss}
    (hmem : headword ∈ lemmasOf fields) :
    '\n' ∉ headword.1 ∧ ∀ m ∈ headword.2, m.OneLine := by
  induction fields with
  | nil => simp [lemmasOf] at hmem
  | cons f fields ih =>
      obtain ⟨hf, hfields⟩ := List.forall_mem_cons.1 h
      rw [lemmasOf] at hmem
      split at hmem
      · rcases List.mem_cons.1 hmem with rfl | hmem
        · have hbetween : LineFeedFree (fields.takeWhile (·.tag ∉ lemmaTags)) :=
            fun g hg => hfields g ((List.takeWhile_sublist _).subset hg)
          exact ⟨hf, fun m hm => hbetween.oneLine_of_mem_morphemesOf hm⟩
        · exact ih hfields hmem
      · exact ih hfields hmem

theorem oneLine_of_mem_tagsOf? (h : LineFeedFree fields) {tag : String}
    (htag : tag ∈ ((tagsOf? fields).getD .empty).toList) : Text.OneLine tag := by
  rw [tagsOf?] at htag
  cases hvalue : (valuesOf ["ps"] fields).head? with
  | none =>
      rw [hvalue] at htag
      simp [TagSet.empty] at htag
  | some value =>
      rw [hvalue] at htag
      exact oneLine_of_mem_tagsOf (h.of_mem_valuesOf (List.mem_of_head? hvalue)) htag

theorem oneLine_meaningOf (h : LineFeedFree fields) : Text.OneLine (meaningOf fields) := by
  refine oneLine_ofList ?_
  cases hvalue : (valuesOf ["ge", "gf"] fields).find? (!·.isEmpty) with
  | none => exact List.not_mem_nil
  | some value => exact h.of_mem_valuesOf (List.mem_of_find?_eq_some hvalue)

/-- What an article adds to the dictionary is on one line. -/
theorem oneLine_of_mem_entriesOf (h : LineFeedFree fields) {e : String × Gloss}
    (he : e ∈ entriesOf fields) : e.2.OneLine := by
  unfold entriesOf at he
  dsimp only at he
  split at he
  · simp at he
  · obtain ⟨headword, hheadword, rfl⟩ := List.mem_map.1 he
    obtain ⟨hform, hmorphemes⟩ := h.of_mem_lemmasOf hheadword
    exact .mk (oneLine_ofList hform) (fun _ => h.oneLine_of_mem_tagsOf?) h.oneLine_meaningOf
      hmorphemes

end LineFeedFree

/-! ## Dictionaries -/

/-- An entry is inserted with its own gloss. -/
theorem eq_of_mem_pairs_insertToneless {b : Builder} {key : String} {gloss : Gloss}
    {pair : String × Gloss} (h : pair ∈ (b.insertToneless key gloss).pairs.toList) :
    pair ∈ b.pairs.toList ∨ pair.2 = gloss := by
  have hinsert : ∀ {b : Builder} {key : String}, pair ∈ (b.insert key gloss).pairs.toList →
      pair ∈ b.pairs.toList ∨ pair.2 = gloss := by
    intro b key h
    rw [Builder.pairs_insert, Builder.Call.pairOf] at h
    rcases List.mem_append.1 h with h | h
    · exact .inl h
    · split at h
      · simp at h
      · exact .inr (by rw [List.mem_singleton.1 h])
  rw [Builder.insertToneless] at h
  rcases hinsert h with h | hgloss
  · split at h
    · exact .inl h
    · exact hinsert h
  · exact .inr hgloss

theorem exists_entry_of_mem_pairs_insertAll {b : Builder} {entries : List (String × Gloss)}
    {pair : String × Gloss} (h : pair ∈ (insertAll b entries).pairs.toList) :
    pair ∈ b.pairs.toList ∨ ∃ e ∈ entries, pair.2 = e.2 := by
  induction entries generalizing b with
  | nil => exact .inl h
  | cons e entries ih =>
      rcases ih h with h | ⟨e', he', hgloss⟩
      · rcases eq_of_mem_pairs_insertToneless h with h | hgloss
        · exact .inl h
        · exact .inr ⟨e, List.mem_cons_self, hgloss⟩
      · exact .inr ⟨e', List.mem_cons_of_mem e he', hgloss⟩

theorem oneLine_of_mem_pairs_ofLines {lines : List (List Char)} (h : ∀ line ∈ lines, '\n' ∉ line)
    {pair : String × Gloss} (hpair : pair ∈ (ofLines lines).pairs.toList) : pair.2.OneLine := by
  rcases exists_entry_of_mem_pairs_insertAll hpair with hpair | ⟨e, he, hgloss⟩
  · simp [withAttributes, Builder.empty] at hpair
  · obtain ⟨fields, hfields, he⟩ := List.mem_flatMap.1 he
    obtain ⟨article, harticle, rfl⟩ := List.mem_map.1 hfields
    have hlines : ∀ line ∈ article, '\n' ∉ line := by
      intro line hline
      rw [← List.splitOnPPrepend_nil_right] at harticle
      rcases List.mem_of_mem_splitOnPPrepend harticle hline with hnil | hmem
      · cases hnil
      · exact h line hmem
    rw [hgloss]
    exact (lineFeedFree_fieldsOf hlines).oneLine_of_mem_entriesOf he

/-- **Glosses of Toolbox files are on one line.** -/
theorem oneLine_of_dictionary_read {bytes : List UInt8} {d : Dictionary}
    (h : (read bytes).dictionary = .ok d) : d.OneLine := by
  obtain ⟨hbuilt, -⟩ := Reading.dictionary_eq_ok_iff.1 h
  obtain ⟨s, hread, hbuild⟩ := built_read_eq_ok_iff.1 hbuilt
  obtain ⟨lines, hlines⟩ := Scan.exists_texts_of_takeLines hread
  obtain ⟨-, rfl⟩ := (takeLines_linesOf hlines).1 hread
  obtain ⟨rfl, -⟩ := Builder.of_build_eq_ok hbuild
  have hfree : ∀ line ∈ lines, '\n' ∉ line := by
    intro line hline hmem
    have hok : Except.ok line ∈ lines.map (Except.ok (ε := Utf8Fault)) := List.mem_map_of_mem hline
    rw [← Except.mapM_eq_ok_iff.1 hlines] at hok
    obtain ⟨lineBytes, hbytes, hchars⟩ := List.mem_map.1 hok
    exact feed_not_mem_of_mem_linesOf hbytes (lineFeed_mem_of_charsFrom hchars hmem)
  intro form glosses hfind g hg
  obtain ⟨key, hpair⟩ := Builder.exists_pair_of_find?_dictionary hfind hg
  exact oneLine_of_mem_pairs_ofLines hfree hpair

end Toolbox

end Interlinear
