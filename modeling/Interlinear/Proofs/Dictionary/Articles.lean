import Interlinear.Dictionary.Toolbox
import Interlinear.Lists
import Interlinear.Proofs.Except
import Mathlib.Data.List.Induction
import Mathlib.Data.List.TakeWhile

set_option autoImplicit false

/-! # Toolbox files by their articles

A Toolbox file is read line by line, with one article open at a time. What comes of it can also be
told from the whole file (`Toolbox.ofLines`): its lines are cut at the blank ones into articles, and
each article tells its tags, its meaning, and its lemmas with their morphemes, wherever the fields
stand in it.

The invariant of the reading is that the open article is that of the fields since the last blank
line (`Article.ofFields`). Every field keeps it, and the reading fails exactly at a morpheme that is
ill-formed or comes before all lemmas of its article (`Scan.takeField_ofFields`). So all lines
together come to the articles that they are cut into (`Scan.takeLines_ofFields`), and the dictionary
is the one made of these (`dictionary_read_eq_ok_iff`). -/

namespace Interlinear.Toolbox

open Text

/-! ## Values in an article -/

/-- The fields on some lines. -/
def fieldsOf (lines : List (List Char)) : List Field :=
  lines.filterMap fun line => field? (trimEnd line)

/-- The values of the fields with one of some tags. -/
def valuesOf (tags : List String) (fields : List Field) : List (List Char) :=
  (fields.filter (·.tag ∈ tags)).map (·.value)

/-- The tags that lemmas are given with. -/
def lemmaTags : List String := ["lx", "le", "va", "vc"]

/-- A value that is a morpheme, as a gloss. -/
def morpheme? (value : List Char) : Option Gloss := (morpheme value 0).toOption

/-- The morphemes among some fields. -/
def morphemesOf (fields : List Field) : List Gloss :=
  (valuesOf ["mm"] fields).filterMap morpheme?

/-- The lemmas of an article, each with the morphemes between it and the next one. -/
def lemmasOf : List Field → List (List Char × List Gloss)
  | [] => []
  | f :: fields =>
    if f.tag ∈ lemmaTags then
      (f.value, morphemesOf (fields.takeWhile (·.tag ∉ lemmaTags))) :: lemmasOf fields
    else lemmasOf fields

/-- The tags of an article, if it has any: those that are given first. -/
def tagsOf? (fields : List Field) : Option TagSet := (valuesOf ["ps"] fields).head?.map tagsOf

/-- The meaning of an article: the first one given that is not empty. -/
def meaningOf (fields : List Field) : String :=
  String.ofList (((valuesOf ["ge", "gf"] fields).find? (!·.isEmpty)).getD [])

/-- The last value with a tag, or another text if there is none. -/
def lastValue (tag : String) (fields : List Field) (fallback : String) : String :=
  ((valuesOf [tag] fields).getLast?.map String.ofList).getD fallback

/-! ## Files -/

/-- A lemma with its key and with the tags and the meaning of its article. -/
def entry (tags : TagSet) (meaning : String) (headword : List Char × List Gloss) :
    String × Gloss :=
  (headwordKey (String.ofList headword.1),
    ⟨String.ofList headword.1, tags, meaning, headword.2⟩)

/-- What an article adds to the dictionary: its lemmas, unless it is about a morpheme alone. -/
def entriesOf (fields : List Field) : List (String × Gloss) :=
  let tags := (tagsOf? fields).getD .empty
  if tags = .ofList [Article.morphemeTag] then []
  else (lemmasOf fields).map (entry tags (meaningOf fields))

/-- The articles of a file, each as the list of its fields. -/
def articlesOf (lines : List (List Char)) : List (List Field) :=
  (lines.splitOnP isBlankLine).map fieldsOf

/-- A builder with the attributes that stand among some fields. -/
def withAttributes (b : Builder) (fields : List Field) : Builder :=
  { b with
    lang := lastValue "lang" fields b.lang
    name := lastValue "name" fields b.name
    ver := lastValue "ver" fields b.ver }

/-- Inserts entries under their keys and under these without tone marks. -/
def insertAll (b : Builder) (entries : List (String × Gloss)) : Builder :=
  entries.foldl (fun b e => b.insertToneless e.1 e.2) b

/-- What the lines of a file come to: the entries of all articles in order, with the last attributes
of the whole file. -/
def ofLines (lines : List (List Char)) : Builder :=
  insertAll (withAttributes .empty (fieldsOf lines)) ((articlesOf lines).flatMap entriesOf)

/-- A morpheme is written as one, and it comes after a lemma. -/
def Field.Fits (before : List Field) (f : Field) : Prop :=
  f.tag = "mm" → (morpheme? f.value).isSome = true ∧ valuesOf lemmaTags before ≠ []

/-- All morphemes of an article fit. -/
def Sound (fields : List Field) : Prop :=
  ∀ before f after, fields = before ++ f :: after → f.Fits before

/-! ## One more line -/

theorem fieldsOf_append (xs ys : List (List Char)) :
    fieldsOf (xs ++ ys) = fieldsOf xs ++ fieldsOf ys := List.filterMap_append

theorem fieldsOf_singleton_of_none {line : List Char} (h : field? (trimEnd line) = none) :
    fieldsOf [line] = [] := List.filterMap_cons_none h

theorem fieldsOf_singleton_of_some {line : List Char} {f : Field}
    (h : field? (trimEnd line) = some f) : fieldsOf [line] = [f] := List.filterMap_cons_some h

/-- There is no field on a blank line. -/
theorem fieldsOf_of_isBlankLine {line : List Char} (h : isBlankLine line = true) :
    fieldsOf [line] = [] := by
  have hnil : line.reverse.dropWhile isBlank = [] := by
    rw [List.dropWhile_eq_nil_iff]
    intro c hc
    exact List.all_eq_true.1 h c (List.mem_reverse.1 hc)
  refine fieldsOf_singleton_of_none ?_
  rw [trimEnd, hnil]
  rfl

theorem valuesOf_append (tags : List String) (xs ys : List Field) :
    valuesOf tags (xs ++ ys) = valuesOf tags xs ++ valuesOf tags ys := by
  rw [valuesOf, List.filter_append, List.map_append]
  rfl

theorem valuesOf_eq_nil_iff {tags : List String} {fields : List Field} :
    valuesOf tags fields = [] ↔ ∀ f ∈ fields, f.tag ∉ tags := by
  simp [valuesOf, List.filter_eq_nil_iff]

theorem valuesOf_singleton_of_mem {tags : List String} {f : Field} (h : f.tag ∈ tags) :
    valuesOf tags [f] = [f.value] := by
  simp [valuesOf, h]

theorem valuesOf_singleton_of_not_mem {tags : List String} {f : Field} (h : f.tag ∉ tags) :
    valuesOf tags [f] = [] := by
  simp [valuesOf, h]

/-- A field with another tag leaves the values as they are. -/
theorem valuesOf_append_of_not_mem {tags : List String} {f : Field} (h : f.tag ∉ tags)
    (fields : List Field) : valuesOf tags (fields ++ [f]) = valuesOf tags fields := by
  rw [valuesOf_append, valuesOf_singleton_of_not_mem h, List.append_nil]

theorem lastValue_append (tag : String) (xs ys : List Field) (fallback : String) :
    lastValue tag (xs ++ ys) fallback = lastValue tag ys (lastValue tag xs fallback) := by
  rw [lastValue, lastValue, lastValue, valuesOf_append, List.getLast?_append]
  cases (valuesOf [tag] ys).getLast? with
  | none => rfl
  | some value => rfl

theorem withAttributes_append (b : Builder) (xs ys : List Field) :
    withAttributes b (xs ++ ys) = withAttributes (withAttributes b xs) ys := by
  simp only [withAttributes, lastValue_append]

theorem toOption_morpheme (value : List Char) (line : Nat) :
    (morpheme value line).toOption = morpheme? value := by
  unfold morpheme? morpheme
  split
  · rfl
  · rfl

/-! ## The last lemma -/

theorem lemmasOf_of_forall {fields : List Field} (h : ∀ f ∈ fields, f.tag ∉ lemmaTags) :
    lemmasOf fields = [] := by
  induction fields with
  | nil => rfl
  | cons f fields ih =>
      obtain ⟨hf, hfields⟩ := List.forall_mem_cons.1 h
      rw [lemmasOf, if_neg hf, ih hfields]

/-- The morphemes of a lemma end where the next lemma begins. -/
theorem takeWhile_append_cons {before : List Field} {g : Field} (hg : g.tag ∈ lemmaTags)
    (after : List Field) : (before ++ g :: after).takeWhile (·.tag ∉ lemmaTags)
      = before.takeWhile (·.tag ∉ lemmaTags) := by
  induction before with
  | nil => simp [hg]
  | cons f before ih =>
      rw [List.cons_append, List.takeWhile_cons, List.takeWhile_cons, ih]

theorem lemmasOf_append_cons {before after : List Field} {g : Field} (hg : g.tag ∈ lemmaTags)
    (hafter : ∀ f ∈ after, f.tag ∉ lemmaTags) :
    lemmasOf (before ++ g :: after) = lemmasOf before ++ [(g.value, morphemesOf after)] := by
  induction before with
  | nil =>
      have hself : after.takeWhile (·.tag ∉ lemmaTags) = after := by
        rw [List.takeWhile_eq_self_iff]
        intro f hf
        exact decide_eq_true (hafter f hf)
      rw [List.nil_append, lemmasOf, lemmasOf, if_pos hg, hself, lemmasOf_of_forall hafter]
      rfl
  | cons f before ih =>
      rw [List.cons_append, lemmasOf, lemmasOf, takeWhile_append_cons hg, ih]
      by_cases hf : f.tag ∈ lemmaTags
      · rw [if_pos hf, if_pos hf, List.cons_append]
      · rw [if_neg hf, if_neg hf]

theorem exists_last_lemma {fields : List Field} (h : valuesOf lemmaTags fields ≠ []) :
    ∃ before g after, fields = before ++ g :: after ∧ g.tag ∈ lemmaTags ∧
      ∀ f ∈ after, f.tag ∉ lemmaTags := by
  induction fields with
  | nil => exact absurd rfl h
  | cons f fields ih =>
      by_cases hfields : valuesOf lemmaTags fields = []
      · refine ⟨[], f, fields, rfl, ?_, valuesOf_eq_nil_iff.1 hfields⟩
        by_contra hf
        exact h (valuesOf_eq_nil_iff.2
          (List.forall_mem_cons.2 ⟨hf, valuesOf_eq_nil_iff.1 hfields⟩))
      · obtain ⟨before, g, after, rfl, hg, hafter⟩ := ih hfields
        exact ⟨f :: before, g, after, rfl, hg, hafter⟩

theorem morphemesOf_append (xs ys : List Field) :
    morphemesOf (xs ++ ys) = morphemesOf xs ++ morphemesOf ys := by
  rw [morphemesOf, valuesOf_append, List.filterMap_append]
  rfl

/-- A field that is neither a lemma nor a morpheme leaves the lemmas as they are. -/
theorem lemmasOf_append_of_not_mem {fields : List Field} {f : Field} (hf : f.tag ∉ lemmaTags)
    (hm : f.tag ∉ ["mm"]) : lemmasOf (fields ++ [f]) = lemmasOf fields := by
  -- Without a lemma so far there is still none. Otherwise the field comes after the last one.
  by_cases hnone : valuesOf lemmaTags fields = []
  · have hfields := valuesOf_eq_nil_iff.1 hnone
    rw [lemmasOf_of_forall hfields, lemmasOf_of_forall]
    exact List.forall_mem_append.2 ⟨hfields, List.forall_mem_singleton.2 hf⟩
  · obtain ⟨before, g, after, rfl, hg, hafter⟩ := exists_last_lemma hnone
    have hafter' : ∀ x ∈ after ++ [f], x.tag ∉ lemmaTags :=
      List.forall_mem_append.2 ⟨hafter, List.forall_mem_singleton.2 hf⟩
    have hmorphemes : morphemesOf [f] = [] := by
      rw [morphemesOf, valuesOf_singleton_of_not_mem hm]
      rfl
    rw [List.append_assoc, List.cons_append, lemmasOf_append_cons hg hafter',
      lemmasOf_append_cons hg hafter, morphemesOf_append, hmorphemes, List.append_nil]

/-! ## The open article -/

/-- The article that is being read after some fields. -/
def Article.ofFields (fields : List Field) : Article where
  lemmas := ((lemmasOf fields).map (entry .empty "")).reverse
  tags := tagsOf? fields
  meaning := meaningOf fields

namespace Article

/-- A lemma is added to the article. -/
theorem ofFields_append_of_lemma {fields : List Field} {f : Field} (hf : f.tag ∈ lemmaTags) :
    ofFields (fields ++ [f]) = (ofFields fields).addLemma f.value := by
  have hnot : f.tag ∉ ["ps"] ∧ f.tag ∉ ["ge", "gf"] := by
    have hall : ∀ tag ∈ lemmaTags, tag ∉ ["ps"] ∧ tag ∉ ["ge", "gf"] := by decide
    exact hall f.tag hf
  have hlemmas : lemmasOf (fields ++ [f]) = lemmasOf fields ++ [(f.value, [])] :=
    lemmasOf_append_cons hf (List.forall_mem_nil _)
  rw [ofFields, addLemma, hlemmas, tagsOf?, meaningOf, valuesOf_append_of_not_mem hnot.1,
    valuesOf_append_of_not_mem hnot.2, List.map_append, List.reverse_append]
  rfl

/-- A morpheme goes to the last lemma. -/
theorem addMorpheme?_ofFields {fields : List Field} {f : Field} {m : Gloss} (hf : f.tag = "mm")
    (hm : morpheme? f.value = some m) (hlemma : valuesOf lemmaTags fields ≠ []) :
    (ofFields fields).addMorpheme? m = some (ofFields (fields ++ [f])) := by
  obtain ⟨before, g, after, rfl, hg, hafter⟩ := exists_last_lemma hlemma
  have hnot : f.tag ∉ lemmaTags ∧ f.tag ∉ ["ps"] ∧ f.tag ∉ ["ge", "gf"] := by
    rw [hf]
    decide
  have hmorphemes : morphemesOf [f] = [m] := by
    rw [morphemesOf, valuesOf_singleton_of_mem (List.mem_singleton.2 hf)]
    simp [hm]
  have hlemmas : lemmasOf ((before ++ g :: after) ++ [f])
      = lemmasOf before ++ [(g.value, morphemesOf after ++ [m])] := by
    rw [List.append_assoc, List.cons_append, lemmasOf_append_cons hg, morphemesOf_append,
      hmorphemes]
    exact List.forall_mem_append.2 ⟨hafter, List.forall_mem_singleton.2 hnot.1⟩
  rw [ofFields, ofFields, hlemmas, lemmasOf_append_cons hg hafter, tagsOf?, tagsOf?, meaningOf,
    meaningOf, valuesOf_append_of_not_mem hnot.2.1, valuesOf_append_of_not_mem hnot.2.2,
    List.map_append, List.reverse_append, List.map_append, List.reverse_append]
  rfl

theorem addMorpheme?_ofFields_eq_none {fields : List Field} (h : valuesOf lemmaTags fields = [])
    (m : Gloss) : (ofFields fields).addMorpheme? m = none := by
  rw [ofFields, lemmasOf_of_forall (valuesOf_eq_nil_iff.1 h)]
  rfl

/-- Only the first tags count. -/
theorem ofFields_append_of_tags {fields : List Field} {f : Field} (hf : f.tag = "ps") :
    ofFields (fields ++ [f]) = { ofFields fields with
      tags := (ofFields fields).tags.orElse fun _ => some (tagsOf f.value) } := by
  have hnot : f.tag ∉ lemmaTags ∧ f.tag ∉ ["mm"] ∧ f.tag ∉ ["ge", "gf"] := by
    rw [hf]
    decide
  have htags : tagsOf? (fields ++ [f])
      = (tagsOf? fields).orElse fun _ => some (tagsOf f.value) := by
    rw [tagsOf?, tagsOf?, valuesOf_append, List.head?_append,
      valuesOf_singleton_of_mem (List.mem_singleton.2 hf)]
    cases (valuesOf ["ps"] fields).head? with
    | none => rfl
    | some value => rfl
  rw [ofFields, lemmasOf_append_of_not_mem hnot.1 hnot.2.1, htags, meaningOf,
    valuesOf_append_of_not_mem hnot.2.2]
  rfl

/-- Only the first meaning that is not empty counts. -/
theorem ofFields_append_of_meaning {fields : List Field} {f : Field} (hf : f.tag ∈ ["ge", "gf"]) :
    ofFields (fields ++ [f]) =
      if (ofFields fields).meaning.isEmpty then
        { ofFields fields with meaning := String.ofList f.value }
      else ofFields fields := by
  have hnot : f.tag ∉ lemmaTags ∧ f.tag ∉ ["mm"] ∧ f.tag ∉ ["ps"] := by
    have hall : ∀ tag ∈ ["ge", "gf"], tag ∉ lemmaTags ∧ tag ∉ ["mm"] ∧ tag ∉ ["ps"] := by decide
    exact hall f.tag hf
  have hmeaning : meaningOf (fields ++ [f])
      = if (meaningOf fields).isEmpty then String.ofList f.value else meaningOf fields := by
    rw [meaningOf, meaningOf, valuesOf_append, List.find?_append, valuesOf_singleton_of_mem hf]
    cases hfind : (valuesOf ["ge", "gf"] fields).find? (!·.isEmpty) with
    | none =>
        by_cases hempty : f.value = []
        · simp [hempty]
        · simp [hempty]
    | some value =>
        have hvalue := List.find?_some hfind
        simp_all
  rw [ofFields, lemmasOf_append_of_not_mem hnot.1 hnot.2.1, hmeaning, tagsOf?,
    valuesOf_append_of_not_mem hnot.2.2]
  show _ = if (meaningOf fields).isEmpty then _ else _
  split
  · rfl
  · rfl

/-- Fields with other tags are passed over. -/
theorem ofFields_append_of_other {fields : List Field} {f : Field} (hlemma : f.tag ∉ lemmaTags)
    (hm : f.tag ∉ ["mm"]) (htags : f.tag ∉ ["ps"]) (hmeaning : f.tag ∉ ["ge", "gf"]) :
    ofFields (fields ++ [f]) = ofFields fields := by
  rw [ofFields, lemmasOf_append_of_not_mem hlemma hm, tagsOf?, meaningOf,
    valuesOf_append_of_not_mem htags, valuesOf_append_of_not_mem hmeaning]
  rfl

/-- At its end, an article adds its entries. -/
theorem insertInto_ofFields (fields : List Field) (b : Builder) :
    (ofFields fields).insertInto b = insertAll b (entriesOf fields) := by
  have hleft : (ofFields fields).isLeftOut = true ↔
      (tagsOf? fields).getD .empty = .ofList [morphemeTag] := by
    show (tagsOf? fields == some (.ofList [morphemeTag])) = true ↔ _
    cases tagsOf? fields with
    | none => decide
    | some tags => simp
  have hentries : (ofFields fields).entries
      = (lemmasOf fields).map (entry ((tagsOf? fields).getD .empty) (meaningOf fields)) := by
    rw [entries, ofFields, List.reverse_reverse, List.map_map]
    rfl
  rw [insertInto, entriesOf, hentries]
  by_cases h : (tagsOf? fields).getD .empty = .ofList [morphemeTag]
  · rw [if_pos (hleft.2 h), if_pos h]
    rfl
  · rw [if_neg (fun hout => h (hleft.1 hout)), if_neg h]
    rfl

end Article

/-! ## A field -/

theorem lastValue_of_eq {tag : String} {f : Field} (h : f.tag = tag) (fallback : String) :
    lastValue tag [f] fallback = String.ofList f.value := by
  rw [lastValue, valuesOf_singleton_of_mem (List.mem_singleton.2 h)]
  rfl

theorem lastValue_of_ne {tag : String} {f : Field} (h : f.tag ≠ tag) (fallback : String) :
    lastValue tag [f] fallback = fallback := by
  rw [lastValue, valuesOf_singleton_of_not_mem fun hmem => h (List.mem_singleton.1 hmem)]
  rfl

theorem withAttributes_of_not_mem {f : Field} (h : f.tag ∉ ["lang", "name", "ver"])
    (b : Builder) : withAttributes b [f] = b := by
  simp only [List.mem_cons, List.not_mem_nil, or_false, not_or] at h
  rw [withAttributes, lastValue_of_ne h.1, lastValue_of_ne h.2.1, lastValue_of_ne h.2.2]

namespace Scan

variable (s : Scan) (number : Nat) {f : Field}

theorem takeField_of_attribute (h : f.tag ∈ ["lang", "name", "ver"]) :
    s.takeField number f = .ok { s with builder := withAttributes s.builder [f] } := by
  simp only [List.mem_cons, List.not_mem_nil, or_false] at h
  rw [withAttributes]
  rcases h with h | h | h
  · rw [lastValue_of_eq h, lastValue_of_ne (by simp [h]), lastValue_of_ne (by simp [h])]
    simp only [takeField, h]
  · rw [lastValue_of_eq h, lastValue_of_ne (by simp [h]), lastValue_of_ne (by simp [h])]
    simp only [takeField, h]
  · rw [lastValue_of_eq h, lastValue_of_ne (by simp [h]), lastValue_of_ne (by simp [h])]
    simp only [takeField, h]

theorem takeField_of_lemma (h : f.tag ∈ lemmaTags) :
    s.takeField number f = .ok { s with article := s.article.addLemma f.value } := by
  simp only [lemmaTags, List.mem_cons, List.not_mem_nil, or_false] at h
  rcases h with h | h | h | h <;> simp only [takeField, h]

theorem takeField_of_tags (h : f.tag = "ps") :
    s.takeField number f = .ok { s with article := { s.article with
      tags := s.article.tags.orElse fun _ => some (tagsOf f.value) } } := by
  simp only [takeField, h]

theorem takeField_of_meaning (h : f.tag ∈ ["ge", "gf"]) :
    s.takeField number f = .ok { s with article :=
      if s.article.meaning.isEmpty then { s.article with meaning := String.ofList f.value }
      else s.article } := by
  simp only [List.mem_cons, List.not_mem_nil, or_false] at h
  have hite : (if s.article.meaning.isEmpty then
        .ok { s with article := { s.article with meaning := String.ofList f.value } }
      else .ok s : Except Error Scan) = .ok { s with article :=
        if s.article.meaning.isEmpty then { s.article with meaning := String.ofList f.value }
        else s.article } := by
    split <;> rfl
  rw [← hite]
  rcases h with h | h <;> simp only [takeField, h]

theorem takeField_of_other (hattribute : f.tag ∉ ["lang", "name", "ver"])
    (hlemma : f.tag ∉ lemmaTags) (hm : f.tag ≠ "mm") (htags : f.tag ≠ "ps")
    (hmeaning : f.tag ∉ ["ge", "gf"]) : s.takeField number f = .ok s := by
  unfold takeField
  split <;> simp_all [lemmaTags]

theorem takeField_of_morpheme (h : f.tag = "mm") {s' : Scan} :
    s.takeField number f = .ok s' ↔ ∃ m article, morpheme? f.value = some m ∧
      s.article.addMorpheme? m = some article ∧ s' = { s with article := article } := by
  simp only [takeField, h]
  rw [Except.bind_eq_ok_iff]
  constructor
  · rintro ⟨m, hm, hadd⟩
    split at hadd
    next article harticle =>
      refine ⟨m, article, ?_, harticle, (Except.ok.inj hadd).symm⟩
      rw [← toOption_morpheme f.value number, hm]
      rfl
    next => cases hadd
  · rintro ⟨m, article, hm, harticle, rfl⟩
    rw [← toOption_morpheme f.value number] at hm
    cases hvalue : morpheme f.value number with
    | error e =>
        rw [hvalue] at hm
        cases hm
    | ok m' =>
        rw [hvalue] at hm
        obtain rfl := Option.some.inj hm
        refine ⟨m', rfl, ?_⟩
        rw [harticle]

variable {number}

/-- Fields that are no morphemes are always taken in. -/
theorem takeField_ofFields_of_ne (h : f.tag ≠ "mm") (b : Builder) (fields : List Field) :
    takeField ⟨b, .ofFields fields⟩ number f
      = .ok ⟨withAttributes b [f], .ofFields (fields ++ [f])⟩ := by
  by_cases hattribute : f.tag ∈ ["lang", "name", "ver"]
  · have hother : ∀ tag ∈ ["lang", "name", "ver"],
        tag ∉ lemmaTags ∧ tag ∉ ["mm"] ∧ tag ∉ ["ps"] ∧ tag ∉ ["ge", "gf"] := by decide
    obtain ⟨hlemma, hm, htags, hmeaning⟩ := hother f.tag hattribute
    rw [takeField_of_attribute _ _ hattribute,
      Article.ofFields_append_of_other hlemma hm htags hmeaning]
  rw [withAttributes_of_not_mem hattribute]
  by_cases hlemma : f.tag ∈ lemmaTags
  · rw [takeField_of_lemma _ _ hlemma, Article.ofFields_append_of_lemma hlemma]
  by_cases htags : f.tag = "ps"
  · rw [takeField_of_tags _ _ htags, Article.ofFields_append_of_tags htags]
  by_cases hmeaning : f.tag ∈ ["ge", "gf"]
  · rw [takeField_of_meaning _ _ hmeaning, Article.ofFields_append_of_meaning hmeaning]
  · rw [takeField_of_other _ _ hattribute hlemma h htags hmeaning,
      Article.ofFields_append_of_other hlemma (by simpa using h) (by simpa using htags) hmeaning]

/-- **A field is taken in if it fits**, and then the open article is that of the fields with it. -/
theorem takeField_ofFields {b : Builder} {fields : List Field} {s' : Scan} :
    takeField ⟨b, .ofFields fields⟩ number f = .ok s' ↔
      f.Fits fields ∧ s' = ⟨withAttributes b [f], .ofFields (fields ++ [f])⟩ := by
  by_cases hm : f.tag = "mm"
  · have hnot : f.tag ∉ ["lang", "name", "ver"] := by
      rw [hm]
      decide
    rw [takeField_of_morpheme _ _ hm, withAttributes_of_not_mem hnot]
    constructor
    · rintro ⟨m, article, hvalue, harticle, rfl⟩
      have hlemma : valuesOf lemmaTags fields ≠ [] := by
        intro hnone
        rw [Article.addMorpheme?_ofFields_eq_none hnone] at harticle
        cases harticle
      rw [Article.addMorpheme?_ofFields hm hvalue hlemma] at harticle
      obtain rfl := Option.some.inj harticle
      exact ⟨fun _ => ⟨Option.isSome_of_eq_some hvalue, hlemma⟩, rfl⟩
    · rintro ⟨hfits, rfl⟩
      obtain ⟨hvalue, hlemma⟩ := hfits hm
      obtain ⟨m, hvalue⟩ := Option.isSome_iff_exists.1 hvalue
      exact ⟨m, _, hvalue, Article.addMorpheme?_ofFields hm hvalue hlemma, rfl⟩
  · rw [takeField_ofFields_of_ne hm]
    constructor
    · intro h
      exact ⟨fun hmm => absurd hmm hm, (Except.ok.inj h).symm⟩
    · rintro ⟨-, rfl⟩
      rfl

end Scan

/-! ## Lines -/

theorem Sound.mono {xs fields : List Field} (hsound : Sound fields) (h : xs <+: fields) :
    Sound xs := by
  obtain ⟨ys, rfl⟩ := h
  intro before f after heq
  refine hsound before f (after ++ ys) ?_
  rw [heq, List.append_assoc, List.cons_append]

theorem sound_append_singleton {fields : List Field} {f : Field} :
    Sound (fields ++ [f]) ↔ Sound fields ∧ f.Fits fields := by
  constructor
  · intro h
    exact ⟨h.mono (List.prefix_append _ _), h fields f [] rfl⟩
  · rintro ⟨hsound, hfits⟩ before g after heq
    -- The field in question is the last one, or it stands among those before it.
    cases after using List.reverseRecOn with
    | nil =>
        obtain ⟨rfl, hlast⟩ := List.append_inj' heq rfl
        rwa [← List.singleton_inj.1 hlast]
    | append_singleton after x =>
        rw [← List.cons_append, ← List.append_assoc] at heq
        exact hsound before g after (List.append_inj' heq rfl).1

theorem sound_nil : Sound [] := by
  intro before f after heq
  simp at heq

theorem insertAll_append (b : Builder) (xs ys : List (String × Gloss)) :
    insertAll b (xs ++ ys) = insertAll (insertAll b xs) ys := List.foldl_append

/-- Entries and attributes do not interfere. -/
theorem withAttributes_insertAll (b : Builder) (fields : List Field)
    (entries : List (String × Gloss)) : withAttributes (insertAll b entries) fields
      = insertAll (withAttributes b fields) entries := by
  have hinsert : ∀ (b : Builder) (key : String) (gloss : Gloss),
      withAttributes (b.insert key gloss) fields = (withAttributes b fields).insert key gloss := by
    intro b key gloss
    unfold Builder.insert
    split
    · rfl
    · rfl
  induction entries generalizing b with
  | nil => rfl
  | cons e entries ih =>
      show withAttributes (insertAll (b.insertToneless e.1 e.2) entries) fields
        = insertAll ((withAttributes b fields).insertToneless e.1 e.2) entries
      rw [ih, Builder.insertToneless, Builder.insertToneless, hinsert]
      split
      · rfl
      · rw [hinsert]

/-- The entries of articles that are given by their lines. -/
def entriesOfAll (articles : List (List (List Char))) : List (String × Gloss) :=
  articles.flatMap fun lines => entriesOf (fieldsOf lines)

theorem entriesOfAll_cons (lines : List (List Char)) (articles : List (List (List Char))) :
    entriesOfAll (lines :: articles) = entriesOf (fieldsOf lines) ++ entriesOfAll articles :=
  List.flatMap_cons

/-- The open article is sound if all those are that the rest of the file is cut into with it. -/
theorem sound_of_splitOnPPrepend {p : List Char → Bool} {texts acc : List (List Char)}
    (h : ∀ article ∈ texts.splitOnPPrepend p acc, Sound (fieldsOf article)) :
    Sound (fieldsOf acc.reverse) := by
  obtain ⟨article, harticle, hbegin⟩ := List.exists_mem_splitOnPPrepend p texts acc
  exact (h article harticle).mono (hbegin.filterMap _)

namespace Scan

theorem takeLine_of_blank {line : List UInt8} {cs : List Char} (hcs : charsOfUtf8 line = .ok cs)
    (hblank : isBlankLine cs = true) (s : Scan) (number : Nat) :
    s.takeLine number line = .ok s.endArticle := by
  simp only [takeLine, hcs, hblank, if_true]

/-- **A line is taken in if the open article is sound with it**, and then it belongs to it. -/
theorem takeLine_ofFields {line : List UInt8} {cs : List Char} (hcs : charsOfUtf8 line = .ok cs)
    (hblank : ¬isBlankLine cs = true) {b : Builder} {acc : List (List Char)}
    (hopen : Sound (fieldsOf acc.reverse)) {number : Nat} {s : Scan} :
    takeLine ⟨b, .ofFields (fieldsOf acc.reverse)⟩ number line = .ok s ↔
      Sound (fieldsOf (cs :: acc).reverse) ∧
      s = ⟨withAttributes b (fieldsOf [cs]), .ofFields (fieldsOf (cs :: acc).reverse)⟩ := by
  rw [List.reverse_cons, fieldsOf_append]
  cases hfield : field? (trimEnd cs) with
  | none =>
      rw [fieldsOf_singleton_of_none hfield, List.append_nil, and_iff_right hopen]
      simp only [takeLine, hcs, if_neg hblank, hfield]
      constructor
      · intro h
        exact (Except.ok.inj h).symm
      · rintro rfl
        rfl
  | some f =>
      have hline : takeLine ⟨b, .ofFields (fieldsOf acc.reverse)⟩ number line
          = takeField ⟨b, .ofFields (fieldsOf acc.reverse)⟩ number f := by
        simp only [takeLine, hcs, if_neg hblank, hfield]
      rw [hline, fieldsOf_singleton_of_some hfield, sound_append_singleton, and_iff_right hopen]
      exact takeField_ofFields

theorem takeLines_cons_of_ok {s s' : Scan} {number : Nat} {line : List UInt8}
    (h : s.takeLine (number + 1) line = .ok s') (lines : List (List UInt8)) :
    s.takeLines number (line :: lines) = s'.takeLines (number + 1) lines := by
  rw [takeLines, h]

theorem takeLines_cons_of_error {s : Scan} {number : Nat} {line : List UInt8} {e : Error}
    (h : s.takeLine (number + 1) line = .error e) (lines : List (List UInt8)) :
    s.takeLines number (line :: lines) = (s, some e) := by
  rw [takeLines, h]

/-- If there is no fault, all lines are texts. -/
theorem exists_texts_of_takeLines {s s' : Scan} {number : Nat} {lines : List (List UInt8)}
    (h : s.takeLines number lines = (s', none)) :
    ∃ texts, lines.mapM charsOfUtf8 = .ok texts := by
  induction lines generalizing s number with
  | nil => exact ⟨[], rfl⟩
  | cons line lines ih =>
      cases htake : s.takeLine (number + 1) line with
      | error e =>
          rw [takeLines_cons_of_error htake] at h
          cases (Prod.mk.inj h).2
      | ok next =>
          rw [takeLines_cons_of_ok htake] at h
          obtain ⟨texts, htexts⟩ := ih h
          cases hcs : charsOfUtf8 line with
          | error fault =>
              rw [takeLine, hcs] at htake
              cases htake
          | ok cs =>
              refine ⟨cs :: texts, ?_⟩
              rw [Except.mapM_eq_ok_iff] at htexts ⊢
              rw [List.map_cons, List.map_cons, hcs, htexts]

/-- **Reading line by line is reading by articles.** While the open article is that of the lines
`acc`, the last one first, the rest of the lines is read without a fault if all articles that it is
cut into are sound, the open one with it. Their entries are added in order, and the attributes. -/
theorem takeLines_ofFields {b : Builder} {acc texts : List (List Char)} {number : Nat}
    {lines : List (List UInt8)} {s : Scan} (htexts : lines.map charsOfUtf8 = texts.map .ok)
    (hopen : Sound (fieldsOf acc.reverse)) :
    takeLines ⟨b, .ofFields (fieldsOf acc.reverse)⟩ number lines = (s, none) ↔
      (∀ article ∈ texts.splitOnPPrepend isBlankLine acc, Sound (fieldsOf article)) ∧
      s = ⟨insertAll (withAttributes b (fieldsOf texts))
        (entriesOfAll (texts.splitOnPPrepend isBlankLine acc)), .empty⟩ := by
  -- Each line is put to the open article, and a blank one leaves the next article without any.
  induction texts generalizing b acc number lines with
  | nil =>
      obtain rfl := List.map_eq_nil_iff.1 htexts
      have hend : takeLines ⟨b, .ofFields (fieldsOf acc.reverse)⟩ number []
          = (⟨insertAll (withAttributes b (fieldsOf [])) (entriesOfAll [acc.reverse]), .empty⟩,
            none) := by
        rw [takeLines, endArticle, Article.insertInto_ofFields, entriesOfAll,
          List.flatMap_singleton]
        rfl
      rw [hend, Prod.mk.injEq]
      constructor
      · rintro ⟨rfl, -⟩
        exact ⟨List.forall_mem_singleton.2 hopen, rfl⟩
      · rintro ⟨-, rfl⟩
        exact ⟨rfl, rfl⟩
  | cons cs texts ih =>
      cases lines with
      | nil => simp at htexts
      | cons line lines =>
          rw [List.map_cons, List.map_cons] at htexts
          obtain ⟨hcs, htexts⟩ := List.cons.inj htexts
          have hfields : fieldsOf (cs :: texts) = fieldsOf [cs] ++ fieldsOf texts :=
            fieldsOf_append [cs] texts
          rw [List.splitOnPPrepend_cons_eq_if, hfields]
          by_cases hblank : isBlankLine cs = true
          · rw [takeLines_cons_of_ok (takeLine_of_blank hcs hblank _ _), endArticle,
              Article.insertInto_ofFields, if_pos hblank, List.forall_mem_cons, entriesOfAll_cons,
              insertAll_append, fieldsOf_of_isBlankLine hblank, List.nil_append,
              ← withAttributes_insertAll, and_iff_right hopen]
            exact @ih (insertAll b (entriesOf (fieldsOf acc.reverse))) [] _ _ htexts sound_nil
          · rw [if_neg hblank, withAttributes_append]
            by_cases hsound : Sound (fieldsOf (cs :: acc).reverse)
            · rw [takeLines_cons_of_ok ((takeLine_ofFields hcs hblank hopen).2 ⟨hsound, rfl⟩)]
              exact ih htexts hsound
            · -- Whatever comes later, the article that holds this line is not sound.
              refine iff_of_false (fun h => ?_) fun h => hsound (sound_of_splitOnPPrepend h.1)
              cases htake : takeLine ⟨b, .ofFields (fieldsOf acc.reverse)⟩ (number + 1) line with
              | error e =>
                  rw [takeLines_cons_of_error htake] at h
                  cases (Prod.mk.inj h).2
              | ok s' => exact hsound ((takeLine_ofFields hcs hblank hopen).1 htake).1

end Scan

/-- A dictionary that was built counts if it has all its attributes. -/
theorem Reading.dictionary_eq_ok_iff {r : Reading} {d : Dictionary} :
    r.dictionary = .ok d ↔ r.built = .ok d ∧ d.isAttributed = true := by
  rw [Reading.dictionary, Except.bind_eq_ok_iff]
  constructor
  · rintro ⟨d', hbuilt, h⟩
    by_cases hattributed : d'.isAttributed = true
    · rw [if_pos hattributed] at h
      obtain rfl := Except.ok.inj h
      exact ⟨hbuilt, hattributed⟩
    · rw [if_neg hattributed] at h
      cases h
  · rintro ⟨hbuilt, hattributed⟩
    exact ⟨d, hbuilt, if_pos hattributed⟩

/-- Something is built if there was no fault. -/
theorem built_read_eq_ok_iff {bytes : List UInt8} {d : Dictionary} :
    (read bytes).built = .ok d ↔
      ∃ s, Scan.start.takeLines 0 (linesOf 0x0A 0x0D bytes) = (s, none) ∧
        s.builder.build = .ok d := by
  rw [read]
  generalize Scan.start.takeLines 0 (linesOf 0x0A 0x0D bytes) = r
  obtain ⟨s, fault⟩ := r
  cases fault with
  | some e => simp
  | none => simp

/-- From the first line on, the open articles are those that the whole file is cut into. -/
theorem takeLines_linesOf {bytes : List UInt8} {lines : List (List Char)} {s : Scan}
    (hlines : (linesOf 0x0A 0x0D bytes).mapM charsOfUtf8 = .ok lines) :
    Scan.start.takeLines 0 (linesOf 0x0A 0x0D bytes) = (s, none) ↔
      (∀ article ∈ articlesOf lines, Sound article) ∧ s = ⟨ofLines lines, .empty⟩ := by
  -- Before the first line an article without fields is open.
  have hofFields := @Scan.takeLines_ofFields .empty [] lines 0 _ s
    (Except.mapM_eq_ok_iff.1 hlines) sound_nil
  rw [List.splitOnPPrepend_nil_right] at hofFields
  rw [articlesOf, List.forall_mem_map, ofLines, articlesOf, List.flatMap_map]
  exact hofFields

/-- **Dictionaries are read by their articles.** Reading a file gives a dictionary exactly if its
lines are texts, all morphemes in it are written as such and come after a lemma of their article, no
key holds the end mark of an index, and all attributes are given. It is the dictionary of the
entries of all articles, inserted in order, with the last attributes of the whole file. -/
theorem dictionary_read_eq_ok_iff {bytes : List UInt8} {d : Dictionary} :
    (read bytes).dictionary = .ok d ↔
      ∃ lines, (linesOf 0x0A 0x0D bytes).mapM charsOfUtf8 = .ok lines ∧
        (∀ article ∈ articlesOf lines, Sound article) ∧
        (ofLines lines).build = .ok d ∧ d.isAttributed = true := by
  rw [Reading.dictionary_eq_ok_iff, built_read_eq_ok_iff]
  constructor
  · rintro ⟨⟨s, hread, hbuild⟩, hattributed⟩
    obtain ⟨lines, hlines⟩ := Scan.exists_texts_of_takeLines hread
    obtain ⟨hsound, rfl⟩ := (takeLines_linesOf hlines).1 hread
    exact ⟨lines, hlines, hsound, hbuild, hattributed⟩
  · rintro ⟨lines, hlines, hsound, hbuild, hattributed⟩
    exact ⟨⟨_, (takeLines_linesOf hlines).2 ⟨hsound, rfl⟩, hbuild⟩, hattributed⟩

/-- Fields count wherever they stand in their article. -/
example :
    let bytes := utf8 ("\\ge neck\n\\lx Kà-n\n\\mm kà:n:earth\n\\ps n/v\n\\ps adj\n\\name M\n \n"
      ++ "\\lx -w\n\\ps mrph\n\n\\lang bam\n\\ver 1")
    let neck : Gloss := ⟨"Kà-n", .ofList ["n", "v"], "neck", [⟨"kà", .ofList ["n"], "earth", []⟩]⟩
    (read bytes).dictionary.toOption.map (·.entries)
      = some [("kan", [neck]), ("ka\u0300n", [neck])] := by
  decide +kernel

end Interlinear.Toolbox
