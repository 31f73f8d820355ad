import Interlinear.Proofs.Analysis.Composition
import Interlinear.Proofs.Dictionary.Merging
import Interlinear.Proofs.Dictionary.Content
import Interlinear.Proofs.Text.ToneAlike

set_option autoImplicit false

/-! # Finding words with and without tones

A dictionary of a tone language lists a word under its spelling and, as an alias, under the spelling
without tones. One may ask for either. A text without tones finds all words that are spelled so
without tones; a text with tones finds the words that are spelled like that. Neither finds a word
twice: an alias has no tones, so it is never the spelling of a word that has an alias itself
(`Builder.lookup_of_aliasing`).

An analyzer for which tones do not count leaves them out of every word before it asks, and so finds
the entries whose keys are alike up to tones. -/

namespace Interlinear

open Text

/-- What a dictionary says to a text that some glosses are found for. -/
def Dictionary.answer (form : String) (glosses : List Gloss) : Except Error (List Gloss) :=
  if glosses.isEmpty then .error (.notFound form) else .ok glosses

namespace Builder

/-- A dictionary answers with the glosses inserted under a text. -/
theorem lookup_dictionary {b : Builder} {form : String} (h : Index.Unmarked form) :
    b.dictionary.lookup form = Dictionary.answer form (b.glossesOf form) := by
  rw [Dictionary.lookup, find?_dictionary b h, Dictionary.answer, some?]
  cases (b.glossesOf form).isEmpty with
  | true => rfl
  | false => rfl

/-! ## Calls that give aliases -/

namespace Call

/-- A call that inserts nothing but a key without the end mark together with its alias. -/
def Aliases : Call → Prop
  | .insert _ _ => False
  | .insertToneless key _ => Index.Unmarked key
  | .setLang _ | .setName _ | .setVer _ => True

instance : DecidablePred Aliases
  | .insert _ _ => .isFalse id
  | .insertToneless key _ => inferInstanceAs (Decidable (Index.Unmarked key))
  | .setLang _ | .setName _ | .setVer _ => .isTrue trivial

/-- The gloss of a call that gives an alias to a key of some kind. -/
def glossWhere (p : String → Prop) [DecidablePred p] : Call → Option Gloss
  | .insertToneless key gloss => if p key then some gloss else none
  | _ => none

theorem glossesUnder_pairOf {q : String} (hq : q ≠ "") (key : String) (gloss : Gloss) :
    glossesUnder (pairOf key gloss) q = if key = q then [gloss] else [] := by
  rw [pairOf]
  split
  next hempty =>
    have hne : key ≠ q := fun h => hq (h.symm.trans (String.isEmpty_iff.1 hempty))
    exact (if_neg hne).symm
  next => exact glossesUnder_singleton (key, gloss) q

/-- Under a text without tones stand the glosses of the keys that are so spelled without tones. -/
theorem glossesUnder_pairs_of_toneless {c : Call} (hc : c.Aliases) {q : String} (hq : q ≠ "")
    (hplain : toneless q = q) :
    glossesUnder c.pairs q = (c.glossWhere (toneless · = q)).toList := by
  cases c with
  | setLang | setName | setVer => rfl
  | insert key gloss => exact hc.elim
  | insertToneless key gloss =>
      rw [pairs, glossWhere]
      by_cases hkey : toneless key = key
      · -- The key is its own alias, and is inserted once.
        rw [if_pos hkey, List.nil_append, glossesUnder_pairOf hq, hkey]
        split
        · rfl
        · rfl
      · have hne : key ≠ q := by
          rintro rfl
          exact hkey hplain
        rw [if_neg hkey, glossesUnder_append, glossesUnder_pairOf hq, glossesUnder_pairOf hq,
          if_neg hne, List.append_nil]
        split
        · rfl
        · rfl

/-- Under a text with tones stand the glosses of the keys so spelled. -/
theorem glossesUnder_pairs_of_toned {c : Call} (hc : c.Aliases) {q : String} (hq : q ≠ "")
    (htoned : toneless q ≠ q) :
    glossesUnder c.pairs q = (c.glossWhere (· = q)).toList := by
  cases c with
  | setLang | setName | setVer => rfl
  | insert key gloss => exact hc.elim
  | insertToneless key gloss =>
      have halias : toneless key ≠ q := by
        rintro rfl
        exact htoned (toneless_toneless key)
      have hplain : glossesUnder (if toneless key = key then [] else pairOf (toneless key) gloss) q
          = [] := by
        split
        · rfl
        · rw [glossesUnder_pairOf hq, if_neg halias]
      rw [pairs, glossWhere, glossesUnder_append, hplain, List.nil_append, glossesUnder_pairOf hq]
      split
      · rfl
      · rfl

end Call

/-- The glosses of the calls that give aliases to keys of some kind, in the order of the calls. -/
def glossesWhere (calls : List Call) (p : String → Prop) [DecidablePred p] : List Gloss :=
  calls.filterMap (Call.glossWhere p)

variable {calls : List Call}

/-- What holds of the pairs of each call holds of those of all calls. -/
theorem glossesOf_ofCalls {q : String} {p : String → Prop} [DecidablePred p]
    (h : ∀ c ∈ calls, glossesUnder c.pairs q = (c.glossWhere p).toList) :
    (ofCalls calls).glossesOf q = glossesWhere calls p := by
  rw [glossesOf, pairs_ofCalls]
  induction calls with
  | nil => rfl
  | cons c calls ih =>
      rw [List.flatMap_cons, glossesUnder_append, h c List.mem_cons_self,
        ih fun d hd => h d (List.mem_cons_of_mem _ hd), glossesWhere, glossesWhere,
        List.filterMap_cons]
      cases c.glossWhere p with
      | none => rfl
      | some g => rfl

theorem glossesOf_of_toneless (h : ∀ c ∈ calls, c.Aliases) {q : String} (hq : q ≠ "")
    (hplain : toneless q = q) :
    (ofCalls calls).glossesOf q = glossesWhere calls (toneless · = q) :=
  glossesOf_ofCalls fun c hc => c.glossesUnder_pairs_of_toneless (h c hc) hq hplain

theorem glossesOf_of_toned (h : ∀ c ∈ calls, c.Aliases) {q : String} (hq : q ≠ "")
    (htoned : toneless q ≠ q) :
    (ofCalls calls).glossesOf q = glossesWhere calls (· = q) :=
  glossesOf_ofCalls fun c hc => c.glossesUnder_pairs_of_toned (h c hc) hq htoned

/-- A dictionary is built by calls that give aliases. -/
theorem build_of_aliases (h : ∀ c ∈ calls, c.Aliases) :
    (ofCalls calls).build = .ok (ofCalls calls).dictionary := by
  refine build_eq_ok ((unmarked_ofCalls_iff calls).2 fun c hc key hkey _ => ?_)
  have halias := h c hc
  cases c with
  | setLang | setName | setVer => cases hkey
  | insert key' gloss => exact halias.elim
  | insertToneless key' gloss =>
      obtain rfl := Option.some.inj hkey
      exact halias

/-- The glosses of the keys that are alike up to tones are found without the tones. -/
theorem find?_toneless (h : ∀ c ∈ calls, c.Aliases) {d : Dictionary}
    (hd : (ofCalls calls).build = .ok d) {word : String} (hword : Index.Unmarked word)
    (hne : toneless word ≠ "") :
    (d.find? (toneless word)).getD [] = glossesWhere calls (ToneAlike · word) := by
  obtain rfl := (of_build_eq_ok hd).1
  rw [find?_dictionary _ hword.toneless, getD_some?,
    glossesOf_of_toneless h hne (toneless_toneless word)]
  simp only [toneAlike_iff]

end Builder

namespace Analyzer

/-- An analyzer finds what the dictionaries list under the key of a word. -/
theorem lookup_ofForm (a : Analyzer) (word : String) :
    a.lookup (.ofForm word) = a.union.glosses (a.key word) := by
  rw [lookup, if_neg (by simp [Gloss.isResolved_ofForm])]
  show a.entries (.ofForm word) = _
  refine List.filter_eq_self.2 fun g _ => ?_
  show g.satisfies ⟨"", .empty, "", []⟩ = true
  rw [satisfies_tags, TagSet.compatible, Bool.or_eq_true, Bool.or_eq_true]
  exact .inl (.inr rfl)

end Analyzer

namespace Builder

/-- **Words are found with and without tones.** If every key that is inserted is given an alias, the
dictionary answers to a text without tones with the glosses of all keys that are so spelled without
tones, and to a text with tones with the glosses of the keys so spelled. An analyzer for which tones
do not count finds, in such dictionaries, the glosses of all keys that are like a word up to
tones. -/
theorem lookup_of_aliasing :
    (∀ calls : List Call, (∀ c ∈ calls, c.Aliases) →
      ∃ d, (ofCalls calls).build = .ok d ∧ ∀ q, q ≠ "" → Index.Unmarked q →
        (toneless q = q →
          d.lookup q = Dictionary.answer q (glossesWhere calls (toneless · = q))) ∧
        (toneless q ≠ q → d.lookup q = Dictionary.answer q (glossesWhere calls (· = q)))) ∧
    ∀ (a : Analyzer) (history : Dictionary → List Call), a.toneless = true →
      (∀ d ∈ a.union.members,
        (∀ c ∈ history d, c.Aliases) ∧ (ofCalls (history d)).build = .ok d) →
      ∀ word, Index.Unmarked word → toneless word ≠ "" →
        a.lookup (.ofForm word)
          = a.union.members.flatMap fun d => glossesWhere (history d) (ToneAlike · word) := by
  constructor
  · intro calls h
    refine ⟨_, build_of_aliases h, fun q hq hunmarked => ⟨fun hplain => ?_, fun htoned => ?_⟩⟩
    · rw [lookup_dictionary hunmarked, glossesOf_of_toneless h hq hplain]
    · rw [lookup_dictionary hunmarked, glossesOf_of_toned h hq htoned]
  · intro a history htoneless hbuilt word hword hne
    rw [Analyzer.lookup_ofForm, Analyzer.key, if_pos htoneless, Union.glosses]
    refine List.flatMap_congr fun d hd => ?_
    obtain ⟨haliases, hd⟩ := hbuilt d hd
    exact find?_toneless haliases hd hword hne

/-- Calls for two words that differ in tone only, one of them spelled with a composed character. -/
def tonal : List Call :=
  [.setLang "bam", .insertToneless "b\u00E1" ⟨"b\u00E1", .ofList ["n"], "goat", []⟩,
    .insertToneless "ba\u0300" ⟨"ba\u0300", .ofList ["n"], "river", []⟩]

theorem lookup_of_aliasing_tonal :
    ∃ d, (ofCalls tonal).build = .ok d ∧
      d.lookup "ba" = .ok [⟨"b\u00E1", .ofList ["n"], "goat", []⟩,
        ⟨"ba\u0300", .ofList ["n"], "river", []⟩] ∧
      d.lookup "b\u00E1" = .ok [⟨"b\u00E1", .ofList ["n"], "goat", []⟩] ∧
      d.lookup "ba\u0301" = .error (.notFound "ba\u0301") ∧
      Analyzer.lookup ⟨.single d, [], true⟩ (.ofForm "ba\u0301")
        = [⟨"b\u00E1", .ofList ["n"], "goat", []⟩, ⟨"ba\u0300", .ofList ["n"], "river", []⟩] := by
  obtain ⟨hdictionaries, hanalyzers⟩ := lookup_of_aliasing
  obtain ⟨d, hd, hlookup⟩ := hdictionaries tonal (by decide)
  refine ⟨d, hd, ?_, ?_, ?_, ?_⟩
  · have hplain : glossesWhere tonal (toneless · = "ba")
        = [⟨"b\u00E1", .ofList ["n"], "goat", []⟩, ⟨"ba\u0300", .ofList ["n"], "river", []⟩] := by
      decide +kernel
    rw [(hlookup "ba" (by decide) (by decide)).1 (by decide +kernel), hplain]
    rfl
  · have htoned : glossesWhere tonal (· = "b\u00E1")
        = [⟨"b\u00E1", .ofList ["n"], "goat", []⟩] := by
      decide +kernel
    rw [(hlookup "b\u00E1" (by decide) (by decide)).2 (by decide +kernel), htoned]
    rfl
  · have hnone : glossesWhere tonal (· = "ba\u0301") = [] := by decide +kernel
    rw [(hlookup "ba\u0301" (by decide) (by decide)).2 (by decide +kernel), hnone]
    rfl
  · rw [hanalyzers ⟨.single d, [], true⟩ (fun _ => tonal) rfl
      (fun e he => ⟨by decide, by rwa [List.mem_singleton.1 he]⟩) "ba\u0301" (by decide)
      (by decide +kernel)]
    show [d].flatMap _ = _
    rw [List.flatMap_singleton]
    decide +kernel

end Builder

end Interlinear
