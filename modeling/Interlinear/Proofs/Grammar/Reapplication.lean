import Interlinear.Analysis.Analyzer
import Interlinear.Proofs.Except
import Interlinear.Proofs.Gloss.Marks
import Interlinear.Proofs.Gloss.Unification
import Interlinear.Proofs.Grammar.Forms

set_option autoImplicit false

/-! # Patterns applied again

A pattern narrows a candidate down to what its template asks for, makes or narrows down its
morphemes in the same way, and writes its marks over the result. What was narrowed down has all that
was asked for (`Gloss.Has`), so to ask again changes nothing. Only the marks can: they may
contradict the template, and then the pattern rejects its own result, or they are there after the
second time as after the first (`CompiledPattern.apply_stable`).

A candidate without morphemes is cut into pieces, and of one with morphemes these are unified with
the templates. The two ways meet: pieces about which nothing is known become by unification what
the templates make of them (`CompiledPattern.apply_pieces`). -/

namespace Interlinear

namespace Gloss

/-! ## Having all that is asked for -/

/-- A gloss has all of a template: unification with it changes nothing. -/
def Has (g t : Gloss) : Prop := g.unify? t = some g

/-- What a gloss was unified with adds nothing to the result. -/
theorem has_of_unify? {g t h : Gloss} (hu : g.unify? t = some h) : h.Has t := by
  have hrotate := unify?_rotate g t t
  rw [hu, unify?_self, Option.bind_some, Option.bind_some, unify?_comm t, hu] at hrotate
  exact hrotate

theorem unify?_ofForm {piece : String} {t : Gloss} (h : t.form = piece) :
    (ofForm piece).unify? t = some t := by
  have htext : unifyText? piece t.form = some t.form := by rw [h, unifyText?_self]
  exact unify?_eq_some_iff.2 ⟨htext, rfl, rfl, rfl⟩

/-! ## Asking again after marks -/

/-- A value that has what is asked for and is then written over: where no mark is written, to ask
again changes nothing, and where one is, the same mark is written again. -/
theorem written_again {α : Type} {isEmpty : α → Bool} {unify? : α → α → Option α} {a t mark z : α}
    (ha : unify? a t = some a) (hz : unify? (if isEmpty mark then a else mark) t = some z) :
    (if isEmpty mark then z else mark) = if isEmpty mark then a else mark := by
  by_cases h : isEmpty mark
  · rw [if_pos h] at hz
    rw [if_pos h, if_pos h, Option.some.inj (hz.symm.trans ha)]
  · rw [if_neg h, if_neg h]

/-- A gloss that has all of a template is given morphemes and marks, and is then unified with the
template. If marks bring back the morphemes, they bring back all. -/
theorem overlay_withMorphemes_of_unify? {g t mark h : Gloss} {ms ms' : List Gloss} (hg : g.Has t)
    (hu : ((g.withMorphemes ms).overlay mark).unify? t = some h)
    (hms : overlayMorphemes ms' mark.morphemes = overlayMorphemes ms mark.morphemes) :
    (h.withMorphemes ms').overlay mark = (g.withMorphemes ms).overlay mark := by
  obtain ⟨hform, hmeaning, htags, -⟩ := unify?_eq_some_iff.1 hg
  rw [overlay_eq] at hu
  obtain ⟨hform', hmeaning', htags', -⟩ := unify?_eq_some_iff.1 hu
  have hforms : h.form = g.form := Option.some.inj (hform'.symm.trans hform)
  have hmeanings := written_again hmeaning hmeaning'
  have htagss := written_again htags htags'
  rw [overlay_eq, overlay_eq]
  show Gloss.mk h.form (if mark.tags.isEmpty then h.tags else mark.tags)
      (if mark.meaning.isEmpty then h.meaning else mark.meaning)
      (overlayMorphemes ms' mark.morphemes) = _
  rw [hforms, hmeanings, htagss, hms]
  rfl

/-- Unification with a template without morphemes leaves the morphemes alone. -/
theorem morphemes_of_unify? {g t h : Gloss} (ht : t.morphemes = []) (hu : g.unify? t = some h) :
    h.morphemes = g.morphemes := by
  obtain ⟨-, -, -, hmorphemes⟩ := unify?_eq_some_iff.1 hu
  have hkept : unifyMorphemes? g.morphemes t.morphemes = some g.morphemes :=
    whereGiven_empty morphemes_eq_of_isEmpty (by rw [ht]; rfl)
  exact Option.some.inj (hmorphemes.symm.trans hkept)

/-- The case without morphemes of its own: those of the gloss are kept, under the marks. -/
theorem overlay_of_unify?_overlay {g t mark h : Gloss} (hg : g.Has t) (ht : t.morphemes = [])
    (hu : (g.overlay mark).unify? t = some h) : h.overlay mark = g.overlay mark := by
  have hmorphemes : h.morphemes = overlayMorphemes g.morphemes mark.morphemes := by
    rw [morphemes_of_unify? ht hu, overlay_eq]
  have hsame : ((g.withMorphemes g.morphemes).overlay mark).unify? t = some h := by
    rw [withMorphemes_self, hu]
  have hmarks : overlayMorphemes h.morphemes mark.morphemes
      = overlayMorphemes g.morphemes mark.morphemes := by
    rw [hmorphemes, overlayMorphemes_again (overlayAll_overlayAll g.morphemes mark.morphemes)]
  have hagain := overlay_withMorphemes_of_unify? hg hsame hmarks
  rwa [withMorphemes_self, withMorphemes_self] at hagain

end Gloss

/-! ## Morphemes -/

namespace CompiledPattern

variable {p : CompiledPattern}

theorem presplit?_eq_some_iff {ms ms' : List Gloss} :
    p.presplit? ms = some ms' ↔
      ∀ i, ms[i]?.map (fun m => (p.morpheme? i m.form).bind m.unify?) = ms'[i]?.map some :=
  List.mapIdx_mapM_id_eq_some_iff

/-- Pieces about which nothing is known become what the templates make of them. -/
theorem presplit?_ofForm (p : CompiledPattern) (pieces : List String) :
    p.presplit? (pieces.map Gloss.ofForm) = p.morphemes? pieces := by
  have hpiece : ∀ i piece, (p.morpheme? i piece).bind (Gloss.ofForm piece).unify?
      = p.morpheme? i piece := by
    intro i piece
    cases h : p.morpheme? i piece with
    | none => rfl
    | some t => exact Gloss.unify?_ofForm (form_of_morpheme? h).1
  have hpieces : (pieces.map Gloss.ofForm).mapIdx
        (fun i m => (p.morpheme? i m.form).bind m.unify?)
      = pieces.mapIdx fun i piece => p.morpheme? i piece := by
    refine List.ext_getElem? fun i => ?_
    rw [List.getElem?_mapIdx, List.getElem?_mapIdx, List.getElem?_map, Option.map_map]
    exact congrArg (Option.map · pieces[i]?) (funext (hpiece i))
  rw [presplit?, hpieces, morphemes?]

/-- What a template makes of the form of a morpheme, and the morpheme unified with it. -/
theorem exists_template_of_presplit? {ms ms' : List Gloss} (h : p.presplit? ms = some ms') {i : Nat}
    {m : Gloss} (hm : ms[i]? = some m) :
    ∃ t m', p.morpheme? i m.form = some t ∧ m.unify? t = some m' ∧ ms'[i]? = some m' := by
  have hi := presplit?_eq_some_iff.1 h i
  rw [hm, Option.map_some] at hi
  obtain ⟨m', hm', hsome⟩ := Option.map_eq_some_iff.1 hi.symm
  obtain ⟨t, ht, hu⟩ := Option.bind_eq_some_iff.1 hsome.symm
  exact ⟨t, m', ht, hu, hm'⟩

theorem length_of_presplit? {ms ms' : List Gloss} (h : p.presplit? ms = some ms') :
    ms'.length = ms.length := by
  have hlen := congrArg List.length (map_form_of_presplit? h)
  rwa [List.length_map, List.length_map] at hlen

/-- Morphemes that were unified with what the templates make of them have all of it. -/
theorem presplit?_of_presplit? {ms ms' : List Gloss} (h : p.presplit? ms = some ms') :
    p.presplit? ms' = some ms' := by
  refine presplit?_eq_some_iff.2 fun i => ?_
  cases hm : ms[i]? with
  | none =>
      have hlen := length_of_presplit? h
      rw [List.getElem?_eq_none_iff] at hm
      rw [List.getElem?_eq_none (by omega), Option.map_none, Option.map_none]
  | some m =>
      obtain ⟨t, m', ht, hu, hm'⟩ := exists_template_of_presplit? h hm
      obtain ⟨hform, hnil⟩ := form_of_morpheme? ht
      have hforms : m'.form = m.form :=
        (List.cons.inj (Gloss.forms_of_unify? (Or.inr hform) hnil hu)).1
      have hhas : m'.unify? t = some m' := Gloss.has_of_unify? hu
      rw [hm', Option.map_some, Option.map_some, hforms, ht, Option.bind_some, hhas]

/-- Morphemes that have all that the templates make of them are marked and unified again. Under the
marks they are the same. -/
theorem overlayMorphemes_of_presplit? {ms ms' marks : List Gloss}
    (hms : p.presplit? ms = some ms)
    (h : p.presplit? (Gloss.overlayMorphemes ms marks) = some ms') :
    Gloss.overlayMorphemes ms' marks = Gloss.overlayMorphemes ms marks := by
  have hlen' := length_of_presplit? h
  rw [Gloss.length_overlayMorphemes] at hlen'
  by_cases hlen : marks.length = ms.length
  · rw [Gloss.overlayMorphemes, if_pos hlen, Gloss.overlayAll_eq_zipWith hlen] at h
    rw [Gloss.overlayMorphemes, if_pos (hlen.trans hlen'.symm), Gloss.overlayMorphemes,
      if_pos hlen, Gloss.overlayAll_eq_zipWith hlen,
      Gloss.overlayAll_eq_zipWith (hlen.trans hlen'.symm)]
    refine List.ext_getElem? fun i => ?_
    cases hm : ms[i]? with
    | none =>
        have hout := List.getElem?_eq_none_iff.1 hm
        rw [List.getElem?_zipWith, List.getElem?_zipWith, hm, List.getElem?_eq_none (by omega)]
    | some m =>
        obtain ⟨t, m₁, ht, hu, hm₁⟩ := exists_template_of_presplit? hms hm
        obtain rfl := Option.some.inj (hm₁.symm.trans hm)
        obtain ⟨hin, -⟩ := List.getElem?_eq_some_iff.1 hm
        obtain ⟨mark, hmark⟩ : ∃ mark, marks[i]? = some mark :=
          ⟨_, List.getElem?_eq_getElem (by omega)⟩
        have hmarked : (List.zipWith Gloss.overlay ms marks)[i]? = some (m₁.overlay mark) := by
          rw [List.getElem?_zipWith, hm, hmark]
        obtain ⟨t', m', ht', hu', hm'⟩ := exists_template_of_presplit? h hmarked
        -- The form is the same, so the template makes the same of it.
        rw [Gloss.form_overlay, ht] at ht'
        obtain rfl := Option.some.inj ht'
        have hagain := Gloss.overlay_of_unify?_overlay hu (form_of_morpheme? ht).2 hu'
        rw [hmarked, List.getElem?_zipWith, hm', hmark]
        exact congrArg some hagain
  · rw [Gloss.overlayMorphemes, if_neg hlen] at h
    rw [Option.some.inj (h.symm.trans hms)]

/-! ## Candidates -/

/-- The morphemes that the templates make of a candidate, or make of those it has. -/
def parts? (p : CompiledPattern) (split : Regex) (g : Gloss) : Option (List Gloss) :=
  if g.morphemes.isEmpty then (p.pieces? split g.form).bind p.morphemes?
  else if g.morphemes.length = p.arity then p.presplit? g.morphemes
  else none

/-- What a pattern makes of a candidate: narrowed down, with the parts if the template asks for any,
and marked. -/
theorem result?_eq_some_iff {g r : Gloss} :
    p.result? g = some r ↔ ∃ m narrowed, p.matcher? = some m ∧ p.restrict? g = some narrowed ∧
      ((m.split = none ∧ r = p.marked narrowed) ∨
        ∃ split ms, m.split = some split ∧ p.parts? split g = some ms ∧
          r = p.marked (narrowed.withMorphemes ms)) := by
  have hresult : p.result? g = p.matcher?.bind fun m => (p.restrict? g).bind fun narrowed =>
      m.split.elim (some (p.marked narrowed)) fun split =>
        (p.parts? split g).map fun ms => p.marked (narrowed.withMorphemes ms) := by
    rw [result?]
    refine Option.bind_congr fun m _ => Option.bind_congr fun narrowed _ => ?_
    cases m.split with
    | none => rfl
    | some split =>
        show (if g.morphemes.isEmpty then _ else _) = _
        rw [Option.elim_some, parts?]
        split
        · rw [Option.map_eq_bind, Option.bind_assoc]
          rfl
        · split
          · rw [Option.map_eq_bind]
            rfl
          · rfl
  rw [hresult]
  constructor
  · intro h
    obtain ⟨m, hm, h⟩ := Option.bind_eq_some_iff.1 h
    obtain ⟨narrowed, hnarrowed, h⟩ := Option.bind_eq_some_iff.1 h
    refine ⟨m, narrowed, hm, hnarrowed, ?_⟩
    cases hsplit : m.split with
    | none =>
        rw [hsplit] at h
        exact Or.inl ⟨rfl, (Option.some.inj h).symm⟩
    | some split =>
        rw [hsplit] at h
        obtain ⟨ms, hms, hr⟩ := Option.map_eq_some_iff.1 h
        exact Or.inr ⟨split, ms, rfl, hms, hr.symm⟩
  · rintro ⟨m, narrowed, hm, hnarrowed, ⟨hsplit, rfl⟩ | ⟨split, ms, hsplit, hms, rfl⟩⟩
    · rw [hm, hnarrowed, Option.bind_some, Option.bind_some, hsplit, Option.elim_none]
    · rw [hm, hnarrowed, Option.bind_some, Option.bind_some, hsplit]
      exact Option.map_eq_some_iff.2 ⟨ms, hms, rfl⟩

theorem restrict?_eq_some_iff {g h : Gloss} :
    p.restrict? g = some h ↔
      ∃ m, p.matcher? = some m ∧ admits m.form g.form = true ∧ g.unify? p.constraint = some h := by
  rw [restrict?]
  constructor
  · intro hr
    obtain ⟨m, hm, hr⟩ := Option.bind_eq_some_iff.1 hr
    split at hr
    next hadmits => exact ⟨m, hm, hadmits, hr⟩
    next => contradiction
  · rintro ⟨m, hm, hadmits, hu⟩
    rw [hm]
    exact (if_pos hadmits).trans hu

/-- There are as many pieces as the pattern asks for morphemes. -/
theorem length_of_pieces? {split : Regex} {form : String} {pieces : List String}
    (h : p.pieces? split form = some pieces) : pieces.length = p.arity := by
  obtain ⟨found, -, h⟩ := Option.bind_eq_some_iff.1 h
  have hlen := congrArg List.length (List.mapM_eq_some_iff.1 h)
  rwa [List.length_map, List.length_map, List.length_range, eq_comm] at hlen

theorem length_of_morphemes? {pieces : List String} {ms : List Gloss}
    (h : p.morphemes? pieces = some ms) : ms.length = pieces.length := by
  rw [← map_form_of_morphemes? h, List.length_map]

/-- A candidate gets as many parts as the pattern asks for, and they have all that the templates ask
for. -/
theorem of_parts? {split : Regex} {g : Gloss} {ms : List Gloss} (h : p.parts? split g = some ms) :
    ms.length = p.arity ∧ p.presplit? ms = some ms := by
  rw [parts?] at h
  split at h
  · obtain ⟨pieces, hpieces, hms⟩ := Option.bind_eq_some_iff.1 h
    refine ⟨(length_of_morphemes? hms).trans (length_of_pieces? hpieces), ?_⟩
    rw [← presplit?_ofForm] at hms
    exact presplit?_of_presplit? hms
  · split at h
    next hlen => exact ⟨(length_of_presplit? h).trans hlen, presplit?_of_presplit? h⟩
    next => contradiction

theorem parts?_of_ne_nil {split : Regex} {g : Gloss} {ms : List Gloss} (hg : g.morphemes ≠ [])
    (h : p.parts? split g = some ms) : p.presplit? g.morphemes = some ms := by
  rw [parts?, if_neg (by simpa using hg)] at h
  split at h
  · exact h
  · contradiction

/-! ## Applying a pattern twice -/

/-- Whatever a pattern makes of its own result is that result. -/
theorem eq_of_result?_twice {g r r' : Gloss} (h : p.result? g = some r)
    (h' : p.result? r = some r') : r' = r := by
  obtain ⟨m, narrowed, hm, hnarrowed, hmade⟩ := result?_eq_some_iff.1 h
  obtain ⟨m', narrowed', hm', hnarrowed', hmade'⟩ := result?_eq_some_iff.1 h'
  obtain rfl := Option.some.inj (hm'.symm.trans hm)
  obtain ⟨-, -, -, hu⟩ := restrict?_eq_some_iff.1 hnarrowed
  obtain ⟨-, -, -, hu'⟩ := restrict?_eq_some_iff.1 hnarrowed'
  have hhas : narrowed.Has p.constraint := Gloss.has_of_unify? hu
  -- The matcher is the same both times, so the candidate is given morphemes both times or never.
  rcases hmade with ⟨hsplit, rfl⟩ | ⟨split, ms, hsplit, hms, rfl⟩
  · rcases hmade' with ⟨-, rfl⟩ | ⟨split', -, hsplit', -⟩
    · exact Gloss.overlay_of_unify?_overlay hhas rfl hu'
    · rw [hsplit] at hsplit'
      contradiction
  · rcases hmade' with ⟨hsplit', -⟩ | ⟨split', ms', hsplit', hms', rfl⟩
    · rw [hsplit] at hsplit'
      contradiction
    · refine Gloss.overlay_withMorphemes_of_unify? hhas hu' ?_
      obtain ⟨hlen, hfits⟩ := of_parts? hms
      obtain ⟨hlen', -⟩ := of_parts? hms'
      have hmorphemes : (p.marked (narrowed.withMorphemes ms)).morphemes
          = Gloss.overlayMorphemes ms p.pattern.mark.morphemes := by
        rw [marked, Gloss.overlay_eq]
        rfl
      by_cases hnil : ms = []
      · -- A pattern for no morphemes makes none, and there is nothing to mark.
        rw [hnil, List.length_nil] at hlen
        rw [hnil, List.length_eq_zero_iff.1 (hlen'.trans hlen.symm)]
      · have hne : (p.marked (narrowed.withMorphemes ms)).morphemes ≠ [] := by
          rw [hmorphemes, ← List.length_pos_iff, Gloss.length_overlayMorphemes]
          exact List.length_pos_iff.2 hnil
        have hagain := parts?_of_ne_nil hne hms'
        rw [hmorphemes] at hagain
        exact overlayMorphemes_of_presplit? hfits hagain

theorem apply_eq_ok_iff {g r : Gloss} : p.apply g = .ok r ↔ p.result? g = some r := by
  rw [apply]
  cases p.result? g with
  | none => simp
  | some _ => simp

end CompiledPattern

/-- The candidates that a stage with one pattern makes of one: its result, or the candidate itself
if there is none. -/
theorem Analyzer.applyTo_parse (a : Analyzer) (p : CompiledPattern) (candidates : List Gloss) :
    a.applyTo (.parallel .parse [p]) candidates
      = candidates.map fun g => (p.result? g).getD g := by
  rw [applyTo, List.map_eq_flatMap]
  refine congrArg (List.flatMap · candidates) (funext fun g => ?_)
  rw [transform, List.flatMap_cons, List.flatMap_nil, List.append_nil, act, parse]
  cases p.result? g with
  | none => rfl
  | some r => rfl

namespace CompiledPattern

/-- **Patterns are stable.** If a pattern can be applied to its own result, the result stays what it
is. So a stage that is carried out a second time with the pattern changes no candidates. -/
theorem apply_stable (pattern : Pattern) :
    (∀ g r r', (ofPattern pattern).apply g = .ok r → (ofPattern pattern).apply r = .ok r' →
      r' = r) ∧
    ∀ (a : Analyzer) (candidates : List Gloss),
      let once := a.applyTo (.parallel .parse [ofPattern pattern]) candidates
      a.applyTo (.parallel .parse [ofPattern pattern]) once = once := by
  have hstable : ∀ g r r', (ofPattern pattern).result? g = some r →
      (ofPattern pattern).result? r = some r' → r' = r :=
    fun _ _ _ h h' => eq_of_result?_twice h h'
  refine ⟨fun g r r' h h' => hstable g r r' (apply_eq_ok_iff.1 h) (apply_eq_ok_iff.1 h'), ?_⟩
  intro a candidates
  dsimp only
  rw [a.applyTo_parse, a.applyTo_parse, List.map_map]
  refine List.map_congr_left fun g _ => ?_
  rw [Function.comp_apply]
  cases h : (ofPattern pattern).result? g with
  | none => rw [Option.getD_none, h, Option.getD_none]
  | some r =>
      rw [Option.getD_some]
      cases h' : (ofPattern pattern).result? r with
      | none => rw [Option.getD_none]
      | some r' => rw [Option.getD_some, hstable g r r' h h']

/-- Takes a noun that ends in w for a plural. -/
def plural : Pattern where
  select := ⟨"", .ofList ["n"], "", [.empty, .ofForm "w"]⟩
  mark := ⟨"", .ofList ["n", "pl"], "", [.empty, ⟨"", .ofList ["mrph"], "PL", []⟩]⟩

/-- What it makes of a word about which nothing is known. -/
def women : Gloss :=
  ⟨"musow", .ofList ["n", "pl"], "", [.ofForm "muso", ⟨"w", .ofList ["mrph"], "PL", []⟩]⟩

theorem result?_plural : (ofPattern plural).result? (.ofForm "musow") = some women := by
  decide +kernel

/-- In between, the tags go down to those that the template asks for. -/
theorem apply_stable_women :
    (ofPattern plural).apply (.ofForm "musow") = .ok women ∧
    ∃ r, (ofPattern plural).apply women = .ok r ∧ r = women := by
  have honce : (ofPattern plural).apply (.ofForm "musow") = .ok women :=
    apply_eq_ok_iff.2 result?_plural
  have htwice : ((ofPattern plural).result? women).isSome := by decide +kernel
  obtain ⟨r, hr⟩ := Option.isSome_iff_exists.1 htwice
  have hr := apply_eq_ok_iff.2 hr
  exact ⟨honce, r, hr, (apply_stable plural).1 _ _ _ honce hr⟩

/-! ## Pieces as morphemes -/

/-- To narrow down a candidate is not to look at its morphemes. -/
theorem restrict?_withMorphemes {p : CompiledPattern} {g h : Gloss} (hr : p.restrict? g = some h)
    (ms : List Gloss) :
    p.restrict? (g.withMorphemes ms) = some (h.withMorphemes ms) := by
  obtain ⟨m, hm, hadmits, hu⟩ := restrict?_eq_some_iff.1 hr
  obtain ⟨hform, hmeaning, htags, -⟩ := Gloss.unify?_eq_some_iff.1 hu
  refine restrict?_eq_some_iff.2 ⟨m, hm, hadmits, Gloss.unify?_eq_some_iff.2 ?_⟩
  exact ⟨hform, hmeaning, htags, whereGiven_empty Gloss.morphemes_eq_of_isEmpty rfl⟩

end CompiledPattern

/-- A template that asks for morphemes has an expression that cuts forms into pieces. -/
theorem Matcher.exists_split_of_ofTemplate {select : Gloss} {m : Matcher}
    (h : ofTemplate select = .ok m) (hparts : select.morphemes ≠ []) :
    ∃ split, m.split = some split ∧
      Regex.ofPattern (splitPattern (select.morphemes.map (·.form))) = .ok split := by
  have hforms : (select.morphemes.map (·.form)).isEmpty = false := by simpa using hparts
  rw [ofTemplate] at h
  dsimp only at h
  rw [hforms, if_neg Bool.false_ne_true] at h
  obtain ⟨split, hsplit, h⟩ := Except.bind_eq_ok_iff.1 h
  obtain ⟨form, -, h⟩ := Except.bind_eq_ok_iff.1 h
  obtain ⟨pieces, -, h⟩ := Except.bind_eq_ok_iff.1 h
  obtain rfl := Except.ok.inj h
  obtain ⟨r, hr, rfl⟩ := Except.map_eq_ok_iff.1 hsplit
  exact ⟨r, rfl, hr⟩

namespace CompiledPattern

/-- How a pattern makes something of a candidate that it cuts into pieces: the candidate is narrowed
down, its form is cut, and the pieces become its morphemes. -/
structure CutsInto (pattern : Pattern) (g r : Gloss) (m : Matcher) (split : Regex)
    (narrowed : Gloss) (pieces : List String) (ms : List Gloss) : Prop where
  matcher_eq : (ofPattern pattern).matcher? = some m
  split_eq : m.split = some split
  expression_eq :
    Regex.ofPattern (Matcher.splitPattern (pattern.select.morphemes.map (·.form))) = .ok split
  narrowed_eq : (ofPattern pattern).restrict? g = some narrowed
  pieces_eq : (ofPattern pattern).pieces? split g.form = some pieces
  morphemes_eq : (ofPattern pattern).morphemes? pieces = some ms
  result_eq : r = (ofPattern pattern).marked (narrowed.withMorphemes ms)

theorem exists_cutsInto_of_apply {pattern : Pattern} (hparts : pattern.select.morphemes ≠ [])
    {g r : Gloss} (hg : g.morphemes = []) (h : (ofPattern pattern).apply g = .ok r) :
    ∃ m split narrowed pieces ms, CutsInto pattern g r m split narrowed pieces ms := by
  obtain ⟨m, narrowed, hm, hnarrowed, hmade⟩ := result?_eq_some_iff.1 (apply_eq_ok_iff.1 h)
  obtain ⟨split, hsplit, hexpression⟩ :=
    Matcher.exists_split_of_ofTemplate (matcher?_ofPattern_eq_some_iff.1 hm) hparts
  rcases hmade with ⟨hnone, -⟩ | ⟨split', ms, hsplit', hms, rfl⟩
  · rw [hsplit] at hnone
    contradiction
  · obtain rfl := Option.some.inj (hsplit.symm.trans hsplit')
    rw [parts?, if_pos (by rw [hg]; rfl)] at hms
    obtain ⟨pieces, hpieces, hms⟩ := Option.bind_eq_some_iff.1 hms
    exact ⟨m, split, narrowed, pieces, ms, hm, hsplit, hexpression, hnarrowed, hpieces, hms, rfl⟩

section CutsInto

variable {pattern : Pattern} {g r narrowed : Gloss} {m : Matcher} {split : Regex}
  {pieces : List String} {ms : List Gloss}

/-- The form stays as it is, and the morphemes have the pieces as their forms. -/
theorem CutsInto.forms (h : CutsInto pattern g r m split narrowed pieces ms) :
    r.form = g.form ∧ r.morphemes.map (·.form) = pieces := by
  have hforms := forms_marked (ofPattern pattern) (narrowed.withMorphemes ms)
  rw [← h.result_eq, Gloss.forms_withMorphemes, map_form_of_morphemes? h.morphemes_eq] at hforms
  obtain ⟨hform, hmorphemes⟩ := List.cons.inj hforms
  have hkept := (List.cons.inj (forms_of_restrict? h.narrowed_eq)).1
  exact ⟨hform.trans hkept, hmorphemes⟩

theorem CutsInto.length (h : CutsInto pattern g r m split narrowed pieces ms) :
    pieces.length = pattern.select.morphemes.length :=
  length_of_pieces? h.pieces_eq

end CutsInto

/-- **Cut or given, the pieces come to the same.** What a pattern makes of a candidate that it cuts
into pieces, it makes of the candidate with the pieces as morphemes about which nothing is known. -/
theorem apply_pieces {pattern : Pattern} (hparts : pattern.select.morphemes ≠ []) {g r : Gloss}
    (hg : g.morphemes = []) (h : (ofPattern pattern).apply g = .ok r) :
    (ofPattern pattern).apply (g.withMorphemes (r.morphemes.map fun m => .ofForm m.form))
      = .ok r := by
  obtain ⟨m, split, narrowed, pieces, ms, hcuts⟩ := exists_cutsInto_of_apply hparts hg h
  have hgiven : r.morphemes.map (fun m => Gloss.ofForm m.form) = pieces.map Gloss.ofForm := by
    rw [← hcuts.forms.2, List.map_map]
    rfl
  rw [hgiven]
  refine apply_eq_ok_iff.2 (result?_eq_some_iff.2 ⟨m, _, hcuts.matcher_eq,
    restrict?_withMorphemes hcuts.narrowed_eq _,
    Or.inr ⟨split, ms, hcuts.split_eq, ?_, hcuts.result_eq⟩⟩)
  have hcount : pieces.length = (ofPattern pattern).arity := hcuts.length
  have hne : pieces ≠ [] := by
    rw [← List.length_pos_iff, hcount]
    exact List.length_pos_iff.2 hparts
  show (ofPattern pattern).parts? split (g.withMorphemes (pieces.map Gloss.ofForm)) = some ms
  rw [parts?, if_neg (by simpa [Gloss.withMorphemes] using hne),
    if_pos (by simpa [Gloss.withMorphemes] using hcount)]
  exact (presplit?_ofForm _ pieces).trans hcuts.morphemes_eq

theorem apply_pieces_women :
    plural.select.morphemes ≠ [] ∧ (Gloss.ofForm "musow").morphemes = [] ∧
    (ofPattern plural).apply (.ofForm "musow") = .ok women ∧
    (ofPattern plural).apply ⟨"musow", .empty, "", [.ofForm "muso", .ofForm "w"]⟩ = .ok women := by
  have hparts : plural.select.morphemes ≠ [] := by decide
  have hcut : (ofPattern plural).apply (.ofForm "musow") = .ok women :=
    apply_eq_ok_iff.2 result?_plural
  exact ⟨hparts, rfl, hcut, apply_pieces hparts rfl hcut⟩

end CompiledPattern

end Interlinear
