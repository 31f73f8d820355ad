import Interlinear.Proofs.Analysis.Composition
import Interlinear.Proofs.Grammar.Reapplication
import Interlinear.Proofs.Regex.Pieces
import Interlinear.Proofs.Regex.Reading

set_option autoImplicit false

/-! # Cutting forms into pieces

A pattern with templates for morphemes cuts a form by one regular expression, whose text is put
together of the forms of the templates, each in a group of its own. The forms may hold groups,
alternatives and flags, and the pieces are what the groups remember. If every form is a regular
expression of its own, nothing of it reaches beyond its group: the pieces follow each other without
a gap, and each is matched in full by the form of its template
(`CompiledPattern.apply_cuts`). -/

namespace Interlinear

open Regex

/-! ## Forms as regular expressions -/

theorem Regex.ofPattern_eq_ok_iff {pattern : String} {r : Regex} :
    ofPattern pattern = .ok r ↔ ∃ t, tree? pattern.toList = some t ∧
      t.room ≤ PatternFault.sizeLimit ∧ r = ((lower false t).run 0).1 := by
  rw [ofPattern]
  cases tree? pattern.toList with
  | none => simp
  | some t =>
      by_cases hroom : PatternFault.sizeLimit < t.room
      · have hlarge : ¬t.room ≤ PatternFault.sizeLimit := Nat.not_le_of_lt hroom
        simp [hroom, hlarge]
      · have hsmall : t.room ≤ PatternFault.sizeLimit := Nat.le_of_not_lt hroom
        simp [hroom, hsmall, eq_comm]

/-- A form is a regular expression of its own. -/
def IsExpression (form : String) : Prop := ∃ r, Regex.ofPattern form = .ok r

instance (form : String) : Decidable (IsExpression form) :=
  decidable_of_iff ((Regex.ofPattern form).isOk = true) (by
    rw [IsExpression]
    cases Regex.ofPattern form with
    | error e => simp [Except.isOk, Except.toBool]
    | ok r => simp [Except.isOk, Except.toBool])

/-- The form of a template matches a text from start to end. An empty form stands for any text that
is not empty. -/
def Gloss.Spans (template : Gloss) (text : String) : Prop :=
  if template.form = "" then text ≠ ""
  else ∃ r, Regex.ofPattern template.form = .ok r ∧ r.Spans text.toList

namespace Matcher

/-- What is written in the group of a piece. -/
def pieceText (form : String) : String := if form.isEmpty then ".+" else form

theorem close_not_mem_pieceName (i : Nat) : '>' ∉ (pieceName i).toList := by
  intro h
  have hdigits : (toString i).toList = Nat.toDigits 10 i := String.toList_ofList
  rw [pieceName, String.toList_append, hdigits] at h
  rcases List.mem_append.1 h with h | h
  · exact absurd h (by decide)
  · exact absurd (Nat.isDigit_of_mem_toDigits (by decide) (by decide) h) (by decide)

/-- A form that is a regular expression of its own, and is also compiled for whole texts, can be put
between parentheses. The expression for whole texts is made of its own. -/
theorem constituent_of_whole {form : String} {w : Option Regex} (hne : form ≠ "")
    (hform : IsExpression form) (hw : whole form = .ok w) :
    (∃ ts b, Constituent form.toList ts b) ∧
      ∃ r, Regex.ofPattern form = .ok r ∧
        w = some ((look .textStart).andThen (r.andThen (look .textEnd))) := by
  obtain ⟨r, hr⟩ := hform
  obtain ⟨t, ht, -, hlower⟩ := ofPattern_eq_ok_iff.1 hr
  rw [whole, if_neg (by simpa using hne)] at hw
  obtain ⟨r', hr', rfl⟩ := Except.map_eq_ok_iff.1 hw
  obtain ⟨T, hT, -, rfl⟩ := ofPattern_eq_ok_iff.1 hr'
  have htext : ("^(?:" ++ form ++ ")$").toList
      = '^' :: '(' :: '?' :: ':' :: (form.toList ++ [')', '$']) := by
    simp [String.toList_append]
  rw [htext] at hT
  obtain ⟨⟨ts, b, hconstituent⟩, rfl⟩ := tree?_whole ht hT
  refine ⟨⟨ts, b, hconstituent⟩, r, hr, ?_⟩
  rw [hlower]
  rfl

/-- What stands for an empty form: any characters of a line, one or more. -/
theorem tree?_dotPlus :
    tree? ['.', '+'] = some (.repeats (.set (.compl (.single '\n'))) 1 none true) := rfl

theorem constituent_dotPlus : ∃ ts b, Constituent ['.', '+'] ts b := by
  let ts : List Regex.Token := [.dot, .repeats 1 none false]
  have hcut : Cuts false [] ['.', '+'] ts := cuts_of_tokens? rfl
  obtain ⟨b, hb, hclosed, htree⟩ : ∃ b, ts.foldlM Builder.step? .start = some b ∧ b.opened = [] ∧
      tree? ['.', '+'] = some b.level.whole.tree :=
    ⟨_, rfl, rfl, tree?_dotPlus⟩
  -- No comment takes the parenthesis with it: there it is among the tokens.
  have hclose : Cuts false [] ['.', '+', ')'] (ts ++ [.close]) := cuts_of_tokens? rfl
  refine ⟨ts, b, htree, hb, hclosed, (encloses_or_eq hcut hb hclosed).resolve_right ?_⟩
  intro hgone
  have heq := hgone [] [] _ (by simp) hclose
  simp at heq

/-- A text that the expression for an empty form reads is not empty. -/
theorem ne_nil_of_dotPlus {p : NamedPiece} (hp : p.Fits) (htext : p.text = ['.', '+']) {r : Regex}
    {e e' : Cursor} {piece : List Char} (hr : IsLowered p.built.level.whole.tree r)
    (he : e' ∈ r.run e) (hrest : e.rest = piece ++ e'.rest) : piece ≠ [] := by
  have htree := hp.constituent.tree
  rw [htext, tree?_dotPlus] at htree
  rw [← Option.some.inj htree] at hr
  obtain ⟨n, rfl⟩ := hr
  have htaken := taken_lt_of_reads rfl he
  have hlength := (reaches_of_mem_run he).taken_add_length
  rintro rfl
  rw [hrest, List.nil_append] at hlength
  omega

theorem exists_namedPiece {form : String} {w : Option Regex} (hform : IsExpression form)
    (hw : whole form = .ok w) (i : Nat) :
    ∃ p : NamedPiece, p.Fits ∧ p.name = pieceName i ∧ p.text = (pieceText form).toList := by
  rw [pieceText]
  split
  · obtain ⟨ts, b, hconstituent⟩ := constituent_dotPlus
    exact ⟨⟨pieceName i, _, ts, b⟩, ⟨hconstituent, close_not_mem_pieceName i⟩, rfl, rfl⟩
  next hne =>
    obtain ⟨⟨ts, b, hconstituent⟩, -⟩ := constituent_of_whole (by simpa using hne) hform hw
    exact ⟨⟨pieceName i, _, ts, b⟩, ⟨hconstituent, close_not_mem_pieceName i⟩, rfl, rfl⟩

/-! ## The expression that cuts a form -/

/-- The groups of a pattern that cuts a form, made of forms and the numbers of their places. -/
def AreGroups (forms : List (String × Nat)) (pieces : List NamedPiece) : Prop :=
  List.Forall₂ (fun x p => p.Fits ∧ p.name = pieceName x.2 ∧ p.text = (pieceText x.1).toList)
    forms pieces

theorem exists_areGroups {forms : List (String × Nat)}
    (h : ∀ x ∈ forms, IsExpression x.1 ∧ ∃ w, whole x.1 = .ok w) :
    ∃ pieces, AreGroups forms pieces := by
  induction forms with
  | nil => exact ⟨[], .nil⟩
  | cons x forms ih =>
      obtain ⟨⟨hform, w, hw⟩, hforms⟩ := List.forall_mem_cons.1 h
      obtain ⟨p, hp⟩ := exists_namedPiece hform hw x.2
      obtain ⟨pieces, hpieces⟩ := ih hforms
      exact ⟨p :: pieces, .cons hp hpieces⟩

theorem AreGroups.fits {forms : List (String × Nat)} {pieces : List NamedPiece}
    (h : AreGroups forms pieces) : ∀ p ∈ pieces, p.Fits := by
  induction h with
  | nil => simp
  | cons hp _ ih => exact List.forall_mem_cons.2 ⟨hp.1, ih⟩

theorem AreGroups.written {forms : List (String × Nat)} {pieces : List NamedPiece}
    (h : AreGroups forms pieces) :
    forms.flatMap (fun x => (pieceGroup x.2 x.1).toList) = pieces.flatMap NamedPiece.written := by
  induction h with
  | nil => rfl
  | @cons x p forms pieces hp _ ih =>
      have hgroup : (pieceGroup x.2 x.1).toList = p.written := by
        obtain ⟨-, hname, htext⟩ := hp
        rw [NamedPiece.written, hname, htext, pieceGroup, pieceText]
        simp [String.toList_append]
      rw [List.flatMap_cons, List.flatMap_cons, hgroup, ih]

theorem toList_splitPattern {forms : List String} {pieces : List NamedPiece}
    (h : AreGroups forms.zipIdx pieces) :
    (splitPattern forms).toList = '^' :: (pieces.flatMap NamedPiece.written ++ ['$']) := by
  rw [splitPattern, String.toList_append, String.toList_append, String.toList_join,
    List.mapIdx_eq_zipIdx_map, List.flatMap_map, ← h.written]
  rfl

/-- **Forms are cut without a gap.** If each form is a regular expression of its own, the expression
that cuts a text remembers pieces that follow each other from the start of the text to its end. A
piece for an empty form is not empty. -/
theorem exists_pieces_of_find? {forms : List String} {split : Regex}
    (hforms : ∀ form ∈ forms, IsExpression form ∧ ∃ w, whole form = .ok w)
    (hsplit : Regex.ofPattern (splitPattern forms) = .ok split) {text : List Char} {d : Cursor}
    (hd : split.find? text = some d) :
    ∃ texts : List (List Char), texts.flatten = text ∧
      List.Forall₂ (fun x piece => d.group? (pieceName x.2) = some piece ∧
        (x.1 = "" → piece ≠ [])) forms.zipIdx texts := by
  have hnumbered : ∀ x ∈ forms.zipIdx, IsExpression x.1 ∧ ∃ w, whole x.1 = .ok w :=
    fun x hx => hforms x.1 (List.fst_mem_of_mem_zipIdx hx)
  obtain ⟨pieces, hpieces⟩ := exists_areGroups hnumbered
  obtain ⟨T, hT, -, rfl⟩ := ofPattern_eq_ok_iff.1 hsplit
  rw [toList_splitPattern hpieces] at hT
  obtain ⟨texts, htexts, hall⟩ := exists_pieces_of_namedPieces hpieces.fits hT hd
  refine ⟨texts, htexts, List.forall₂_of_length_eq_of_get ?_ fun i hi hi' => ?_⟩
  · exact hpieces.length_eq.trans hall.length_eq
  have hp : i < pieces.length := hall.length_eq ▸ hi'
  obtain ⟨hfits, hname, htext⟩ := hpieces.get hi hp
  obtain ⟨hgroup, r, e, e', hr, he, hrest⟩ := hall.get hp hi'
  refine ⟨hname ▸ hgroup, fun hempty => ne_nil_of_dotPlus hfits ?_ hr he hrest⟩
  rw [htext, hempty]
  rfl

end Matcher

/-! ## Pieces -/

namespace CompiledPattern

/-- The pieces that a pattern cuts a form into make up the form. -/
theorem join_of_pieces? {p : CompiledPattern} {split : Regex} {forms : List String} {form : String}
    {pieces : List String} (harity : p.arity = forms.length)
    (hforms : ∀ form ∈ forms, IsExpression form ∧ ∃ w, Matcher.whole form = .ok w)
    (hsplit : Regex.ofPattern (Matcher.splitPattern forms) = .ok split)
    (h : p.pieces? split form = some pieces) :
    String.join pieces = form ∧
      List.Forall₂ (fun form piece => form = "" → piece ≠ "") forms pieces := by
  obtain ⟨found, hfound, h⟩ := Option.bind_eq_some_iff.1 h
  obtain ⟨texts, htexts, hall⟩ := Matcher.exists_pieces_of_find? hforms hsplit hfound
  -- What is read back under the numbers of the templates are the pieces in their order.
  have hread : (forms.zipIdx.map Prod.snd).map
      (fun i => (found.group? (Matcher.pieceName i)).map String.ofList)
        = (texts.map String.ofList).map some := by
    rw [List.map_map, List.map_map, ← List.forall₂_eq_eq_eq, List.forall₂_map_left_iff,
      List.forall₂_map_right_iff]
    exact hall.imp fun x piece hx => by rw [Function.comp_apply, hx.1]; rfl
  rw [List.zipIdx_map_snd, ← List.range_eq_range', ← harity, List.mapM_eq_some_iff.1 h] at hread
  obtain rfl := List.map_injective_iff.2 (fun _ _ => Option.some.inj) hread
  constructor
  · rw [← String.toList_inj, String.toList_join, List.flatMap_map, ← htexts]
    simp
  · rw [← List.zipIdx_map_fst 0 forms, List.forall₂_map_left_iff, List.forall₂_map_right_iff]
    refine hall.imp fun x piece hx hempty hnil => hx.2 hempty ?_
    rw [← String.toList_ofList (l := piece), hnil]
    rfl

theorem spans_of_admitsForm {template : Gloss} {text : String} (hform : IsExpression template.form)
    (hempty : template.form = "" → text ≠ "") (h : template.admitsForm text = true) :
    template.Spans text := by
  rw [Gloss.Spans]
  split
  next hnil => exact hempty hnil
  next hne =>
    rw [Gloss.admitsForm] at h
    split at h
    next w hw =>
      obtain ⟨-, r, hr, rfl⟩ := Matcher.constituent_of_whole hne hform hw
      exact ⟨r, hr, spans_of_isMatch h⟩
    next => contradiction

/-- **Cutting a form.** What a pattern makes of a candidate without morphemes has the form of the
candidate, cut into as many morphemes as there are templates, without a gap and without an overlap.
The form of each template matches the whole of its morpheme. The forms of the templates need only be
regular expressions of their own; that of the pattern itself does not matter. -/
theorem apply_cuts {pattern : Pattern}
    (hforms : ∀ template ∈ pattern.select.morphemes, IsExpression template.form)
    (hparts : pattern.select.morphemes ≠ []) {g r : Gloss} (hg : g.morphemes = [])
    (h : (ofPattern pattern).apply g = .ok r) :
    r.form = g.form ∧ r.morphemes.length = pattern.select.morphemes.length ∧
      String.join (r.morphemes.map (·.form)) = g.form ∧
      List.Forall₂ (fun template m => template.Spans m.form) pattern.select.morphemes
        r.morphemes := by
  obtain ⟨m, split, narrowed, pieces, ms, hcuts⟩ := exists_cutsInto_of_apply hparts hg h
  obtain ⟨hform, hmorphemes⟩ := hcuts.forms
  have hcompiled : ∀ form ∈ pattern.select.morphemes.map (·.form),
      IsExpression form ∧ ∃ w, Matcher.whole form = .ok w := by
    intro form hform
    obtain ⟨template, ht, rfl⟩ := List.mem_map.1 hform
    obtain ⟨i, hi⟩ := List.mem_iff_getElem?.1 ht
    obtain ⟨w, -, hw⟩ := Matcher.exists_piece_of_ofTemplate
      (matcher?_ofPattern_eq_some_iff.1 hcuts.matcher_eq) hi
    exact ⟨hforms template ht, w, hw⟩
  have harity : (ofPattern pattern).arity = (pattern.select.morphemes.map (·.form)).length :=
    (List.length_map _).symm
  obtain ⟨hjoin, hempty⟩ := join_of_pieces? harity hcompiled hcuts.expression_eq hcuts.pieces_eq
  have hms := hcuts.morphemes_eq
  rw [morphemes?_ofPattern hcuts.matcher_eq hcuts.length] at hms
  split at hms
  next hadmit =>
    have hspans : List.Forall₂ Gloss.Spans pattern.select.morphemes (r.morphemes.map (·.form)) := by
      rw [hmorphemes, List.forall₂_iff_zip]
      refine ⟨hcuts.length.symm, fun {template piece} hmem => ?_⟩
      refine spans_of_admitsForm (hforms _ (List.of_mem_zip hmem).1) ?_ ?_
      · exact (List.forall₂_iff_zip.1 (List.forall₂_map_left_iff.1 hempty)).2 hmem
      · rw [Gloss.admitForms, List.all_eq_true] at hadmit
        refine hadmit _ ?_
        rw [← List.map_uncurry_zip_eq_zipWith]
        exact List.mem_map_of_mem hmem
    refine ⟨hform, ?_, hmorphemes ▸ hjoin, List.forall₂_map_right_iff.1 hspans⟩
    rw [← hcuts.length, ← hmorphemes, List.length_map]
  next => contradiction

/-- Takes a noun with the sign of the plural for a root, a suffix and the sign. -/
def diminutive : Pattern where
  select := ⟨"", .ofList ["n"], "", [.ofForm "(?i)(?<root>mus|d)[eo]", .empty, .ofForm "w|lu"]⟩
  mark := .empty

def girls : Gloss :=
  ⟨"Musoninw", .ofList ["n"], "", [.ofForm "Muso", .ofForm "nin", .ofForm "w"]⟩

theorem apply_diminutive : (ofPattern diminutive).result? (.ofForm "Musoninw") = some girls := by
  decide +kernel

theorem apply_cuts_girls :
    (∀ template ∈ diminutive.select.morphemes, IsExpression template.form) ∧
    diminutive.select.morphemes ≠ [] ∧ (Gloss.ofForm "Musoninw").morphemes = [] ∧
    (ofPattern diminutive).apply (.ofForm "Musoninw") = .ok girls ∧
    String.join ["Muso", "nin", "w"] = "Musoninw" ∧
    List.Forall₂ (fun template m => template.Spans m.form) diminutive.select.morphemes
      girls.morphemes := by
  have hforms : ∀ template ∈ diminutive.select.morphemes, IsExpression template.form := by
    decide +kernel
  have hparts : diminutive.select.morphemes ≠ [] := by decide
  have happly := apply_eq_ok_iff.2 apply_diminutive
  obtain ⟨-, -, hjoin, hspans⟩ := apply_cuts hforms hparts rfl happly
  exact ⟨hforms, hparts, rfl, happly, hjoin, hspans⟩

end CompiledPattern

end Interlinear
