import Interlinear.Lists
import Interlinear.Proofs.Regex.Required
import Interlinear.Proofs.Token.CharacterKinds
import Interlinear.Proofs.Token.Restart

set_option autoImplicit false

/-! # Words without word characters

Of the standard rules for words, all but one read a word character. The rule for words that end with
an apostrophe is content with the marks that may stand in a word, and two of these, the hyphen and a
sign of N'Ko, are no word characters (`standard_word`). So a run of them with an apostrophe behind it
is a word, although there is no word character in it (`next_of_isBareRun`), and there is no other
such word (`isBareRun_of_mem_tokens`). Every word of a text has a word character just if no token
begins at such a run (`words_hold_wordChars_iff`). -/

namespace Interlinear

/-! ## Word characters and others -/

/-- Whether a class holds word characters and some others at most. -/
def CharClass.isOfWordsOr (others : List Char) : CharClass → Bool
  | word | digit => true
  | range lo hi => (List.range' lo.toNat (hi.toNat + 1 - lo.toNat)).all fun n =>
      Text.isWordChar (Char.ofNat n) || others.contains (Char.ofNat n)
  | union a b => a.isOfWordsOr others && b.isOfWordsOr others
  | _ => false

theorem CharClass.of_isOfWordsOr {others : List Char} {s : CharClass}
    (hs : s.isOfWordsOr others = true) {x : Char} (hx : s.contains x = true) :
    Text.isWordChar x = true ∨ x ∈ others := by
  induction s with
  | word => exact Or.inl hx
  | digit => exact Or.inl (Text.isWordChar_of_isDigit hx)
  | range lo hi =>
      rw [contains, Bool.and_eq_true, decide_eq_true_eq, decide_eq_true_eq] at hx
      have hlo : lo.toNat ≤ x.toNat := hx.1
      have hhi : x.toNat ≤ hi.toNat := hx.2
      have hmem : x.toNat ∈ List.range' lo.toNat (hi.toNat + 1 - lo.toNat) := by
        rw [List.mem_range'_1]
        omega
      have hcode := List.all_eq_true.1 hs x.toNat hmem
      rw [Char.ofNat_toNat, Bool.or_eq_true] at hcode
      simpa using hcode
  | union a b iha ihb =>
      rw [isOfWordsOr, Bool.and_eq_true] at hs
      rw [contains, Bool.or_eq_true] at hx
      exact hx.elim (iha hs.1) (ihb hs.2)
  | none | any | blank | property | inter | diff | symmDiff | compl | anyCase | asciiCase => cases hs

/-! ## The rules for words -/

/-- The marks that may stand in a word but are no word characters. -/
def bareMarks : List Char := ['-', '\u07f6']

/-- The apostrophes that are no word characters. -/
def bareApostrophes : List Char := ['\'', '\u2019']

theorem standard_word : ∀ r ∈ Tokenizer.standard.rules, r.kind = .word →
    r = .elided ∨ r.pattern.requires (·.isOfWordsOr []) = true := by
  rw [Tokenizer.rules_standard]
  decide +kernel

/-- The rules before the one for words with an apostrophe find no token at a bare mark. -/
theorem standard_elided : Tokenizer.standard.rules
      = Tokenizer.standard.rules.take 11 ++ .elided :: Tokenizer.standard.rules.drop 12 ∧
    ∀ r ∈ Tokenizer.standard.rules.take 11, ∀ s ∈ r.pattern.firsts, ∀ x ∈ bareMarks,
      s.contains x = false := by
  have hrules : Tokenizer.standard.rules
        = Tokenizer.standard.rules.take 11 ++ .elided :: Tokenizer.standard.rules.drop 12 ∧
      ∀ r ∈ Tokenizer.standard.rules.take 11, ∀ s ∈ r.pattern.firsts,
        bareMarks.all (fun x => s.contains x = false) = true := by
    rw [Tokenizer.rules_standard]
    decide +kernel
  obtain ⟨hsplit, hfirsts⟩ := hrules
  exact ⟨hsplit, fun r hr s hs => List.forall_mem_of_all (hfirsts r hr s hs)⟩

/-! ## Runs of marks with an apostrophe -/

/-- One or more marks with an apostrophe behind them, none of which is a word character. -/
def IsBareRun (cs : List Char) : Prop :=
  ∃ marks q, cs = marks ++ [q] ∧ marks ≠ [] ∧ (∀ x ∈ marks, x ∈ bareMarks) ∧ q ∈ bareApostrophes

theorem isWordChar_of_mem_bare : ∀ x ∈ bareMarks ++ bareApostrophes,
    Text.isWordChar x = false :=
  List.forall_mem_of_all (by decide +kernel)

theorem IsBareRun.isWordChar {cs : List Char} (h : IsBareRun cs) :
    ∀ x ∈ cs, Text.isWordChar x = false := by
  obtain ⟨marks, q, rfl, -, hmarks, hq⟩ := h
  intro x hx
  apply isWordChar_of_mem_bare
  rcases List.mem_append.1 hx with hx | hx
  · exact List.mem_append_left _ (hmarks x hx)
  · rw [List.mem_singleton.1 hx]
    exact List.mem_append_right _ hq

/-- What the classes of the rule for words with an apostrophe say about marks and apostrophes. -/
theorem bare_classes : CharClass.wordAndMarks.isOfWordsOr bareMarks = true ∧
    CharClass.apostrophe.isOfWordsOr bareApostrophes = true ∧
    (∀ x ∈ bareMarks, CharClass.wordAndMarks.contains x = true) ∧
    ∀ q ∈ bareApostrophes, CharClass.apostrophe.contains q = true ∧
      CharClass.wordAndMarks.contains q = false := by
  refine ⟨by decide +kernel, by decide +kernel, ?_, ?_⟩
  · exact List.forall_mem_of_all (by decide +kernel)
  · exact List.forall_mem_of_all (by decide +kernel)

namespace Rule

/-- A token of a rule that requires a word character has one. -/
theorem exists_wordChar_of_reach? {r : Rule} (hanchored : r.pattern.anchored)
    (hrequires : r.pattern.requires (·.isOfWordsOr []) = true) {text : List Char} {n : Nat}
    (h : r.reach? text = some n) : ∃ x ∈ text.take n, Text.isWordChar x = true := by
  obtain ⟨d, hrun, rfl, -⟩ := exists_run_of_reach? hanchored h
  obtain ⟨before, x, after, ⟨s, hs, hx⟩, htext⟩ := Regex.reachesPast_of_requires hrequires hrun
  have hpiece : text.take d.taken = before ++ x :: after :=
    (Regex.reaches_of_mem_run hrun).take_eq htext
  have hword : Text.isWordChar x = true := by
    rcases CharClass.of_isOfWordsOr hs hx with hword | hnone
    · exact hword
    · simp at hnone
  exact ⟨x, by rw [hpiece]; simp, hword⟩

/-- A token of the rule for words with an apostrophe is a bare run if it has no word character. -/
theorem isBareRun_of_reach?_elided {text : List Char} {n : Nat} (h : elided.reach? text = some n)
    (hword : ∀ x ∈ text.take n, Text.isWordChar x = false) : IsBareRun (text.take n) := by
  obtain ⟨hstems, happ, -, -⟩ := bare_classes
  obtain ⟨d, hrun, rfl, -⟩ := exists_run_of_reach? (by rfl) h
  obtain ⟨e, he, hed⟩ := Regex.exists_of_mem_run_seq hrun
  obtain ⟨q, hq, hrest, -⟩ := Cursor.mem_read hed
  obtain ⟨marks, htext, htaken, hmarks⟩ := Regex.reachesBy_of_mem_run he
  have hpiece : text.take d.taken = marks ++ [q] := by
    refine (Regex.reaches_of_mem_run hrun).take_eq ?_
    rw [List.append_assoc, List.singleton_append, ← hrest]
    exact htext
  rw [hpiece] at hword ⊢
  have hne : marks ≠ [] := by
    rintro rfl
    have hlt := Regex.taken_lt_of_reads (by rfl) he
    rw [htaken] at hlt
    exact absurd hlt (Nat.lt_irrefl _)
  refine ⟨marks, q, rfl, hne, fun x hx => ?_, ?_⟩
  · obtain ⟨s, hs, hcontains⟩ := hmarks x hx
    obtain rfl : s = .wordAndMarks := List.mem_singleton.1 hs
    have hnot := hword x (List.mem_append_left _ hx)
    exact (CharClass.of_isOfWordsOr hstems hcontains).resolve_left (by simp [hnot])
  · have hnot := hword q (by simp)
    exact (CharClass.of_isOfWordsOr happ hq).resolve_left (by simp [hnot])

end Rule

/-- A word without word characters is a bare run. -/
theorem isBareRun_of_mem_tokens {text : String} {a : Token}
    (ha : a ∈ Tokenizer.standard.tokens text) (hkind : a.kind = .word)
    (hword : ∀ x ∈ a.text.toList, Text.isWordChar x = false) : IsBareRun a.text.toList := by
  obtain ⟨rest, n, -, hnext, htext⟩ := Tokenizer.exists_next_of_mem ha
  rw [hkind] at hnext
  obtain ⟨r, hr, hrkind, hreach⟩ := Tokenizer.exists_of_next hnext (by decide)
  rw [htext] at hword ⊢
  rcases standard_word r hr hrkind with rfl | hrequires
  · exact Rule.isBareRun_of_reach?_elided hreach hword
  · have hanchored := (Rule.forward_pattern (forward_standard r hr)).1
    obtain ⟨x, hx, hxword⟩ := Rule.exists_wordChar_of_reach? hanchored hrequires hreach
    rw [hword x hx] at hxword
    cases hxword

/-! ## Bare runs are words -/

/-- A token that a rule finds begins with a character of the first classes of the pattern. -/
theorem Rule.exists_first_of_reach? {r : Rule} (hanchored : r.pattern.anchored) {x : Char}
    {rest : List Char} {n : Nat} (h : r.reach? (x :: rest) = some n) :
    ∃ s ∈ r.pattern.firsts, s.contains x = true := by
  obtain ⟨d, hrun, rfl, hpos⟩ := exists_run_of_reach? hanchored h
  rcases Regex.beginsBy_of_mem_run hrun with hsame | ⟨y, hy, s, hs, hcontains⟩
  · -- The token is not empty, so the match has moved on.
    have hlength := (Regex.reaches_of_mem_run hrun).taken_add_length
    rw [hsame] at hlength
    have hzero : (Cursor.start (x :: rest)).taken = 0 := rfl
    omega
  · obtain rfl := Option.some.inj hy
    exact ⟨s, hs, hcontains⟩

/-- A greedy repetition reads the characters of a class up to the first other one. -/
theorem Regex.exists_find?_plus_set {s : CharClass} {piece : List Char} (hne : piece ≠ [])
    (hpiece : ∀ x ∈ piece, s.contains x = true) {q : Char} (hq : s.contains q = false)
    (rest : List Char) :
    ∃ e, (seq (look .textStart) (plus true (set s))).find? (piece ++ q :: rest) = some e ∧
      e.taken = piece.length ∧ e.rest = q :: rest := by
  obtain ⟨e, he⟩ : ∃ e, (seq (look .textStart) (plus true (set s))).find? (piece ++ q :: rest)
      = some e := by
    obtain ⟨x, piece, rfl⟩ := List.exists_cons_of_ne_nil hne
    have hx := hpiece x List.mem_cons_self
    obtain ⟨e, he, -⟩ := exists_find?_of_takes (r := .plus true (.set s)) (by simp [takes]) (by rfl)
      hx (piece ++ q :: rest)
    exact ⟨e, he⟩
  have hrun : (piece ++ q :: rest).takeWhile s.contains = piece := by
    rw [List.takeWhile_append_of_pos hpiece, List.takeWhile_cons_of_neg (by simp [hq]),
      List.append_nil]
  have htaken : e.taken = piece.length := by
    rw [(taken_of_find?_run he).1, hrun]
  refine ⟨e, he, htaken, ?_⟩
  rw [find?_of_anchored (by rfl)] at he
  obtain ⟨taken, htext, hlength⟩ := reaches_of_mem_run (List.mem_of_head? he)
  have hsame : piece.length = taken.length := by
    rw [← htaken, hlength]
    exact Nat.zero_add _
  exact (List.append_inj htext hsame).2.symm

/-- The rule for words with an apostrophe finds a bare run. -/
theorem Rule.reach?_elided {marks : List Char} {q : Char} (hne : marks ≠ [])
    (hmarks : ∀ x ∈ marks, x ∈ bareMarks) (hq : q ∈ bareApostrophes) (rest : List Char) :
    elided.reach? (marks ++ q :: rest) = some (marks.length + 1) := by
  obtain ⟨-, -, hstems, happ⟩ := bare_classes
  obtain ⟨happ, hstop⟩ := happ q hq
  -- The repetition goes on to the apostrophe, which is not one of its characters.
  obtain ⟨e, he, htaken, hrest⟩ :=
    Regex.exists_find?_plus_set hne (fun x hx => hstems x (hmarks x hx)) hstop rest
  rw [Regex.find?_of_anchored (by rfl)] at he
  obtain ⟨es, hes⟩ := List.head?_eq_some_iff.1 he
  have hread : (Regex.set .apostrophe).run e = [⟨some q, rest, e.taken + 1, e.groups, []⟩] := by
    rw [Regex.run, Cursor.read, hrest]
    simp [happ]
  have hfind : elided.pattern.find? (marks ++ q :: rest)
      = some ⟨some q, rest, e.taken + 1, e.groups, []⟩ := by
    rw [Regex.find?_of_anchored (by rfl), elided, patternOf, Regex.run, Found.head?_ofList, hes,
      List.flatMap_cons, hread]
    rfl
  refine reach?_eq_some_iff.2 ⟨_, hfind, ?_, Nat.succ_ne_zero _, rfl⟩
  rw [htaken]

namespace Tokenizer

/-- Where a bare run begins, it is a word, whatever follows. -/
theorem next_of_isBareRun {bare : List Char} (h : IsBareRun bare) (rest : List Char) :
    standard.next (bare ++ rest) = (.word, bare.length) := by
  obtain ⟨marks, q, rfl, hne, hmarks, hq⟩ := h
  obtain ⟨hsplit, hbefore⟩ := standard_elided
  have hrules : standard.rules
      = (standard.rules.take 11 ++ [.elided]) ++ standard.rules.drop 12 := by
    rwa [List.append_assoc, List.singleton_append]
  rw [List.append_assoc, List.singleton_append]
  have hnone : (standard.rules.take 11).findSome? (found? (marks ++ q :: rest)) = none := by
    rw [List.findSome?_eq_none_iff]
    intro r hr
    rw [found?, Option.map_eq_none_iff, Option.eq_none_iff_forall_ne_some]
    intro n hreach
    have hanchored := (Rule.forward_pattern (forward_standard r (List.mem_of_mem_take hr))).1
    obtain ⟨x, marks, rfl⟩ := List.exists_cons_of_ne_nil hne
    obtain ⟨s, hs, hcontains⟩ := Rule.exists_first_of_reach? hanchored hreach
    rw [hbefore r hr s hs x (hmarks x List.mem_cons_self)] at hcontains
    cases hcontains
  refine next_eq_of_findSome? hrules ?_
  rw [List.findSome?_append, hnone, Option.none_or, List.findSome?_cons, found?,
    Rule.reach?_elided hne hmarks hq, List.length_append]
  rfl

end Tokenizer

/-- A bare run begins where a number of bytes of a text ends. -/
def BareRunAt (text : String) (start : Nat) : Prop :=
  ∃ before bare after, text.toList = before ++ bare ++ after ∧
    start = Text.byteLength (String.ofList before) ∧ IsBareRun bare

/-- A token that begins with a bare run is a word without word characters. -/
theorem word_of_bareRunAt {text : String} {a : Token} (ha : a ∈ Tokenizer.standard.tokens text)
    (h : BareRunAt text a.start) :
    a.kind = .word ∧ ∀ x ∈ a.text.toList, Text.isWordChar x = false := by
  obtain ⟨before, bare, after, htext, hstart, hbare⟩ := h
  obtain ⟨before', rest, htext', hstart', -, hnext, hfirst⟩ := Tokenizer.exists_next_at ha
  have hrest : rest = bare ++ after := by
    have hdrop := Text.dropBytes?_append before (bare ++ after)
    have hdrop' := Text.dropBytes?_append before' rest
    rw [← hstart, ← List.append_assoc, ← htext] at hdrop
    rw [← hstart', ← htext'] at hdrop'
    exact Option.some.inj (hdrop'.symm.trans hdrop)
  rw [hrest, Tokenizer.next_of_isBareRun hbare] at hnext
  obtain ⟨hkind, hlength⟩ := Prod.mk.inj hnext
  have hsame : a.text.toList = bare := by
    rw [hrest] at hfirst
    exact (List.prefix_of_prefix_length_le hfirst (List.prefix_append bare after)
      (Nat.le_of_eq hlength.symm)).eq_of_length hlength.symm
  refine ⟨hkind.symm, ?_⟩
  rw [hsame]
  exact hbare.isWordChar

/-- **Words and word characters.** All words of a text have a word character just if none of its
tokens begins with a bare run: hyphens and the N'Ko sign U+07F6, with an apostrophe behind them. -/
theorem words_hold_wordChars_iff (text : String) :
    (∀ a ∈ Tokenizer.standard.tokens text, a.kind = .word →
      ∃ x ∈ a.text.toList, Text.isWordChar x = true) ↔
    ∀ a ∈ Tokenizer.standard.tokens text, ¬ BareRunAt text a.start := by
  constructor
  · intro hwords a ha hbare
    obtain ⟨hkind, hnone⟩ := word_of_bareRunAt ha hbare
    obtain ⟨x, hx, hword⟩ := hwords a ha hkind
    rw [hnone x hx] at hword
    contradiction
  · intro hbare a ha hkind
    by_contra hnone
    have hrun : IsBareRun a.text.toList := by
      refine isBareRun_of_mem_tokens ha hkind fun x hx => Bool.eq_false_iff.2 fun hword => ?_
      exact hnone ⟨x, hx, hword⟩
    obtain ⟨before, after, htext, hstart⟩ :=
      (Tokenizer.standard.tiling_tokensFrom 0 text.toList).exists_context ha
    rw [Nat.zero_add] at hstart
    exact hbare a ha ⟨before, a.text.toList, after, htext, hstart, hrun⟩

/-- A hyphen with an apostrophe behind it is a word. -/
theorem not_forall_words_hold_wordChars : ¬ ∀ text : String,
    ∀ a ∈ Tokenizer.standard.tokens text, a.kind = .word →
      ∃ x ∈ a.text.toList, Text.isWordChar x = true := by
  intro h
  have htokens : Tokenizer.standard.tokens "-'" = [⟨.word, "-'", 0⟩] := by
    rw [Tokenizer.standard_eq]
    decide +kernel
  have hmem : ⟨.word, "-'", 0⟩ ∈ Tokenizer.standard.tokens "-'" := by
    rw [htokens]
    exact List.mem_cons_self
  obtain ⟨x, hx, hword⟩ : ∃ x ∈ "-'".toList, Text.isWordChar x = true :=
    h "-'" ⟨.word, "-'", 0⟩ hmem rfl
  have hnone : ∀ x ∈ "-'".toList, Text.isWordChar x = false :=
    List.forall_mem_of_all (by decide +kernel)
  rw [hnone x hx] at hword
  cases hword

end Interlinear
