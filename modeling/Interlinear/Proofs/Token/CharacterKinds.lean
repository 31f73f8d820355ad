import Interlinear.Proofs.Regex.Progress
import Interlinear.Proofs.Text.WordChars
import Interlinear.Proofs.Token.Characters
import Interlinear.Proofs.Token.Partition

set_option autoImplicit false

/-! # Which tokens hold which characters

Under the standard rules, the character where a token begins often decides which rules can find it: a
rule takes a class if it finds a token wherever a character of the class comes next (`Rule.takes`).
There are rules that take the word characters, the blank characters, and all others, so the last
rule, which takes any character, is never asked (`findSome?_dropLast`).

It follows where in the tokens of a text a character can be, by what kind of character it is
(`Token.Classified`). -/

namespace Interlinear

/-! ## Rules that find a token -/

namespace Rule

/-- Whether a rule finds a token wherever a character of a class comes next. -/
def takes (s : CharClass) (r : Rule) : Bool :=
  match r.pattern with
  | .seq (.look .textStart) p => p.takes s && p.reads && r.follow.isNone
  | _ => false

theorem exists_reach?_of_takes {s : CharClass} {r : Rule} (h : r.takes s = true) {x : Char}
    (hx : s.contains x = true) (rest : List Char) : ∃ n, r.reach? (x :: rest) = some n := by
  unfold takes at h
  split at h
  next p hp =>
    simp only [Bool.and_eq_true, Option.isNone_iff_eq_none] at h
    obtain ⟨⟨htakes, hreads⟩, hfollow⟩ := h
    obtain ⟨d, hd, htaken⟩ := Regex.exists_find?_of_takes htakes hreads hx rest
    refine ⟨d.taken, reach?_eq_some_iff.2 ⟨d, ?_, rfl, htaken, ?_⟩⟩
    · rw [hp, hd]
    · exact admitsAfter_of_follow_eq_none hfollow _
  next => contradiction

end Rule

namespace Tokenizer

/-- The two rules for other characters are the last ones. Of those before them, some take the word
characters, and some take the blank characters. -/
theorem standard_last : standard.rules = standard.rules.take 16 ++ [.nonWord, .guard] ∧
    (∀ r ∈ standard.rules.take 16, r.kind ≠ .other) ∧
    (∃ r ∈ standard.rules.take 16, r.takes .word = true) ∧
    (∃ r ∈ standard.rules.take 16, r.takes .blank = true) := by
  rw [rules_standard]
  decide +kernel

theorem exists_findSome?_of_takes {rules : List Rule} {s : CharClass}
    (h : ∃ r ∈ rules, r.takes s = true) {x : Char} (hx : s.contains x = true) (rest : List Char) :
    ∃ found, rules.findSome? (found? (x :: rest)) = some found := by
  obtain ⟨r, hr, htakes⟩ := h
  obtain ⟨n, hn⟩ := Rule.exists_reach?_of_takes htakes hx rest
  rw [← Option.isSome_iff_exists, List.findSome?_isSome_iff]
  exact ⟨r, hr, by rw [found?, hn]; rfl⟩

/-- What the first of the rules find decides, if they find anything. -/
theorem next_eq_of_findSome? {t : Tokenizer} {before after : List Rule}
    (h : t.rules = before ++ after) {text : List Char} {found : TokenKind × Nat}
    (hfound : before.findSome? (found? text) = some found) : t.next text = found := by
  rw [next, h, List.findSome?_append, hfound]
  rfl

theorem standard_dropLast :
    standard.rules.dropLast = standard.rules.take 16 ++ [.nonWord] ∧
      standard.rules = standard.rules.dropLast ++ [.guard] := by
  have hlast : standard.rules.dropLast = standard.rules.take 16 ++ [.nonWord] := by
    have hrules := congrArg List.dropLast standard_last.1
    rwa [List.dropLast_append_of_ne_nil (List.cons_ne_nil _ _)] at hrules
  refine ⟨hlast, ?_⟩
  rw [hlast, List.append_assoc]
  exact standard_last.1

/-- The token at the front of a text is found by a rule, and never by the last one. -/
theorem findSome?_dropLast (x : Char) (rest : List Char) :
    standard.rules.dropLast.findSome? (found? (x :: rest)) = some (standard.next (x :: rest)) := by
  obtain ⟨hlast, hsplit⟩ := standard_dropLast
  obtain ⟨-, -, ⟨r, hr, htakes⟩, -⟩ := standard_last
  have htaken : ∃ s, s.contains x = true ∧ ∃ r ∈ standard.rules.dropLast, r.takes s = true := by
    rw [hlast]
    -- The rule for words takes a word character, and the one before the last takes all others.
    cases hx : Text.isWordChar x with
    | true => exact ⟨.word, hx, r, List.mem_append_left _ hr, htakes⟩
    | false =>
        refine ⟨.compl .word, ?_, .nonWord, by simp, by decide⟩
        rw [CharClass.contains, CharClass.contains, hx, Bool.not_false]
  obtain ⟨s, hx, hrules⟩ := htaken
  obtain ⟨found, hfound⟩ := exists_findSome?_of_takes hrules hx rest
  rw [hfound, next_eq_of_findSome? hsplit hfound]

/-- Where rules before those for other characters take the first character, the token is none of
theirs. -/
theorem next_ne_other {s : CharClass} (h : ∃ r ∈ standard.rules.take 16, r.takes s = true) {x : Char}
    (hx : s.contains x = true) (rest : List Char) : (standard.next (x :: rest)).1 ≠ .other := by
  obtain ⟨hrules, hkinds, -⟩ := standard_last
  obtain ⟨found, hfound⟩ := exists_findSome?_of_takes h hx rest
  rw [next_eq_of_findSome? hrules hfound]
  obtain ⟨r, hr, hkind⟩ := List.exists_of_findSome?_eq_some hfound
  obtain ⟨n, -, rfl⟩ := Option.map_eq_some_iff.1 hkind
  exact hkinds r hr

/-- A token without a rule of its own is one character, neither a word character nor blank. -/
theorem exists_of_mem_other {text : String} {a : Token} (ha : a ∈ standard.tokens text)
    (hkind : a.kind = .other) :
    ∃ x, a.text.toList = [x] ∧ Text.isWordChar x = false ∧ Text.isBlank x = false := by
  obtain ⟨-, -, hword, hblank⟩ := standard_last
  obtain ⟨rest, n, hrest, hnext, htext⟩ := exists_next_of_mem ha
  rw [hkind] at hnext
  obtain rfl := eq_one_of_next hnext
  obtain ⟨x, rest, rfl⟩ := List.exists_cons_of_ne_nil hrest
  refine ⟨x, htext, ?_, ?_⟩
  · exact Bool.eq_false_iff.2 fun hx => next_ne_other hword hx rest (by rw [hnext])
  · exact Bool.eq_false_iff.2 fun hx => next_ne_other hblank hx rest (by rw [hnext])

end Tokenizer

/-! ## The classes of rules -/

/-- The code points of the blank characters. -/
def Text.blankCodes : List Nat := blankRanges.flatMap fun r => List.range' r.lo (r.hi + 1 - r.lo)

theorem Text.mem_blankCodes {c : Char} (h : isBlank c = true) : c.toNat ∈ blankCodes := by
  obtain ⟨r, hr, hlo, hhi⟩ := exists_of_inRanges h
  exact List.mem_flatMap.2 ⟨r, hr, List.mem_range'_1.2 (by omega)⟩

/-- Whether a class is put together of single characters with a property. -/
def CharClass.consistsOf (p : Char → Bool) : CharClass → Bool
  | range lo hi => lo == hi && p lo
  | union a b => a.consistsOf p && b.consistsOf p
  | _ => false

theorem CharClass.of_consistsOf {p : Char → Bool} {s : CharClass} (hs : s.consistsOf p = true)
    {x : Char} (hx : s.contains x = true) : p x = true := by
  induction s with
  | range lo hi =>
      rw [consistsOf, Bool.and_eq_true, beq_iff_eq] at hs
      obtain ⟨rfl, hlo⟩ := hs
      rwa [contains_single.1 hx]
  | union a b iha ihb =>
      rw [consistsOf, Bool.and_eq_true] at hs
      rw [contains, Bool.or_eq_true] at hx
      exact hx.elim (iha hs.1) (ihb hs.2)
  | none | any | digit | blank | word | property | inter | diff | symmDiff | compl | anyCase
  | asciiCase => cases hs

/-- Whether the tokens of a kind may hold blank characters: blank space, comments and tags. -/
def TokenKind.mayHoldBlank : TokenKind → Bool
  | comment | tag | paragraphBreak | lineBreak | space => true
  | sentenceEnd | word | cardinal | punctuation | other => false

/-- Among the standard rules, only those for tokens that may hold blank characters read them, apart
from the rules for other characters, and the rules for punctuation read no word characters. -/
theorem standard_reads : ∀ r ∈ Tokenizer.standard.rules, ∀ s ∈ r.pattern.classes,
    (r.kind.mayHoldBlank = false → r.kind ≠ .other →
      ∀ n ∈ Text.blankCodes, s.contains (Char.ofNat n) = false) ∧
    (r.kind = .punctuation ∨ r = .stop ∨ r = .colon →
      s.consistsOf (fun x => !Text.isWordChar x) = true) := by
  rw [Tokenizer.rules_standard]
  decide +kernel

/-- The tokens of the rule for marks that end sentences are all the same. -/
theorem Rule.take_of_reach?_mark {text : List Char} {n : Nat} (h : mark.reach? text = some n) :
    text.take n = "<st>".toList := by
  obtain ⟨d, hrun, rfl, -⟩ := exists_run_of_reach? (by rfl) h
  obtain ⟨e, he, hrest⟩ := Regex.exists_of_mem_run_thenText hrun
  obtain rfl : e = .start text := List.mem_singleton.1 he
  have htext : text = ['<', 's', 't', '>'] ++ d.rest := hrest
  rw [(Regex.reaches_of_mem_run hrun).take_eq htext]
  rfl

/-! ## The characters of tokens -/

/-- A token holds only characters that belong in a token of its kind. -/
structure Token.Classified (a : Token) : Prop where
  /-- Blank characters are in blank space, in comments and in tags only. -/
  blank : ∀ x ∈ a.text.toList, Text.isBlank x = true → a.kind.mayHoldBlank = true
  /-- Blank space holds nothing else. -/
  onlyBlank : a.kind.isBlank = true → ∀ x ∈ a.text.toList, Text.isBlank x = true
  /-- Word characters are in words and numbers, apart from those of the markup. -/
  word : ∀ x ∈ a.text.toList, Text.isWordChar x = true →
    a.kind = .word ∨ a.kind = .cardinal ∨ a.kind = .comment ∨ a.kind = .tag ∨
      a.kind = .sentenceEnd ∧ a.text = "<st>"
  /-- No letter, digit or mark is taken for punctuation. -/
  plain : a.kind = .punctuation ∨ a.kind = .other → ∀ x ∈ a.text.toList,
    Text.letter.holds x = false ∧ Text.isDigit x = false ∧ Text.mark.holds x = false
  /-- What has no rule of its own is a single character. -/
  single : a.kind = .other → a.text.toList.length = 1

section

variable {text : String} {a : Token} (ha : a ∈ Tokenizer.standard.tokens text)

include ha

theorem mayHoldBlank_of_mem_tokens {x : Char} (hx : x ∈ a.text.toList)
    (hblank : Text.isBlank x = true) : a.kind.mayHoldBlank = true := by
  by_cases hother : a.kind = .other
  · obtain ⟨y, hy, -, hyblank⟩ := Tokenizer.exists_of_mem_other ha hother
    rw [hy, List.mem_singleton] at hx
    rw [hx, hyblank] at hblank
    contradiction
  · obtain ⟨r, hr, hrkind, hclasses⟩ := Tokenizer.exists_rule_of_mem_tokens ha hother
    obtain ⟨s, hs, hcontains⟩ := hclasses x hx
    rw [← hrkind] at hother ⊢
    by_contra hkind
    have hreads := (standard_reads r hr s hs).1 (Bool.eq_false_iff.2 hkind) hother _
      (Text.mem_blankCodes hblank)
    rw [Char.ofNat_toNat, hcontains] at hreads
    cases hreads

theorem text_of_mem_tokens_sentenceEnd (hkind : a.kind = .sentenceEnd) {x : Char}
    (hx : x ∈ a.text.toList) (hword : Text.isWordChar x = true) : a.text = "<st>" := by
  obtain ⟨rest, n, -, hnext, htext⟩ := Tokenizer.exists_next_of_mem ha
  rw [hkind] at hnext
  obtain ⟨r, hr, hrkind, hreach⟩ := Tokenizer.exists_of_next hnext (by decide)
  rcases (standard_sentenceEnd r hr).1 hrkind with rfl | hrule
  · rw [Rule.take_of_reach?_mark hreach] at htext
    exact String.toList_inj.1 htext
  · rw [htext] at hx
    obtain ⟨s, hs, hcontains⟩ := Rule.exists_class_of_reach?
      (Rule.forward_pattern (forward_standard r hr)).1 hreach x hx
    have hplain := CharClass.of_consistsOf ((standard_reads r hr s hs).2 (.inr hrule)) hcontains
    rw [hword] at hplain
    cases hplain

theorem isWordChar_of_mem_tokens_plain (hkind : a.kind = .punctuation ∨ a.kind = .other) {x : Char}
    (hx : x ∈ a.text.toList) : Text.isWordChar x = false := by
  rcases hkind with hkind | hkind
  · obtain ⟨r, hr, hrkind, hclasses⟩ :=
      Tokenizer.exists_rule_of_mem_tokens ha (by rw [hkind]; decide)
    obtain ⟨s, hs, hcontains⟩ := hclasses x hx
    have hplain := CharClass.of_consistsOf
      ((standard_reads r hr s hs).2 (.inl (hrkind.trans hkind))) hcontains
    rwa [Bool.not_eq_true'] at hplain
  · obtain ⟨y, hy, hyword, -⟩ := Tokenizer.exists_of_mem_other ha hkind
    rw [hy, List.mem_singleton] at hx
    rw [hx, hyword]

theorem classified_of_mem_tokens : a.Classified where
  blank _ hx hblank := mayHoldBlank_of_mem_tokens ha hx hblank
  onlyBlank := isBlank_of_mem_tokens ha
  word x hx hword := by
    have hblank : a.kind.isBlank = false := by
      rw [Bool.eq_false_iff]
      intro hkind
      rw [Text.isWordChar_of_isBlank (isBlank_of_mem_tokens ha hkind x hx)] at hword
      contradiction
    have hplain : ¬ (a.kind = .punctuation ∨ a.kind = .other) := by
      intro hkind
      rw [isWordChar_of_mem_tokens_plain ha hkind hx] at hword
      contradiction
    have hmark : a.kind = .sentenceEnd → a.text = "<st>" := fun hkind =>
      text_of_mem_tokens_sentenceEnd ha hkind hx hword
    -- What is neither blank nor punctuation is a word, a number, markup, or ends a sentence.
    cases h : a.kind <;> simp [h, TokenKind.isBlank] at hblank hplain hmark ⊢
    exact hmark
  plain hkind x hx := by
    have hword := isWordChar_of_mem_tokens_plain ha hkind hx
    refine ⟨?_, ?_, ?_⟩ <;> rw [Bool.eq_false_iff] <;> intro h
    · rw [Text.isWordChar_of_letter h] at hword
      contradiction
    · rw [Text.isWordChar_of_isDigit h] at hword
      contradiction
    · rw [Text.isWordChar_of_mark h] at hword
      contradiction
  single hkind := by
    obtain ⟨x, hx, -⟩ := Tokenizer.exists_of_mem_other ha hkind
    rw [hx]
    rfl

end

/-! ## The characters of a text -/

/-- A token holds the character of a text that has a number of bytes before it. -/
def Token.HoldsAt (a : Token) (start : Nat) (x : Char) : Prop :=
  ∃ before after : List Char, a.text.toList = before ++ x :: after ∧
    start = a.start + Text.byteLength (String.ofList before)

/-- Where tokens tile a text, each of its characters is in one of them. -/
theorem Tiling.exists_holdsAt {start : Nat} {text : List Char} {ts : List Token}
    (h : Tiling start text ts) {before after : List Char} {x : Char}
    (htext : text = before ++ x :: after) :
    ∃ a ∈ ts, a.HoldsAt (start + Text.byteLength (String.ofList before)) x := by
  induction h generalizing before with
  | nil => simp at htext
  | @cons start piece rest ts kind _ _ ih =>
      -- The character comes after the first piece, or within it, or right behind it (`inner = []`).
      rcases List.append_eq_append_iff.1 htext with ⟨inner, hbefore, hrest⟩ | ⟨inner, hpiece, hafter⟩
      · obtain ⟨a, ha, hholds⟩ := ih hrest
        refine ⟨a, List.mem_cons_of_mem _ ha, ?_⟩
        rwa [hbefore, Text.byteLength_ofList_append, ← Nat.add_assoc]
      · cases inner with
        | nil =>
            have hrest : rest = [] ++ x :: after := hafter.symm
            obtain ⟨a, ha, hholds⟩ := ih hrest
            refine ⟨a, List.mem_cons_of_mem _ ha, ?_⟩
            rw [List.append_nil] at hpiece
            rwa [hpiece] at hholds
        | cons y inner =>
            obtain ⟨rfl, -⟩ := List.cons.inj hafter
            exact ⟨_, List.mem_cons_self, before, inner, by rw [String.toList_ofList, hpiece], rfl⟩

/-- **What characters are taken for.** Each character of a text is in one of its tokens, and the
tokens hold only what belongs in them. The last of the standard rules, which finds any character, is
not needed for that, nor is what a tokenizer does where no rule finds a token: where one begins, the
rules before the last one find it. -/
theorem standard_tokens_classified (text : String) :
    (∀ before x after, text.toList = before ++ x :: after →
      ∃ a ∈ Tokenizer.standard.tokens text,
        a.HoldsAt (Text.byteLength (String.ofList before)) x) ∧
      (∀ a ∈ Tokenizer.standard.tokens text, a.Classified) ∧
      Tokenizer.standard.rules = Tokenizer.standard.rules.dropLast ++ [.guard] ∧
      ∀ x rest, Tokenizer.standard.rules.dropLast.findSome? (Tokenizer.found? (x :: rest)) =
        some (Tokenizer.standard.next (x :: rest)) := by
  refine ⟨fun before x after htext => ?_, fun a ha => classified_of_mem_tokens ha,
    Tokenizer.standard_dropLast.2, Tokenizer.findSome?_dropLast⟩
  have hholds := (Tokenizer.standard.tiling_tokensFrom 0 text.toList).exists_holdsAt htext
  rwa [Nat.zero_add] at hholds

end Interlinear
