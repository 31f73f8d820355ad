import Interlinear.Lists
import Interlinear.Proofs.Regex.Runs
import Interlinear.Proofs.Regex.Truncation
import Interlinear.Proofs.Token.StandardRules

set_option autoImplicit false

/-! # Ends of sentences

Three of the standard rules find tokens that end a sentence, and only they ask what follows: the
mark for the end of a sentence, a run of punctuation, and a colon (`standard_sentenceEnd`). Their
tokens begin with different characters. If one of the last two matches a text but rejects what
follows its match, no token that begins within the match ends a sentence there or before
(`next_ne_of_reach?_eq_none`). -/

namespace Interlinear

/-! ## The rules -/

/-- The rules whose tokens end sentences, and those that ask what follows. -/
theorem standard_sentenceEnd : ∀ r ∈ Tokenizer.standard.rules,
    (r.kind = .sentenceEnd → r = .mark ∨ r = .stop ∨ r = .colon) ∧
    (r.follow ≠ none → r = .stop ∨ r = .colon) := by
  rw [Tokenizer.rules_standard]
  decide +kernel

/-! ## Where their tokens begin -/

/-- Where an expression goes on with a text, the characters are read one by one. -/
theorem Regex.exists_of_mem_run_thenText {cs : List Char} {r : Regex} {c d : Cursor}
    (h : d ∈ (r.thenText cs).run c) : ∃ e ∈ r.run c, e.rest = cs ++ d.rest := by
  induction cs generalizing r with
  | nil => exact ⟨d, h, rfl⟩
  | cons x cs ih =>
      obtain ⟨b, hb, hrest⟩ := ih h
      obtain ⟨e, he, hbe⟩ := exists_of_mem_run_seq hb
      obtain ⟨y, hy, hyrest, -⟩ := Cursor.mem_read hbe
      obtain rfl := CharClass.contains_single.1 hy
      exact ⟨e, he, by rw [hyrest, hrest, List.cons_append]⟩

namespace Rule

/-- Wherever in a match of the rule one begins anew, there is a character of the class, and the new
match, if there is one, ends where the old one does. -/
structure Steady (r : Rule) (s : CharClass) : Prop where
  head : ∀ {text : List Char} {d : Cursor} {q : Nat}, r.pattern.find? text = some d →
    q < d.taken → ∃ x ∈ (text.drop q).head?, s.contains x = true
  stop : ∀ {text : List Char} {d e : Cursor} {q : Nat}, r.pattern.find? text = some d →
    q < d.taken → r.pattern.find? (text.drop q) = some e → q + e.taken = d.taken

theorem steady_stop : Steady stop stops where
  head {text d q} hd hq := by
    obtain ⟨hrun, -⟩ := Regex.taken_of_find?_run hd
    have hdrop := List.takeWhile_drop stops.contains (l := text) (n := q) (by omega)
    cases hrest : text.drop q with
    | nil =>
        rw [hrest] at hdrop
        have hlen := congrArg List.length hdrop
        rw [List.length_drop, List.takeWhile_nil, List.length_nil] at hlen
        omega
    | cons x rest =>
        refine ⟨x, rfl, ?_⟩
        by_cases hx : stops.contains x = true
        · exact hx
        · rw [hrest, List.takeWhile_cons_of_neg hx] at hdrop
          have hlen := congrArg List.length hdrop
          rw [List.length_drop, List.length_nil] at hlen
          omega
  stop {text d e q} hd hq he := by
    have hrun := (Regex.taken_of_find?_run hd).1
    have hrun' := (Regex.taken_of_find?_run he).1
    rw [hrun] at hq
    rw [List.takeWhile_drop _ (Nat.le_of_lt hq), List.length_drop] at hrun'
    omega

theorem steady_colon : Steady colon (.single ':') where
  head {text d q} hd hq := by
    obtain ⟨x, hx, hhead, htaken⟩ := Regex.find?_textStart_set hd
    obtain rfl : q = 0 := by omega
    exact ⟨x, hhead, hx⟩
  stop hd hq he := by
    obtain ⟨-, -, -, htaken⟩ := Regex.find?_textStart_set hd
    obtain ⟨-, -, -, htaken'⟩ := Regex.find?_textStart_set he
    omega

theorem head?_of_mark {text : List Char} {d : Cursor} (h : mark.pattern.find? text = some d) :
    text.head? = some '<' := by
  rw [Regex.find?_of_anchored (by rfl)] at h
  obtain ⟨e, he, hrest⟩ := Regex.exists_of_mem_run_thenText (List.mem_of_head? h)
  obtain rfl : e = .start text := List.mem_singleton.1 he
  have htext : text = ['<', 's', 't', '>'] ++ d.rest := hrest
  rw [htext]
  rfl

/-- If a rule rejects what follows its match, it rejects what follows within the match, too. -/
theorem Steady.reach?_drop {r : Rule} {s : CharClass} (hr : Steady r s) {text : List Char}
    {d : Cursor} {q : Nat} (hd : r.pattern.find? text = some d) (hreach : r.reach? text = none)
    (hq : q < d.taken) : r.reach? (text.drop q) = none := by
  rw [Option.eq_none_iff_forall_ne_some] at hreach ⊢
  intro n hn
  obtain ⟨e, he, rfl, -, hafter⟩ := reach?_eq_some_iff.1 hn
  have hstop := hr.stop hd hq he
  rw [List.drop_drop, hstop] at hafter
  exact hreach _ (reach?_eq_some_iff.2 ⟨d, hd, rfl, by omega, hafter⟩)

end Rule

/-- A token that is not a character without a rule was found by a rule. -/
theorem Tokenizer.exists_of_next {t : Tokenizer} {text : List Char} {kind : TokenKind} {n : Nat}
    (h : t.next text = (kind, n)) (hkind : kind ≠ .other) :
    ∃ r ∈ t.rules, r.kind = kind ∧ r.reach? text = some n := by
  rw [next] at h
  cases hfound : t.rules.findSome? (found? text) with
  | none =>
      rw [hfound] at h
      exact absurd (congrArg Prod.fst h).symm hkind
  | some found =>
      rw [hfound] at h
      obtain ⟨r, hr, hfound⟩ := List.exists_of_findSome?_eq_some hfound
      obtain ⟨m, hm, rfl⟩ := Option.map_eq_some_iff.1 hfound
      obtain ⟨rfl, rfl⟩ := Prod.mk.inj h
      exact ⟨r, hr, rfl, hm⟩

/-- If a rule that asks what follows rejects it, no token that begins within its match ends a
sentence within the match. -/
theorem next_ne_of_reach?_eq_none {r : Rule} (hr : r ∈ Tokenizer.standard.rules)
    (hfollow : r.follow ≠ none) {text : List Char} {d : Cursor}
    (hd : r.pattern.find? text = some d) (hreach : r.reach? text = none) {q : Nat}
    (hq : q < d.taken) (n : Nat) :
    Tokenizer.standard.next (text.drop q) ≠ (.sentenceEnd, n) := by
  intro hnext
  obtain ⟨r', hr', hkind, hreach'⟩ := Tokenizer.exists_of_next hnext (by decide)
  obtain ⟨e, he, -⟩ := Rule.reach?_eq_some_iff.1 hreach'
  have hmark : ∀ {x}, x ∈ (text.drop q).head? → r' = .mark → x = '<' := by
    rintro x hx rfl
    rw [Rule.head?_of_mark he] at hx
    exact (Option.some.inj hx).symm
  have hcolon : ∀ {x}, x ∈ (text.drop q).head? → r' = .colon → x = ':' := by
    rintro x hx rfl
    obtain ⟨y, hy, hhead, -⟩ := Regex.find?_textStart_set he
    rw [hhead] at hx
    obtain rfl := Option.some.inj hx
    exact CharClass.contains_single.1 hy
  have hstop : ∀ {x}, x ∈ (text.drop q).head? → r' = .stop → Rule.stops.contains x = true := by
    rintro x hx rfl
    have hpos : 0 < e.taken := (Regex.taken_of_find?_run he).2
    obtain ⟨y, hy, hmem⟩ := Rule.steady_stop.head he hpos
    rw [List.drop_zero] at hy
    obtain rfl := Option.mem_unique hx hy
    exact hmem
  -- The character where the token begins tells the rule that found it: only `r` can have done so.
  rcases (standard_sentenceEnd r hr).2 hfollow with rfl | rfl
  · obtain ⟨x, hx, hmem⟩ := Rule.steady_stop.head hd hq
    rcases (standard_sentenceEnd r' hr').1 hkind with h | h | h
    · exact absurd hmem (by rw [hmark hx h]; decide)
    · rw [h] at hreach'
      exact absurd (Rule.steady_stop.reach?_drop hd hreach hq) (by rw [hreach']; simp)
    · exact absurd hmem (by rw [hcolon hx h]; decide)
  · obtain ⟨x, hx, hmem⟩ := Rule.steady_colon.head hd hq
    obtain rfl := CharClass.contains_single.1 hmem
    rcases (standard_sentenceEnd r' hr').1 hkind with h | h | h
    · exact absurd (hmark hx h) (by decide)
    · exact absurd (hstop hx h) (by decide)
    · rw [h] at hreach'
      exact absurd (Rule.steady_colon.reach?_drop hd hreach hq) (by rw [hreach']; simp)

end Interlinear
