import Interlinear.Lists
import Interlinear.Proofs.Regex.Brackets
import Interlinear.Regex.Tokens

set_option autoImplicit false

/-! # Tokens between parentheses

The tokens of a pattern that closes all its groups are read again where the pattern stands between
parentheses (`Cuts.enclosed`), unless it ends in a comment. -/

namespace Interlinear.Regex

/-! ## Groups and repetitions -/

theorem undisturbed_flagSettings {seen settings : List FlagSetting} {on dangling : Bool}
    {cs rest : List Char} (h : flagSettings seen on dangling cs = some (settings, rest)) :
    Undisturbed (flagSettings seen on dangling) cs settings rest := by
  intro more
  induction cs generalizing seen on dangling with
  | nil => contradiction
  | cons c cs ih =>
      rw [flagSettings] at h
      rw [List.cons_append, flagSettings]
      split at h
      next hc =>
        rw [if_pos hc]
        split at h
        next => contradiction
        next hd =>
          obtain ⟨rfl, rfl⟩ := Prod.mk.inj (Option.some.inj h)
          rw [if_neg hd]
          rfl
      next hc =>
        rw [if_neg hc]
        split at h
        next hhyphen =>
          rw [if_pos hhyphen]
          split at h
          next hon =>
            rw [if_pos hon]
            exact ih h
          next => contradiction
        next hhyphen =>
          obtain ⟨f, hf, h⟩ := Option.bind_eq_some_iff.1 h
          rw [if_neg hhyphen, hf]
          show (if _ then _ else _) = _
          split at h
          next => contradiction
          next hseen =>
            rw [if_neg hseen]
            exact ih h

theorem undisturbed_groupName {cs rest : List Char} {t : Token}
    (h : groupName cs = some (t, rest)) : Undisturbed groupName cs t rest := by
  intro more
  rw [groupName, List.span_eq_takeWhile_dropWhile] at h ⊢
  split at h
  next name rest' heq =>
    obtain ⟨rfl, hdrop⟩ := Prod.mk.inj heq
    have hne : cs.dropWhile (· != '>') ≠ [] := by simp [hdrop]
    rw [List.dropWhile_append_of_ne_nil hne, List.takeWhile_append_of_ne_nil hne, hdrop]
    split at h
    next hname =>
      obtain ⟨rfl, rfl⟩ := Prod.mk.inj (Option.some.inj h)
      exact if_pos hname
    next => contradiction
  next => contradiction

theorem groupStart_of_ne {spaced : Bool} {cs : List Char} (h : (skip spaced cs).head? ≠ some '?') :
    groupStart spaced cs = some (.openPlain, skip spaced cs) := by
  rcases hs : skip spaced cs with _ | ⟨c, ds⟩
  · rw [groupStart, hs]
  · have hc : c ≠ '?' := by simpa [hs] using h
    simp [groupStart, hs, hc]

/-- Reads the flags of a group, or those for what follows. -/
def flagGroup (cs : List Char) : Option (Token × List Char) :=
  match flagSettings [] true false cs with
  | some (settings, ':' :: rest) => some (.openFlags settings, rest)
  | some (settings, ')' :: rest) =>
    if settings.isEmpty then none else some (.setFlags settings, rest)
  | _ => none

theorem groupStart_flags {spaced : Bool} {cs ds : List Char} (hs : skip spaced cs = '?' :: ds)
    (hname : ds.head? ≠ some '<') (hnamed : ∀ es, ds ≠ 'P' :: '<' :: es) :
    groupStart spaced cs = flagGroup ds := by
  rw [groupStart, hs]
  split
  next heq => exact absurd (List.cons.inj heq).2 (hnamed _)
  next heq => simp_all
  next heq => simp_all
  next heq => simp_all
  next heq =>
    obtain ⟨-, rfl⟩ := List.cons.inj heq
    rfl
  next heq => exact absurd rfl (heq ds)

theorem groupStart_named {spaced : Bool} {cs ds : List Char}
    (hs : skip spaced cs = '?' :: 'P' :: '<' :: ds) : groupStart spaced cs = groupName ds := by
  rw [groupStart, hs]
  rfl

theorem groupStart_angle {spaced : Bool} {cs ds : List Char}
    (hs : skip spaced cs = '?' :: '<' :: ds) :
    groupStart spaced cs
      = if ds.head? = some '=' ∨ ds.head? = some '!' then none else groupName ds := by
  rw [groupStart, hs]
  cases ds with
  | nil => rfl
  | cons d ds =>
      by_cases hequals : d = '='
      · subst hequals
        rfl
      · by_cases hbang : d = '!'
        · subst hbang
          rfl
        · simp [hequals, hbang]

/-- Flags stay flags where a parenthesis follows. -/
theorem groupStart_flags_close {spaced : Bool} {cs ds : List Char} (hs : skip spaced cs = '?' :: ds)
    (hangle : ds.head? ≠ some '<') (hnamed : ∀ es, ds ≠ 'P' :: '<' :: es) (more : List Char) :
    groupStart spaced (cs ++ ')' :: more) = flagGroup (ds ++ ')' :: more) := by
  refine groupStart_flags (skip_close_of_cons hs more) ?_ fun es heq => ?_
  · cases ds with
    | nil => simp
    | cons d ds => exact hangle
  · match ds with
    | [] => cases heq
    | [d] => cases heq
    | d :: e :: ds =>
        cases heq
        exact hnamed ds rfl

theorem undisturbed_flagGroup {cs rest : List Char} {t : Token} (h : flagGroup cs = some (t, rest)) :
    Undisturbed flagGroup cs t rest := by
  intro more
  rw [flagGroup] at h ⊢
  split at h
  next hset =>
    obtain ⟨rfl, rfl⟩ := Prod.mk.inj (Option.some.inj h)
    rw [undisturbed_flagSettings hset more]
    rfl
  next hset =>
    rw [undisturbed_flagSettings hset more]
    split at h
    next => contradiction
    next hne =>
      obtain ⟨rfl, rfl⟩ := Prod.mk.inj (Option.some.inj h)
      exact if_neg hne
  next => contradiction

theorem contained_groupStart (spaced : Bool) : Contained (groupStart spaced) := by
  intro cs t rest h
  by_cases hhead : (skip spaced cs).head? = some '?'
  · obtain ⟨ds, hs⟩ := List.head?_eq_some_iff.1 hhead
    have hlong := skip_close_of_cons hs
    refine Or.inl fun more => ?_
    by_cases hangle : ds.head? = some '<'
    · -- A name: of the signs for looking behind, which begin alike, nothing is read.
      obtain ⟨es, rfl⟩ := List.head?_eq_some_iff.1 hangle
      rw [groupStart_angle hs] at h
      split at h
      next => contradiction
      next hlook =>
        rcases es with _ | ⟨e, es⟩
        · contradiction
        rw [groupStart_angle (hlong more)]
        exact (if_neg hlook).trans (undisturbed_groupName h more)
    by_cases hnamed : ∃ es, ds = 'P' :: '<' :: es
    · obtain ⟨es, rfl⟩ := hnamed
      rw [groupStart_named hs] at h
      rw [groupStart_named (hlong more)]
      exact undisturbed_groupName h more
    · push Not at hnamed
      rw [groupStart_flags hs hangle hnamed] at h
      rw [groupStart_flags_close hs hangle hnamed]
      exact undisturbed_flagGroup h more
  · -- A plain group, which has read the spacing behind its parenthesis.
    rw [groupStart_of_ne hhead] at h
    obtain ⟨rfl, rfl⟩ := Prod.mk.inj (Option.some.inj h)
    rcases skip_close spaced cs with hs | ⟨hnil, hs⟩
    · refine Or.inl fun more => ?_
      rw [← hs]
      refine groupStart_of_ne ?_
      rw [hs, List.head?_append]
      cases hc : (skip spaced cs).head? with
      | none => simp
      | some c => simpa [hc] using hhead
    · refine Or.inr ⟨hnil, fun more hmore => ?_⟩
      rw [groupStart_of_ne (by rw [hs more hmore]; simp), hs more hmore]

theorem contained_repeated (least : Nat) (most : Option Nat) :
    Contained fun cs => some (repeated least most cs) := by
  intro cs t rest h
  refine Or.inl fun more => ?_
  obtain ⟨rfl, rfl⟩ := Prod.mk.inj (Option.some.inj h)
  rcases cs with _ | ⟨c, cs⟩
  · rfl
  · by_cases hc : c = '?'
    · subst hc
      rfl
    · simp [repeated, greedMark, hc]

theorem count?_nil (spaced : Bool) : count? spaced [] = none := by cases spaced <;> rfl

theorem ne_nil_of_count? {spaced : Bool} {cs : List Char} {x : Nat × List Char}
    (h : count? spaced cs = some x) : cs ≠ [] := by
  rintro rfl
  rw [count?_nil] at h
  contradiction

theorem undisturbed_count? {spaced : Bool} {cs rest : List Char} {n : Nat}
    (h : count? spaced cs = some (n, rest)) (hrest : rest ≠ []) :
    Undisturbed (count? spaced) cs n rest := by
  intro more
  rcases htake : takeSpaced Char.isDigit spaced false (cs.dropWhile Text.isBlank)
    with ⟨digits, after⟩
  rw [count?, htake] at h
  dsimp only at h
  split at h
  next => contradiction
  next hn =>
    obtain ⟨rfl, rfl⟩ := Prod.mk.inj (Option.some.inj h)
    have hafter : after ≠ [] := by
      rintro rfl
      exact hrest rfl
    have hcs : cs.dropWhile Text.isBlank ≠ [] := by
      intro hnil
      rw [hnil] at htake
      exact hafter (Prod.mk.inj htake).2.symm
    rw [count?, List.dropWhile_append_of_ne_nil hcs, takeSpaced_append htake hafter]
    dsimp only
    rw [if_neg hn, List.dropWhile_append_of_ne_nil hrest]

theorem contained_repeated_skip (spaced : Bool) (least : Nat) (most : Option Nat) :
    Contained fun cs => some (repeated least most (skip spaced cs)) := by
  intro cs t rest h
  rcases skip_close spaced cs with hs | ⟨hnil, hs⟩
  · exact (contained_repeated least most).of_eq (fun more => by rw [hs]) h
  · have hread : some (repeated least most (skip spaced cs)) = some (t, rest) := h
    rw [hnil] at hread
    obtain ⟨rfl, rfl⟩ := Prod.mk.inj (Option.some.inj hread)
    exact Or.inr ⟨rfl, fun more hmore => by simp only [hs more hmore]; rfl⟩

/-- Reads the end of a repetition after both its numbers. -/
def braceAfter (least most : Nat) : Reader (Option Nat)
  | '\x7d' :: cs => if least ≤ most then some (some most, cs) else none
  | _ => none

/-- Reads the rest of a repetition after its first number. -/
def mostOf (spaced : Bool) (least : Nat) : Reader (Option Nat)
  | ',' :: cs =>
    match skip spaced cs with
    | '\x7d' :: cs => some (none, cs)
    | cs => (count? spaced cs).bind fun (most, cs) => braceAfter least most cs
  | '\x7d' :: cs => some (some least, cs)
  | _ => none

theorem mostOf_of_brace {spaced : Bool} {cs ds : List Char} (hs : skip spaced cs = '\x7d' :: ds)
    (least : Nat) : mostOf spaced least (',' :: cs) = some (none, ds) := by
  rw [mostOf, hs]
  rfl

theorem mostOf_of_ne {spaced : Bool} {cs : List Char} (h : ∀ ds, skip spaced cs ≠ '\x7d' :: ds)
    (least : Nat) : mostOf spaced least (',' :: cs)
      = (count? spaced (skip spaced cs)).bind fun (most, cs) => braceAfter least most cs := by
  rw [mostOf]
  split
  next ds hs => exact absurd hs (h ds)
  next => rfl

theorem counted_eq (spaced : Bool) (cs : List Char) :
    counted spaced cs = (count? spaced (skip spaced cs)).bind fun (least, cs) =>
      (mostOf spaced least cs).bind fun (most, cs) =>
        some (repeated least most (skip spaced cs)) := by
  rw [counted]
  refine Option.bind_congr fun item _ => ?_
  obtain ⟨least, after⟩ := item
  dsimp only
  split
  next ds _ =>
    split
    next hs =>
      rw [mostOf_of_brace hs]
      rfl
    next hbrace =>
      rw [mostOf_of_ne hbrace]
      simp only [Option.bind_eq_bind, Option.bind_assoc]
      refine Option.bind_congr fun item _ => ?_
      obtain ⟨n, es⟩ := item
      dsimp only [braceAfter]
      split
      · split <;> rfl
      · simp
  next => rfl
  next => simp [mostOf]

theorem undisturbed_braceAfter {least n : Nat} {cs rest : List Char} {most : Option Nat}
    (h : braceAfter least n cs = some (most, rest)) :
    Undisturbed (braceAfter least n) cs most rest := by
  intro more
  rw [braceAfter.eq_def] at h
  split at h
  next =>
    split at h
    next hle =>
      obtain ⟨rfl, rfl⟩ := Prod.mk.inj (Option.some.inj h)
      exact if_pos hle
    next => contradiction
  next => contradiction

theorem undisturbed_mostOf {spaced : Bool} {least : Nat} {cs rest : List Char} {most : Option Nat}
    (h : mostOf spaced least cs = some (most, rest)) :
    Undisturbed (mostOf spaced least) cs most rest := by
  intro more
  rcases cs with _ | ⟨c, cs⟩
  · contradiction
  by_cases hcomma : c = ','
  · subst hcomma
    rcases hs : skip spaced cs with _ | ⟨d, ds⟩
    · simp [mostOf, hs, count?_nil] at h
    have hlong := skip_close_of_cons hs more
    by_cases hbrace : d = '\x7d'
    · subst hbrace
      rw [mostOf_of_brace hs] at h
      obtain ⟨rfl, rfl⟩ := Prod.mk.inj (Option.some.inj h)
      exact mostOf_of_brace hlong least
    · rw [mostOf_of_ne (by simp [hs, hbrace]), hs] at h
      obtain ⟨⟨n, after⟩, hn, h⟩ := Option.bind_eq_some_iff.1 h
      have hafter : after ≠ [] := by
        rintro rfl
        contradiction
      rw [List.cons_append, mostOf_of_ne (by simp [hlong, hbrace]), hlong, ← List.cons_append,
        undisturbed_count? hn hafter]
      exact undisturbed_braceAfter h more
  by_cases hbrace : c = '\x7d'
  · subst hbrace
    obtain ⟨rfl, rfl⟩ := Prod.mk.inj (Option.some.inj h)
    rfl
  · simp [mostOf, hcomma, hbrace] at h

theorem contained_counted (spaced : Bool) : Contained (counted spaced) := by
  intro cs t rest h
  rw [counted_eq] at h
  obtain ⟨⟨least, after⟩, hleast, h⟩ := Option.bind_eq_some_iff.1 h
  obtain ⟨⟨most, after'⟩, hmost, h⟩ := Option.bind_eq_some_iff.1 h
  obtain ⟨c, ds, hs⟩ := List.exists_cons_of_ne_nil (ne_nil_of_count? hleast)
  have hafter : after ≠ [] := by
    rintro rfl
    contradiction
  refine (contained_repeated_skip spaced least most).of_eq (fun more => ?_) h
  have hleast := undisturbed_count? hleast hafter more
  rw [hs] at hleast
  rw [counted_eq, skip_close_of_cons hs, ← List.cons_append, hleast]
  simp only [Option.bind_some, undisturbed_mostOf hmost more]

/-! ## Tokens -/

theorem contained_token (spaced : Bool) (c : Char) : Contained (token spaced c) := by
  intro cs t rest h
  rw [token.eq_def] at h
  split at h
  case h_1 => exact (contained_groupStart spaced).of_eq (fun more => rfl) h
  case h_4 => exact (contained_bracketed spaced).of_eq (fun more => rfl) h
  case h_5 => exact (contained_repeated 0 (some 1)).of_eq (fun more => rfl) h
  case h_6 => exact (contained_repeated 0 none).of_eq (fun more => rfl) h
  case h_7 => exact (contained_repeated 1 none).of_eq (fun more => rfl) h
  case h_8 => exact (contained_counted spaced).of_eq (fun more => rfl) h
  case h_9 => exact (contained_escape spaced).of_eq (fun more => rfl) h
  case h_13 =>
    refine (contained_rest _).of_eq (fun more => ?_) h
    simp [token, *]
  all_goals exact (contained_rest _).of_eq (fun more => rfl) h

/-! ## Lists of tokens -/

/-- The number of open groups after a token; none if it closes a group where none is open. -/
def Token.depthAfter? (depth : Nat) : Token → Option Nat
  | .openNamed _ | .openPlain | .openFlags _ => some (depth + 1)
  | .close => if depth = 0 then none else some (depth - 1)
  | _ => some depth

/-- A pattern is cut into tokens, from a place where the settings of spacing are given, for the
group that is open and for those around it. -/
inductive Cuts : Bool → List Bool → List Char → List Token → Prop
  | done {spaced : Bool} {outer : List Bool} {cs : List Char} (hs : skip spaced cs = []) :
    Cuts spaced outer cs []
  | token {spaced : Bool} {outer : List Bool} {c : Char} {cs ds rest : List Char} {t : Token}
    {ts : List Token} (hs : skip spaced cs = c :: ds) (ht : token spaced c ds = some (t, rest))
    (hrest : Cuts (spacingAfter spaced outer t).1 (spacingAfter spaced outer t).2 rest ts) :
    Cuts spaced outer cs (t :: ts)

theorem cuts_of_tokensFrom {bound : Nat} {spaced : Bool} {outer : List Bool} {cs : List Char}
    {ts : List Token} (h : tokensFrom bound spaced outer cs = some ts) :
    Cuts spaced outer cs ts := by
  induction bound generalizing spaced outer cs ts with
  | zero => contradiction
  | succ bound ih =>
      rw [tokensFrom] at h
      split at h
      next hs =>
        obtain rfl := Option.some.inj h
        exact .done hs
      next c ds hs =>
        obtain ⟨⟨t, rest⟩, ht, h⟩ := Option.bind_eq_some_iff.1 h
        obtain ⟨ts, hts, h⟩ := Option.bind_eq_some_iff.1 h
        obtain rfl := Option.some.inj h
        exact .token hs ht (ih hts)

theorem cuts_of_tokens? {cs : List Char} {ts : List Token} (h : tokens? cs = some ts) :
    Cuts false [] cs ts :=
  cuts_of_tokensFrom h

namespace Cuts

variable {spaced : Bool} {outer : List Bool} {cs ds rest : List Char} {c : Char} {t : Token}
  {ts TS : List Token}

theorem eq_nil (h : Cuts spaced outer cs ts) (hs : skip spaced cs = []) : ts = [] := by
  cases h with
  | done => rfl
  | token hs' => rw [hs] at hs'; contradiction

/-- The next token and the tokens after it. -/
theorem exists_cons (h : Cuts spaced outer cs ts) (hs : skip spaced cs = c :: ds) :
    ∃ t rest ts', Regex.token spaced c ds = some (t, rest) ∧ ts = t :: ts' ∧
      Cuts (spacingAfter spaced outer t).1 (spacingAfter spaced outer t).2 rest ts' := by
  cases h with
  | done hs' => rw [hs] at hs'; contradiction
  | token hs' ht hrest =>
      obtain ⟨rfl, rfl⟩ := List.cons.inj (hs.symm.trans hs')
      exact ⟨_, _, _, ht, rfl, hrest⟩

/-- The tokens after a token that is known. -/
theorem exists_of_token (h : Cuts spaced outer cs ts) (hs : skip spaced cs = c :: ds)
    (ht : Regex.token spaced c ds = some (t, rest)) :
    ∃ ts', ts = t :: ts' ∧
      Cuts (spacingAfter spaced outer t).1 (spacingAfter spaced outer t).2 rest ts' := by
  obtain ⟨t', rest', ts', ht', rfl, hrest⟩ := h.exists_cons hs
  obtain ⟨rfl, rfl⟩ := Prod.mk.inj (Option.some.inj (ht.symm.trans ht'))
  exact ⟨ts', rfl, hrest⟩

theorem of_skip_eq {cs' : List Char} (h : Cuts spaced outer cs ts)
    (hs : skip spaced cs' = skip spaced cs) : Cuts spaced outer cs' ts := by
  cases h with
  | done hs' => exact .done (hs.trans hs')
  | token hs' ht hrest => exact .token (hs.trans hs') ht hrest

end Cuts

/-- Tokens that close no group around them do not look at the settings around them. -/
theorem spacingAfter_append (spaced : Bool) {outer : List Bool} {t : Token} {depth : Nat}
    (h : t.depthAfter? outer.length = some depth) :
    (spacingAfter spaced outer t).2.length = depth ∧
      ∀ around, spacingAfter spaced (outer ++ around) t
        = ((spacingAfter spaced outer t).1, (spacingAfter spaced outer t).2 ++ around) := by
  cases t with
  | close =>
      cases outer with
      | nil => contradiction
      | cons s outer => exact ⟨Option.some.inj h, fun _ => rfl⟩
  | _ => exact ⟨Option.some.inj h, fun _ => rfl⟩

/-- **Patterns between parentheses.** The tokens of a pattern are the first tokens of any text in
which it is followed by a parenthesis, and the parenthesis is the next one; or, if the pattern ends
in a comment, there are no more tokens to the end of the line. -/
theorem Cuts.enclosed {spaced : Bool} {outer : List Bool} {cs : List Char} {ts : List Token}
    {depth : Nat} (h : Cuts spaced outer cs ts)
    (hdepth : ts.foldlM Token.depthAfter? outer.length = some depth) :
    (∃ spaced' outer', outer'.length = depth ∧ ∀ around more TS,
        Cuts spaced (outer ++ around) (cs ++ ')' :: more) TS →
        ∃ TS', Cuts spaced' (outer' ++ around) (')' :: more) TS' ∧ TS = ts ++ TS') ∨
      ∀ around more TS, '\n' ∉ more → Cuts spaced (outer ++ around) (cs ++ ')' :: more) TS →
        TS = ts := by
  induction h generalizing depth with
  | @done spaced outer cs hs =>
      obtain rfl := Option.some.inj hdepth
      rcases skip_close spaced cs with hclose | ⟨-, hclose⟩
      · refine Or.inl ⟨spaced, outer, rfl, fun around more TS hTS => ⟨TS, ?_, rfl⟩⟩
        refine hTS.of_skip_eq ?_
        rw [skip_close_nil, hclose, hs]
        rfl
      · exact Or.inr fun around more TS hmore hTS => hTS.eq_nil (hclose more hmore)
  | @token spaced outer c cs ds rest t ts hs ht hrest ih =>
      obtain ⟨depth', hdepth', hdepth⟩ := Option.bind_eq_some_iff.1 hdepth
      obtain ⟨hlen, hspacing⟩ := spacingAfter_append spaced hdepth'
      rcases contained_token spaced c _ _ _ ht with hsame | ⟨hnil, hgone⟩
      · have hlong : ∀ around more TS, Cuts spaced (outer ++ around) (cs ++ ')' :: more) TS →
            ∃ TS', TS = t :: TS' ∧ Cuts (spacingAfter spaced outer t).1
              ((spacingAfter spaced outer t).2 ++ around) (rest ++ ')' :: more) TS' := by
          intro around more TS hTS
          obtain ⟨TS', rfl, hTS'⟩ := hTS.exists_of_token (skip_close_of_cons hs more) (hsame more)
          rw [hspacing around] at hTS'
          exact ⟨TS', rfl, hTS'⟩
        rcases ih (hlen.symm ▸ hdepth) with ⟨spaced', outer', hlen', hclean⟩ | hgone
        · refine Or.inl ⟨spaced', outer', hlen', fun around more TS hTS => ?_⟩
          obtain ⟨TS', rfl, hTS'⟩ := hlong around more TS hTS
          obtain ⟨TS'', hclose, rfl⟩ := hclean around more TS' hTS'
          exact ⟨TS'', hclose, rfl⟩
        · refine Or.inr fun around more TS hmore hTS => ?_
          obtain ⟨TS', rfl, hTS'⟩ := hlong around more TS hTS
          rw [hgone around more TS' hmore hTS']
      · -- The token itself ends in a comment, so it is the last one.
        refine Or.inr fun around more TS hmore hTS => ?_
        obtain ⟨TS', rfl, hTS'⟩ :=
          hTS.exists_of_token (skip_close_of_cons hs more) (hgone more hmore)
        rw [hnil] at hrest
        rw [hrest.eq_nil (skip_nil _), hTS'.eq_nil (skip_nil _)]

end Interlinear.Regex
