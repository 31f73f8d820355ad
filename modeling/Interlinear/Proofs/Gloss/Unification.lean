import Interlinear.Gloss.Basic

set_option autoImplicit false

/-! # Unification as agreement

Forms, meanings, sets of tags and lists of morphemes are unified by one scheme: what is empty asks
for nothing, and two values that are both given have to agree (`whereGiven`). Whatever the agreement
of given values is, the scheme makes the empty value neutral and keeps commutativity and
associativity. So unification makes glosses a partial semilattice, and its neutral element is the
empty gloss (`Gloss.unify?_comm_self_empty_assoc`). The proofs for morphemes follow the nesting.

Associativity is proved as rotation: what `a` and `b` agree on, unified with `c`, is what `b` and `c`
agree on, unified with `a`. Both sides then have the same shape. -/

namespace Interlinear

/-! ## Agreement of what is given -/

section WhereGiven

variable {α : Type}

/-- What two values agree on, where an empty one asks for nothing. -/
def whereGiven (isEmpty : α → Bool) (agree? : α → α → Option α) (a b : α) : Option α :=
  if isEmpty a then some b
  else if isEmpty b then some a
  else agree? a b

variable {isEmpty : α → Bool} {agree? : α → α → Option α} {a b c e : α}

theorem whereGiven_of_isEmpty (ha : isEmpty a = true) : whereGiven isEmpty agree? a b = some b :=
  if_pos ha

theorem whereGiven_of_given (ha : isEmpty a = false) (hb : isEmpty b = false) :
    whereGiven isEmpty agree? a b = agree? a b := by
  simp [whereGiven, ha, hb]

theorem whereGiven_empty (hone : ∀ x y, isEmpty x = true → isEmpty y = true → x = y)
    (he : isEmpty e = true) : whereGiven isEmpty agree? a e = some a := by
  by_cases ha : isEmpty a = true
  · rw [whereGiven_of_isEmpty ha, hone e a he ha]
  · rw [whereGiven, if_neg ha, if_pos he]

theorem whereGiven_self (h : agree? a a = some a) : whereGiven isEmpty agree? a a = some a := by
  by_cases ha : isEmpty a = true
  · exact whereGiven_of_isEmpty ha
  · rw [whereGiven, if_neg ha, if_neg ha, h]

theorem whereGiven_comm (hone : ∀ x y, isEmpty x = true → isEmpty y = true → x = y)
    (h : agree? a b = agree? b a) :
    whereGiven isEmpty agree? a b = whereGiven isEmpty agree? b a := by
  by_cases ha : isEmpty a = true
  · rw [whereGiven_of_isEmpty ha, whereGiven_empty hone ha]
  · by_cases hb : isEmpty b = true
    · rw [whereGiven_of_isEmpty hb, whereGiven_empty hone hb]
    · rw [whereGiven, whereGiven, if_neg ha, if_neg ha, if_neg hb, if_neg hb, h]

/-- What given values agree on must be given itself. Otherwise an agreement on nothing would pass
for a value that asks for nothing, and nothing unified with it later could contradict it. -/
theorem whereGiven_rotate (hone : ∀ x y, isEmpty x = true → isEmpty y = true → x = y)
    (hgiven : ∀ x y z, agree? x y = some z → isEmpty x = false → isEmpty z = false)
    (hcomm : ∀ x y, agree? x y = agree? y x)
    (h : (agree? a b).bind (agree? · c) = (agree? b c).bind (agree? · a)) :
    (whereGiven isEmpty agree? a b).bind (whereGiven isEmpty agree? · c)
      = (whereGiven isEmpty agree? b c).bind (whereGiven isEmpty agree? · a) := by
  have hneutral : ∀ e, isEmpty e = true → (whereGiven isEmpty agree? · e) = some :=
    fun e he => funext fun x => whereGiven_empty hone he
  cases ha : isEmpty a with
  | true => rw [whereGiven_of_isEmpty ha, hneutral a ha, Option.bind_some, Option.bind_fun_some]
  | false =>
      cases hb : isEmpty b with
      | true =>
          rw [whereGiven_empty hone hb, whereGiven_of_isEmpty hb, Option.bind_some,
            Option.bind_some, whereGiven_comm hone (hcomm a c)]
      | false =>
          cases hc : isEmpty c with
          | true =>
              rw [hneutral c hc, whereGiven_empty hone hc, Option.bind_some, Option.bind_fun_some,
                whereGiven_comm hone (hcomm a b)]
          | false =>
              rw [whereGiven_of_given ha hb, whereGiven_of_given hb hc]
              calc (agree? a b).bind (whereGiven isEmpty agree? · c)
                  = (agree? a b).bind (agree? · c) := Option.bind_congr fun x hx =>
                    whereGiven_of_given (hgiven a b x hx ha) hc
                _ = (agree? b c).bind (agree? · a) := h
                _ = (agree? b c).bind (whereGiven isEmpty agree? · a) :=
                    Option.bind_congr fun x hx =>
                      (whereGiven_of_given (hgiven b c x hx hb) ha).symm

end WhereGiven

/-! ## Texts -/

namespace Gloss

/-- Two given texts agree if they are the same. -/
def sameText? (a b : String) : Option String := if a = b then some a else none

theorem unifyText?_eq_whereGiven : unifyText? = whereGiven String.isEmpty sameText? := rfl

theorem text_eq_of_isEmpty (x y : String) (hx : x.isEmpty = true) (hy : y.isEmpty = true) :
    x = y := by
  rw [String.isEmpty_iff.1 hx, String.isEmpty_iff.1 hy]

theorem sameText?_comm (a b : String) : sameText? a b = sameText? b a := by
  by_cases h : a = b
  · rw [h]
  · rw [sameText?, sameText?, if_neg h, if_neg (Ne.symm h)]

theorem sameText?_rotate (a b c : String) :
    (sameText? a b).bind (sameText? · c) = (sameText? b c).bind (sameText? · a) := by
  by_cases hab : a = b
  · subst hab
    by_cases hac : a = c <;> simp [sameText?, hac]
  · by_cases hbc : b = c
    · subst hbc
      simp [sameText?, hab, Ne.symm hab]
    · simp [sameText?, hab, hbc]

theorem given_of_sameText? (x y z : String) (h : sameText? x y = some z)
    (hx : x.isEmpty = false) : z.isEmpty = false := by
  rw [sameText?] at h
  split at h
  · obtain rfl := Option.some.inj h
    exact hx
  · contradiction

theorem unifyText?_comm (a b : String) : unifyText? a b = unifyText? b a :=
  whereGiven_comm text_eq_of_isEmpty (sameText?_comm a b)

theorem unifyText?_rotate (a b c : String) :
    (unifyText? a b).bind (unifyText? · c) = (unifyText? b c).bind (unifyText? · a) :=
  whereGiven_rotate text_eq_of_isEmpty given_of_sameText? sameText?_comm (sameText?_rotate a b c)

end Gloss

/-! ## Sets of tags -/

namespace TagSet

/-- Two given sets agree if they share a member. -/
def shared? (a b : TagSet) : Option TagSet :=
  if (a.inter b).isEmpty then none else some (a.inter b)

theorem unify?_eq_whereGiven : unify? = whereGiven isEmpty shared? := rfl

theorem eq_of_isEmpty (x y : TagSet) (hx : x.isEmpty = true) (hy : y.isEmpty = true) : x = y :=
  ext (by rw [List.isEmpty_iff.1 hx, List.isEmpty_iff.1 hy])

theorem inter_comm (a b : TagSet) : a.inter b = b.inter a :=
  ext_mem fun x => by rw [mem_inter, mem_inter, and_comm]

theorem inter_assoc (a b c : TagSet) : (a.inter b).inter c = a.inter (b.inter c) :=
  ext_mem fun x => by rw [mem_inter, mem_inter, mem_inter, mem_inter, and_assoc]

theorem inter_self (a : TagSet) : a.inter a = a :=
  ext_mem fun x => by rw [mem_inter, and_self_iff]

/-- What an empty set shares with another one is empty. -/
theorem isEmpty_inter {a b : TagSet} (h : a.isEmpty = true) : (a.inter b).isEmpty = true := by
  have hnil : a.toList = [] := List.isEmpty_iff.1 h
  show (a.toList.filter b.contains).isEmpty = true
  rw [hnil]
  rfl

theorem shared?_comm (a b : TagSet) : shared? a b = shared? b a := by
  rw [shared?, shared?, inter_comm]

/-- What three sets share, or nothing if they share no member. -/
theorem bind_shared? (a b c : TagSet) :
    (shared? a b).bind (shared? · c) =
      if ((a.inter b).inter c).isEmpty then none else some ((a.inter b).inter c) := by
  rw [shared?]
  split
  next h => rw [Option.bind_none, if_pos (isEmpty_inter h)]
  next => rw [Option.bind_some, shared?]

theorem shared?_rotate (a b c : TagSet) :
    (shared? a b).bind (shared? · c) = (shared? b c).bind (shared? · a) := by
  rw [bind_shared?, bind_shared?, inter_assoc, inter_comm a]

theorem given_of_shared? (x y z : TagSet) (h : shared? x y = some z)
    (_ : x.isEmpty = false) : z.isEmpty = false := by
  rw [shared?] at h
  split at h
  · contradiction
  next hne =>
    rw [← Option.some.inj h]
    exact Bool.eq_false_iff.2 hne

theorem unify?_comm (a b : TagSet) : a.unify? b = b.unify? a :=
  whereGiven_comm eq_of_isEmpty (shared?_comm a b)

theorem unify?_empty (a : TagSet) : a.unify? .empty = some a := by
  rw [unify?_eq_whereGiven]
  exact whereGiven_empty eq_of_isEmpty rfl

theorem unify?_self (a : TagSet) : a.unify? a = some a := by
  rw [unify?, inter_self]
  split
  · rfl
  · rfl

theorem unify?_rotate (a b c : TagSet) :
    (a.unify? b).bind (·.unify? c) = (b.unify? c).bind (·.unify? a) :=
  whereGiven_rotate eq_of_isEmpty given_of_shared? shared?_comm (shared?_rotate a b c)

end TagSet

/-! ## Glosses -/

namespace Gloss

/-- Unifies two lists of morphemes where both are given. -/
def unifyMorphemes? : List Gloss → List Gloss → Option (List Gloss) :=
  whereGiven List.isEmpty unifyAll?

theorem morphemes_eq_of_isEmpty (x y : List Gloss) (hx : x.isEmpty = true)
    (hy : y.isEmpty = true) : x = y := by
  rw [List.isEmpty_iff.1 hx, List.isEmpty_iff.1 hy]

/-- Glosses are unified field by field. -/
theorem unify?_eq_some_iff {a b g : Gloss} :
    a.unify? b = some g ↔
      unifyText? a.form b.form = some g.form ∧ unifyText? a.meaning b.meaning = some g.meaning ∧
        a.tags.unify? b.tags = some g.tags ∧
          unifyMorphemes? a.morphemes b.morphemes = some g.morphemes := by
  obtain ⟨form, tags, meaning, morphemes⟩ := a
  obtain ⟨form', tags', meaning', morphemes'⟩ := g
  rw [unify?]
  constructor
  · intro h
    obtain ⟨x, hform, h⟩ := Option.bind_eq_some_iff.1 h
    obtain ⟨y, hmeaning, h⟩ := Option.bind_eq_some_iff.1 h
    obtain ⟨z, htags, h⟩ := Option.bind_eq_some_iff.1 h
    obtain ⟨w, hmorphemes, h⟩ := Option.bind_eq_some_iff.1 h
    cases h
    exact ⟨hform, hmeaning, htags, hmorphemes⟩
  · rintro ⟨hform, hmeaning, htags, hmorphemes⟩
    refine Option.bind_eq_some_iff.2 ⟨_, hform, Option.bind_eq_some_iff.2 ⟨_, hmeaning, ?_⟩⟩
    exact Option.bind_eq_some_iff.2 ⟨_, htags, Option.bind_eq_some_iff.2 ⟨_, hmorphemes, rfl⟩⟩

/-- Unifying three glosses is unifying their fields. -/
theorem bind_unify?_eq_some_iff {a b c g : Gloss} :
    (a.unify? b).bind (·.unify? c) = some g ↔
      (unifyText? a.form b.form).bind (unifyText? · c.form) = some g.form ∧
        (unifyText? a.meaning b.meaning).bind (unifyText? · c.meaning) = some g.meaning ∧
          (a.tags.unify? b.tags).bind (·.unify? c.tags) = some g.tags ∧
            (unifyMorphemes? a.morphemes b.morphemes).bind (unifyMorphemes? · c.morphemes)
              = some g.morphemes := by
  simp only [Option.bind_eq_some_iff]
  constructor
  · rintro ⟨x, hab, hxc⟩
    obtain ⟨hform, hmeaning, htags, hmorphemes⟩ := unify?_eq_some_iff.1 hab
    obtain ⟨hform', hmeaning', htags', hmorphemes'⟩ := unify?_eq_some_iff.1 hxc
    exact ⟨⟨_, hform, hform'⟩, ⟨_, hmeaning, hmeaning'⟩, ⟨_, htags, htags'⟩,
      ⟨_, hmorphemes, hmorphemes'⟩⟩
  · rintro ⟨⟨f, hform, hform'⟩, ⟨m, hmeaning, hmeaning'⟩, ⟨t, htags, htags'⟩,
      ⟨ms, hmorphemes, hmorphemes'⟩⟩
    exact ⟨⟨f, t, m, ms⟩, unify?_eq_some_iff.2 ⟨hform, hmeaning, htags, hmorphemes⟩,
      unify?_eq_some_iff.2 ⟨hform', hmeaning', htags', hmorphemes'⟩⟩

theorem unifyAll?_cons_eq_some_iff {a b : Gloss} {as bs r : List Gloss} :
    unifyAll? (a :: as) (b :: bs) = some r ↔
      ∃ g gs, a.unify? b = some g ∧ unifyAll? as bs = some gs ∧ r = g :: gs := by
  rw [unifyAll?]
  constructor
  · intro h
    obtain ⟨g, hg, h⟩ := Option.bind_eq_some_iff.1 h
    obtain ⟨gs, hgs, h⟩ := Option.bind_eq_some_iff.1 h
    exact ⟨g, gs, hg, hgs, (Option.some.inj h).symm⟩
  · rintro ⟨g, gs, hg, hgs, rfl⟩
    exact Option.bind_eq_some_iff.2 ⟨g, hg, Option.bind_eq_some_iff.2 ⟨gs, hgs, rfl⟩⟩

theorem bind_unifyAll?_cons_eq_some_iff {a b c : Gloss} {as bs cs r : List Gloss} :
    (unifyAll? (a :: as) (b :: bs)).bind (unifyAll? · (c :: cs)) = some r ↔
      ∃ g gs, (a.unify? b).bind (·.unify? c) = some g ∧
        (unifyAll? as bs).bind (unifyAll? · cs) = some gs ∧ r = g :: gs := by
  simp only [Option.bind_eq_some_iff]
  constructor
  · rintro ⟨ys, hys, hr⟩
    obtain ⟨x, xs, hx, hxs, rfl⟩ := unifyAll?_cons_eq_some_iff.1 hys
    obtain ⟨g, gs, hg, hgs, rfl⟩ := unifyAll?_cons_eq_some_iff.1 hr
    exact ⟨g, gs, ⟨x, hx, hg⟩, ⟨xs, hxs, hgs⟩, rfl⟩
  · rintro ⟨g, gs, ⟨x, hx, hg⟩, ⟨xs, hxs, hgs⟩, rfl⟩
    exact ⟨x :: xs, unifyAll?_cons_eq_some_iff.2 ⟨x, xs, hx, hxs, rfl⟩,
      unifyAll?_cons_eq_some_iff.2 ⟨g, gs, hg, hgs, rfl⟩⟩

/-- Lists are unified only if they are equally long, and so is the result. -/
theorem length_of_unifyAll? {as bs r : List Gloss} (h : unifyAll? as bs = some r) :
    as.length = r.length ∧ bs.length = r.length := by
  induction as generalizing bs r with
  | nil =>
      cases bs with
      | nil =>
          obtain rfl := Option.some.inj h
          exact ⟨rfl, rfl⟩
      | cons b bs => contradiction
  | cons a as ih =>
      cases bs with
      | nil => contradiction
      | cons b bs =>
          obtain ⟨g, gs, -, hgs, rfl⟩ := unifyAll?_cons_eq_some_iff.1 h
          obtain ⟨has, hbs⟩ := ih hgs
          exact ⟨congrArg (· + 1) has, congrArg (· + 1) hbs⟩

theorem given_of_unifyAll? (x y z : List Gloss) (h : unifyAll? x y = some z)
    (hx : x.isEmpty = false) : z.isEmpty = false := by
  have hlen := (length_of_unifyAll? h).1
  rw [List.isEmpty_eq_false_iff] at hx ⊢
  intro hz
  rw [hz, List.length_nil] at hlen
  exact hx (List.length_eq_zero_iff.1 hlen)

/-- Three lists cannot be unified unless they are equally long, in whichever order. -/
theorem unifyAll?_rotate_of_length_ne {as bs cs : List Gloss}
    (h : ¬ (as.length = bs.length ∧ bs.length = cs.length)) :
    (unifyAll? as bs).bind (unifyAll? · cs) = (unifyAll? bs cs).bind (unifyAll? · as) := by
  have hnone : ∀ xs ys zs : List Gloss, ¬ (xs.length = ys.length ∧ ys.length = zs.length) →
      (unifyAll? xs ys).bind (unifyAll? · zs) = none := by
    intro xs ys zs hne
    refine Option.bind_eq_none_iff.2 fun ws hws =>
      Option.eq_none_iff_forall_ne_some.2 fun r hr => hne ?_
    obtain ⟨hxs, hys⟩ := length_of_unifyAll? hws
    obtain ⟨hlen, hzs⟩ := length_of_unifyAll? hr
    omega
  rw [hnone as bs cs h, hnone bs cs as (by omega)]

mutual

theorem unify?_comm : (a b : Gloss) → a.unify? b = b.unify? a
  | ⟨form, tags, meaning, morphemes⟩, ⟨form', tags', meaning', morphemes'⟩ => by
      have hmorphemes : unifyMorphemes? morphemes morphemes'
          = unifyMorphemes? morphemes' morphemes :=
        whereGiven_comm morphemes_eq_of_isEmpty (unifyAll?_comm morphemes morphemes')
      refine Option.ext fun g => ?_
      rw [unify?_eq_some_iff, unify?_eq_some_iff]
      dsimp only
      rw [unifyText?_comm form, unifyText?_comm meaning, tags.unify?_comm, hmorphemes]

theorem unifyAll?_comm : (as bs : List Gloss) → unifyAll? as bs = unifyAll? bs as
  | [], [] | [], _ :: _ | _ :: _, [] => rfl
  | a :: as, b :: bs => by rw [unifyAll?, unifyAll?, unify?_comm a b, unifyAll?_comm as bs]

end

mutual

theorem unify?_self : (a : Gloss) → a.unify? a = some a
  | ⟨form, tags, meaning, morphemes⟩ => by
      have hsame : ∀ s, sameText? s s = some s := fun s => if_pos rfl
      have htext : ∀ s, unifyText? s s = some s := fun s => whereGiven_self (hsame s)
      exact unify?_eq_some_iff.2 ⟨htext form, htext meaning, tags.unify?_self,
        whereGiven_self (unifyAll?_self morphemes)⟩

theorem unifyAll?_self : (as : List Gloss) → unifyAll? as as = some as
  | [] => rfl
  | a :: as => unifyAll?_cons_eq_some_iff.2 ⟨a, as, unify?_self a, unifyAll?_self as, rfl⟩

end

theorem unify?_empty (a : Gloss) : a.unify? empty = some a := by
  have htext : ∀ s, unifyText? s "" = some s := fun s => by
    rw [unifyText?_eq_whereGiven]
    exact whereGiven_empty text_eq_of_isEmpty rfl
  exact unify?_eq_some_iff.2 ⟨htext a.form, htext a.meaning, a.tags.unify?_empty,
    whereGiven_empty morphemes_eq_of_isEmpty rfl⟩

mutual

theorem unify?_rotate : (a b c : Gloss) →
    (a.unify? b).bind (·.unify? c) = (b.unify? c).bind (·.unify? a)
  | ⟨form, tags, meaning, morphemes⟩, b, c => by
      have hmorphemes : (unifyMorphemes? morphemes b.morphemes).bind
            (unifyMorphemes? · c.morphemes)
          = (unifyMorphemes? b.morphemes c.morphemes).bind (unifyMorphemes? · morphemes) :=
        whereGiven_rotate morphemes_eq_of_isEmpty given_of_unifyAll? unifyAll?_comm
          (unifyAll?_rotate morphemes b.morphemes c.morphemes)
      refine Option.ext fun g => ?_
      rw [bind_unify?_eq_some_iff, bind_unify?_eq_some_iff]
      dsimp only
      rw [unifyText?_rotate form, unifyText?_rotate meaning, tags.unify?_rotate, hmorphemes]

theorem unifyAll?_rotate : (as bs cs : List Gloss) →
    (unifyAll? as bs).bind (unifyAll? · cs) = (unifyAll? bs cs).bind (unifyAll? · as)
  | a :: as, b :: bs, c :: cs => by
      refine Option.ext fun r => ?_
      rw [bind_unifyAll?_cons_eq_some_iff, bind_unifyAll?_cons_eq_some_iff, unify?_rotate a b c,
        unifyAll?_rotate as bs cs]
  | [], [], [] => rfl
  | [], _ :: _, _ | _ :: _, [], _ | [], [], _ :: _ | _ :: _, _ :: _, [] =>
      unifyAll?_rotate_of_length_ne (by simp)

end

/-- **Unification is a partial semilattice.** It is commutative, idempotent and associative, where a
contradiction in one order is one in every order, and the empty gloss adds nothing. -/
theorem unify?_comm_self_empty_assoc :
    (∀ a b : Gloss, a.unify? b = b.unify? a) ∧
    (∀ a : Gloss, a.unify? a = some a) ∧
    (∀ a : Gloss, a.unify? empty = some a) ∧
    ∀ a b c : Gloss, (a.unify? b).bind (·.unify? c) = (b.unify? c).bind (a.unify? ·) := by
  refine ⟨unify?_comm, unify?_self, unify?_empty, fun a b c => ?_⟩
  calc (a.unify? b).bind (·.unify? c)
      = (b.unify? c).bind (·.unify? a) := unify?_rotate a b c
    _ = (b.unify? c).bind (a.unify? ·) := Option.bind_congr fun x _ => unify?_comm x a

end Gloss

end Interlinear
