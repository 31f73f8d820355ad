import Interlinear.Proofs.Union.Registration

set_option autoImplicit false

/-! # Registering a dictionary that is a member

A dictionary that is a member already is meant to be ignored when it is registered. But a
registration looks only at the first member of the title. Dictionaries that are added, or put in
the place of others, may have the title of a member; where such a dictionary stands before the
identical one, it is taken for an older version and goes (`Union.register_of_identical`). Where all
members were registered, no two of them have the same title, and an identical dictionary is indeed
ignored (`Union.register_of_identical_of_upkeep`). In any union, registering a dictionary for a
second time has no effect (`Union.register_register`). -/

namespace Interlinear

/-- The dictionaries cannot be told apart by language, name, version and fingerprint. -/
def Dictionary.Identical (m d : Dictionary) : Prop :=
  m.lang = d.lang ∧ m.name = d.name ∧ m.ver = d.ver ∧ m.fingerprint = d.fingerprint

instance (m d : Dictionary) : Decidable (m.Identical d) :=
  inferInstanceAs (Decidable (_ ∧ _))

theorem Dictionary.Identical.title {m d : Dictionary} (h : m.Identical d) : m.title = d.title :=
  Prod.ext h.1 h.2.1

theorem Dictionary.identical_self (d : Dictionary) : d.Identical d := ⟨rfl, rfl, rfl, rfl⟩

namespace Union

variable {u : Union} {d m : Dictionary} {before after : List Dictionary}

/-! ## The first member of a title -/

/-- The dictionary is ignored if the first member of its title is identical. -/
theorem register_of_first_identical (hm : u.members = before ++ m :: after)
    (hbefore : ∀ x ∈ before, x.title ≠ d.title) (hsame : m.Identical d) :
    u.register d = (.unchanged d.fingerprint, u) := by
  rw [register_of_first hm hbefore hsame.title, if_pos hsame.2.2, hsame.2.2.2]

/-- The dictionary takes the place of the first member of its title if that one has another
fingerprint. -/
theorem Sound.register_of_first_other (hs : u.Sound) (hm : u.members = before ++ m :: after)
    (hbefore : ∀ x ∈ before, x.title ≠ d.title) (htitle : m.title = d.title)
    (hfp : m.fingerprint ≠ d.fingerprint) :
    (u.register d).1 = .replaced m.fingerprint d.fingerprint ∧
      (u.register d).2.members =
        others d.fingerprint before ++ d :: others d.fingerprint after := by
  rw [register_of_first hm hbefore htitle, if_neg fun hsame => hfp hsame.2]
  exact ⟨rfl, members_of_entries (hs.entries_replace_of_append hm d)⟩

/-! ## An identical member -/

/-- The first member of the title is displaced if it stands before an identical one, and the
identical one gives up its place. -/
theorem Sound.register_of_identical_behind (hs : u.Sound) {first : Dictionary}
    {front between : List Dictionary} (hm : u.members = front ++ first :: (between ++ m :: after))
    (hsame : m.Identical d) (hfront : ∀ x ∈ front, x.title ≠ d.title)
    (htitle : first.title = d.title) :
    (u.register d).1 = .replaced first.fingerprint d.fingerprint ∧
      (u.register d).2.members = front ++ d :: (between ++ after) := by
  have hmembers : u.members = (front ++ first :: between) ++ m :: after := by
    rw [hm, List.append_assoc, List.cons_append]
  -- No other member has the fingerprint that the two have in common.
  obtain ⟨hbefore, hafter⟩ := List.ne_of_nodup_map hs.nodup hmembers
  rw [hsame.2.2.2] at hbefore hafter
  obtain ⟨hfront', hbetween⟩ := List.forall_mem_append.1 hbefore
  obtain ⟨hfirst, hbetween⟩ := List.forall_mem_cons.1 hbetween
  obtain ⟨hreplaced, hleft⟩ := hs.register_of_first_other hm hfront htitle hfirst
  refine ⟨hreplaced, hleft.trans ?_⟩
  have hrest : others d.fingerprint (between ++ m :: after) = between ++ after :=
    calc others d.fingerprint (between ++ m :: after)
        = others d.fingerprint between ++ others d.fingerprint (m :: after) := List.filter_append ..
      _ = others d.fingerprint between ++ others d.fingerprint after := by
        rw [others, others, List.filter_cons_of_neg (by simp [hsame.2.2.2])]
        rfl
      _ = between ++ after := by rw [others_eq_self hbetween, others_eq_self hafter]
  rw [others_eq_self hfront', hrest]

/-- **When an identical dictionary is ignored.** However a union was made, suppose that a member has
the language, the name, the version and the fingerprint of a dictionary. Registering the dictionary
leaves the union as it is just when no member before that one has the same language and name.
Otherwise, the dictionary takes the place of the first member that does, and the identical member
is gone from its own place. -/
theorem register_of_identical (edits : List Edit) {d m : Dictionary}
    {before after : List Dictionary} (hm : (ofEdits edits).members = before ++ m :: after)
    (hsame : m.Identical d) :
    ((ofEdits edits).register d = (.unchanged d.fingerprint, ofEdits edits) ↔
      ∀ x ∈ before, (x.lang, x.name) ≠ (d.lang, d.name)) ∧
    ∀ front first between, before = front ++ first :: between →
      (∀ x ∈ front, (x.lang, x.name) ≠ (d.lang, d.name)) →
      (first.lang, first.name) = (d.lang, d.name) →
      ((ofEdits edits).register d).1 = .replaced first.fingerprint d.fingerprint ∧
      ((ofEdits edits).register d).2.members = front ++ d :: (between ++ after) := by
  have hs := sound_ofEdits edits
  generalize ofEdits edits = u at hs hm ⊢
  have hbehind : ∀ front first between, before = front ++ first :: between →
      (∀ x ∈ front, x.title ≠ d.title) → first.title = d.title →
      (u.register d).1 = .replaced first.fingerprint d.fingerprint ∧
        (u.register d).2.members = front ++ d :: (between ++ after) := by
    intro front first between hbefore hfront htitle
    rw [hbefore, List.append_assoc, List.cons_append] at hm
    exact hs.register_of_identical_behind hm hsame hfront htitle
  refine ⟨⟨fun hunchanged x hx htitle => ?_, fun hbefore => ?_⟩, hbehind⟩
  · obtain ⟨front, first, between, hbefore, hfront, hfirst⟩ := exists_first_of_title hx htitle
    have hreplaced := (hbehind front first between hbefore hfront hfirst).1
    rw [hunchanged] at hreplaced
    cases hreplaced
  · exact register_of_first_identical hm hbefore hsame

/-- Two dictionaries of one title, where the second one is registered again: it takes the place of
the first. -/
theorem register_of_identical_house :
    ∃ a b, (neck "a").build = .ok a ∧ (house "a").build = .ok b ∧
      ((ofEdits [.ofList [a, b]]).register b).1 = .replaced a.fingerprint b.fingerprint ∧
      ((ofEdits [.ofList [a, b]]).register b).2.members = [b] := by
  refine ⟨(neck "a").dictionary, (house "a").dictionary, if_neg (by decide +kernel),
    if_neg (by decide +kernel), ?_⟩
  have hnew : (house "a").dictionary.fingerprint ∉ (ofList [(neck "a").dictionary]).ids := by
    decide +kernel
  have hm := members_of_entries ((sound_ofList [(neck "a").dictionary]).entries_add_of_not_mem hnew)
  exact (register_of_identical [.ofList [(neck "a").dictionary, (house "a").dictionary]] hm
    (Dictionary.identical_self _)).2 [] _ [] rfl (List.forall_mem_nil _) rfl

/-- An identical member does not keep a dictionary from being registered. -/
theorem not_unchanged_of_identical :
    ∃ a b, (neck "a").build = .ok a ∧ (house "a").build = .ok b ∧
      ¬ ((∃ m ∈ (ofEdits [.ofList [a, b]]).members, m.Identical b) →
        ((ofEdits [.ofList [a, b]]).register b).1 = .unchanged b.fingerprint ∧
          ((ofEdits [.ofList [a, b]]).register b).2.members
            = (ofEdits [.ofList [a, b]]).members) := by
  refine ⟨(neck "a").dictionary, (house "a").dictionary, if_neg (by decide +kernel),
    if_neg (by decide +kernel), fun h => ?_⟩
  exact absurd (h (by decide +kernel)).1 (by decide +kernel)

/-- In a union that was made by registering dictionaries and taking some out, a dictionary that is
identical to a member is ignored. -/
theorem register_of_identical_of_upkeep (steps : List Upkeep)
    (hmem : m ∈ (ofEdits (steps.map Upkeep.edit)).members) (hsame : m.Identical d) :
    (ofEdits (steps.map Upkeep.edit)).register d
      = (.unchanged d.fingerprint, ofEdits (steps.map Upkeep.edit)) := by
  obtain ⟨before, after, hm⟩ := List.append_of_mem hmem
  obtain ⟨hbefore, -⟩ := List.ne_of_nodup_map (titled_upkeep steps) hm
  rw [hsame.title] at hbefore
  exact register_of_first_identical hm hbefore hsame

/-! ## Registering twice -/

/-- After a registration, the first member of the title is identical to the dictionary. -/
theorem Sound.exists_first_of_register (hs : u.Sound) (d : Dictionary) :
    ∃ before m after, (u.register d).2.members = before ++ m :: after ∧
      (∀ x ∈ before, x.title ≠ d.title) ∧ m.Identical d := by
  rcases u.register_cases d with
    ⟨before, m, after, hm, hbefore, htitle, ⟨hver, hfp, hregister⟩ | hregister⟩ |
    ⟨htitle, hregister⟩
  · obtain ⟨hlang, hname⟩ := Prod.mk.inj htitle
    rw [hregister]
    exact ⟨before, m, after, hm, hbefore, hlang, hname, hver, hfp⟩
  · have hmembers := members_of_entries (hs.entries_replace_of_append hm d)
    rw [hregister]
    exact ⟨_, d, _, hmembers, fun x hx => hbefore x (List.mem_of_mem_filter hx), d.identical_self⟩
  · obtain ⟨before, after, hmembers, hkept⟩ := exists_add hs htitle
    rw [hregister]
    refine ⟨before, d, after, hmembers, fun x hx => htitle x ?_, d.identical_self⟩
    have hx : x ∈ kept d u.members := hkept ▸ List.mem_append_left after hx
    exact List.mem_of_mem_filter hx

/-- However a union was made, a dictionary that was just registered is ignored. -/
theorem register_register (edits : List Edit) (d : Dictionary) :
    ((ofEdits edits).register d).2.register d
      = (.unchanged d.fingerprint, ((ofEdits edits).register d).2) := by
  obtain ⟨before, m, after, hm, hbefore, hsame⟩ :=
    (sound_ofEdits edits).exists_first_of_register d
  exact register_of_first_identical hm hbefore hsame

end Union

end Interlinear
