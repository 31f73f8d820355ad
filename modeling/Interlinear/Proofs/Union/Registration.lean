import Mathlib.Data.List.Basic
import Mathlib.Data.List.Induction
import Interlinear.Dictionary.Builder
import Interlinear.Proofs.Union.Members

set_option autoImplicit false

/-! # Registering dictionaries

Two things identify a dictionary: its title, which is its language and name, and its fingerprint.
Members of a union of registered dictionaries differ in both. A dictionary that is registered
displaces every member that has its title or its fingerprint, and the others stay
(`Union.exists_register`). So a title has one member, that of the dictionary registered last under
it; but content that several titles share has only one member, too, and it goes with the title that
took it over last (`Union.mem_labels_registerAll`). -/

namespace Interlinear

/-- The language and the name of a dictionary. -/
def Dictionary.title (d : Dictionary) : String × String := (d.lang, d.name)

namespace Union

/-- A dictionary that is registered takes the place of a member: they have the same title, or the
same fingerprint. -/
def Displaces (d m : Dictionary) : Prop := m.title = d.title ∨ m.fingerprint = d.fingerprint

instance (d m : Dictionary) : Decidable (Displaces d m) :=
  inferInstanceAs (Decidable (_ ∨ _))

/-- The dictionaries that are not displaced. -/
def kept (d : Dictionary) (ms : List Dictionary) : List Dictionary :=
  ms.filter fun m => ¬ Displaces d m

theorem kept_append (d : Dictionary) (as bs : List Dictionary) :
    kept d (as ++ bs) = kept d as ++ kept d bs := List.filter_append ..

theorem kept_cons_of_displaces {d m : Dictionary} (h : Displaces d m) (ms : List Dictionary) :
    kept d (m :: ms) = kept d ms := List.filter_cons_of_neg (by simpa using h)

theorem not_displaces_of_mem_kept {d m : Dictionary} {ms : List Dictionary} (h : m ∈ kept d ms) :
    ¬ Displaces d m := of_decide_eq_true (List.mem_filter.1 h).2

theorem kept_eq_self {d : Dictionary} {ms : List Dictionary} (h : ∀ m ∈ ms, ¬ Displaces d m) :
    kept d ms = ms := List.filter_eq_self.2 fun m hm => by simpa using h m hm

theorem kept_eq_others {d : Dictionary} {ms : List Dictionary} (h : ∀ m ∈ ms, m.title ≠ d.title) :
    kept d ms = others d.fingerprint ms := by
  refine List.filter_congr fun m hm => ?_
  have htitle := h m hm
  by_cases hfp : m.fingerprint = d.fingerprint <;> simp [Displaces, htitle, hfp]

theorem eq_title_iff {m d : Dictionary} :
    (m.lang == d.lang && m.name == d.name) = true ↔ m.title = d.title := by
  simp [Dictionary.title]

/-- The titles of the members differ. -/
def Titled (u : Union) : Prop := (u.members.map Dictionary.title).Nodup

variable {u : Union}

/-! ## The member that is looked at -/

/-- Where some dictionary has a title, there is a first one. -/
theorem exists_first_of_title {ms : List Dictionary} {m d : Dictionary} (hm : m ∈ ms)
    (htitle : m.title = d.title) :
    ∃ front first rest, ms = front ++ first :: rest ∧ (∀ x ∈ front, x.title ≠ d.title) ∧
      first.title = d.title := by
  cases hfind : ms.find? fun x => x.lang == d.lang && x.name == d.name with
  | none => exact absurd (eq_title_iff.2 htitle) (List.find?_eq_none.1 hfind m hm)
  | some first =>
      obtain ⟨heq, front, rest, hms, hfront⟩ := List.find?_eq_some_iff_append.1 hfind
      refine ⟨front, first, rest, hms, fun x hx hxtitle => ?_, eq_title_iff.1 heq⟩
      have hnot := hfront x hx
      rw [eq_title_iff.2 hxtitle] at hnot
      exact absurd hnot (by decide)

/-- A registration looks at the first member of the title. -/
theorem register_of_first {d m : Dictionary} {before after : List Dictionary}
    (hm : u.members = before ++ m :: after) (hbefore : ∀ x ∈ before, x.title ≠ d.title)
    (htitle : m.title = d.title) :
    u.register d =
      if m.ver = d.ver ∧ m.fingerprint = d.fingerprint then (.unchanged m.fingerprint, u)
      else (.replaced m.fingerprint d.fingerprint, u.replace m.fingerprint d) := by
  have hfind : (u.members.find? fun x => x.lang == d.lang && x.name == d.name) = some m := by
    refine List.find?_eq_some_iff_append.2
      ⟨eq_title_iff.2 htitle, before, after, hm, fun x hx => ?_⟩
    rw [Bool.not_eq_true', Bool.eq_false_iff]
    exact fun heq => hbefore x hx (eq_title_iff.1 heq)
  rw [register, hfind]

/-- A dictionary whose title no member has is added. -/
theorem register_of_new_title {d : Dictionary} (htitle : ∀ m ∈ u.members, m.title ≠ d.title) :
    u.register d = (.added d.fingerprint, u.add d) := by
  have hfind : (u.members.find? fun x => x.lang == d.lang && x.name == d.name) = none :=
    List.find?_eq_none.2 fun m hm heq => htitle m hm (eq_title_iff.1 heq)
  rw [register, hfind]

/-- What a registration can do: the first member of the title is the same dictionary, or it is
replaced, or there is none. -/
theorem register_cases (u : Union) (d : Dictionary) :
    (∃ before m after, u.members = before ++ m :: after ∧ (∀ x ∈ before, x.title ≠ d.title) ∧
      m.title = d.title ∧
      ((m.ver = d.ver ∧ m.fingerprint = d.fingerprint ∧
          u.register d = (.unchanged m.fingerprint, u)) ∨
        u.register d = (.replaced m.fingerprint d.fingerprint, u.replace m.fingerprint d))) ∨
    ((∀ m ∈ u.members, m.title ≠ d.title) ∧ u.register d = (.added d.fingerprint, u.add d)) := by
  by_cases htitle : ∃ m ∈ u.members, m.title = d.title
  · obtain ⟨_, hmem, htitle⟩ := htitle
    obtain ⟨before, m, after, hm, hbefore, htitle⟩ := exists_first_of_title hmem htitle
    refine Or.inl ⟨before, m, after, hm, hbefore, htitle, ?_⟩
    rw [register_of_first hm hbefore htitle]
    by_cases hsame : m.ver = d.ver ∧ m.fingerprint = d.fingerprint
    · exact Or.inl ⟨hsame.1, hsame.2, if_pos hsame⟩
    · exact Or.inr (if_neg hsame)
  · have htitle : ∀ m ∈ u.members, m.title ≠ d.title := fun m hm heq => htitle ⟨m, hm, heq⟩
    exact Or.inr ⟨htitle, register_of_new_title htitle⟩

/-! ## One registration -/

/-- What is kept where a member has the title: the members of other fingerprints besides it. -/
theorem kept_of_title_eq (ht : u.Titled) {d m : Dictionary} {before after : List Dictionary}
    (hm : u.members = before ++ m :: after) (htitle : m.title = d.title) :
    kept d u.members = others d.fingerprint before ++ others d.fingerprint after := by
  obtain ⟨hbefore, hafter⟩ := List.ne_of_nodup_map ht hm
  rw [htitle] at hbefore hafter
  rw [hm, kept_append, kept_cons_of_displaces (Or.inl htitle), kept_eq_others hbefore,
    kept_eq_others hafter]

/-- A dictionary whose title no member has is added in place of the one that is displaced, if there
is one. -/
theorem exists_add (hs : u.Sound) {d : Dictionary} (htitle : ∀ m ∈ u.members, m.title ≠ d.title) :
    ∃ before after, (u.add d).members = before ++ d :: after ∧
      before ++ after = kept d u.members := by
  by_cases hid : d.fingerprint ∈ u.ids
  · -- The content is there under another title, and the dictionary takes it over.
    obtain ⟨before, m, after, hm, hfp⟩ := hs.exists_append_of_mem hid
    refine ⟨before, after, members_of_entries (hs.entries_add_of_append hm hfp), ?_⟩
    obtain ⟨hbefore, hafter⟩ := List.ne_of_nodup_map hs.nodup hm
    rw [hfp] at hbefore hafter
    rw [hm, kept_append, kept_cons_of_displaces (Or.inr hfp), kept_eq_self, kept_eq_self]
    · exact fun x hx => not_or.2 ⟨htitle x (by rw [hm]; simp [hx]), hafter x hx⟩
    · exact fun x hx => not_or.2 ⟨htitle x (by rw [hm]; simp [hx]), hbefore x hx⟩
  · refine ⟨u.members, [], members_of_entries (hs.entries_add_of_not_mem hid), ?_⟩
    rw [List.append_nil, kept_eq_self]
    intro m hm
    refine not_or.2 ⟨htitle m hm, fun hfp => hid ?_⟩
    rw [hs.ids_eq, ← hfp]
    exact List.mem_map_of_mem hm

/-- What a registration does to the members: one of them carries what the dictionary carries, and
the others are those that were not displaced. -/
theorem exists_register (hs : u.Sound) (ht : u.Titled) (d : Dictionary) :
    ∃ before m after, (u.register d).2.members = before ++ m :: after ∧
      before ++ after = kept d u.members ∧
      m.title = d.title ∧ m.ver = d.ver ∧ m.fingerprint = d.fingerprint := by
  rcases u.register_cases d with
    ⟨before, m, after, hm, -, htitle, ⟨hver, hfp, hregister⟩ | hregister⟩ | ⟨htitle, hregister⟩
  · -- The member is the same dictionary, and no other member has its fingerprint.
    obtain ⟨hbefore, hafter⟩ := List.ne_of_nodup_map hs.nodup hm
    rw [hfp] at hbefore hafter
    rw [hregister]
    refine ⟨before, m, after, hm, ?_, htitle, hver, hfp⟩
    rw [kept_of_title_eq ht hm htitle, others_eq_self hbefore, others_eq_self hafter]
  · have hmembers := members_of_entries (hs.entries_replace_of_append hm d)
    rw [hregister]
    exact ⟨_, d, _, hmembers, (kept_of_title_eq ht hm htitle).symm, rfl, rfl, rfl⟩
  · obtain ⟨before, after, hmembers, hkept⟩ := exists_add hs htitle
    rw [hregister]
    exact ⟨before, d, after, hmembers, hkept, rfl, rfl, rfl⟩

/-- After a registration, the members are one that carries what the dictionary carries and those
that were not displaced, in some order. -/
theorem exists_perm_register (hs : u.Sound) (ht : u.Titled) (d : Dictionary) :
    ∃ m, (u.register d).2.members.Perm (m :: kept d u.members) ∧
      m.title = d.title ∧ m.ver = d.ver ∧ m.fingerprint = d.fingerprint := by
  obtain ⟨before, m, after, hm, hkept, hcarries⟩ := exists_register hs ht d
  refine ⟨m, ?_, hcarries⟩
  rw [hm, ← hkept]
  exact List.perm_middle

theorem titled_empty : empty.Titled := List.nodup_nil

theorem Titled.register (hs : u.Sound) (ht : u.Titled) (d : Dictionary) :
    (u.register d).2.Titled := by
  obtain ⟨m, hperm, htitle, -⟩ := exists_perm_register hs ht d
  rw [Titled, (hperm.map Dictionary.title).nodup_iff, List.map_cons, List.nodup_cons, htitle]
  refine ⟨fun hmem => ?_, ht.sublist (List.filter_sublist.map Dictionary.title)⟩
  obtain ⟨x, hx, heq⟩ := List.mem_map.1 hmem
  exact not_displaces_of_mem_kept hx (Or.inl heq)

theorem Titled.remove (hs : u.Sound) (ht : u.Titled) (id : Digest) : (u.remove id).2.Titled := by
  rw [Titled, members_of_entries (hs.entries_remove id)]
  exact ht.sublist (List.filter_sublist.map Dictionary.title)

/-! ## One member for each title -/

/-- A change that registers a dictionary or takes one out. -/
inductive Upkeep where
  | register (d : Dictionary)
  | remove (id : Digest)

/-- The change among all changes. -/
def Upkeep.edit : Upkeep → Edit
  | .register d => .register d
  | .remove id => .remove id

theorem titled_upkeep (steps : List Upkeep) : (ofEdits (steps.map Upkeep.edit)).Titled := by
  induction steps using List.reverseRecOn with
  | nil => exact titled_empty
  | append_singleton steps step ih =>
      rw [List.map_append, ofEdits_append]
      cases step with
      | register d => exact ih.register (sound_ofEdits _) d
      | remove id => exact ih.remove (sound_ofEdits _) id

/-- **A title has one member.** In a union that was made by registering dictionaries and taking
some out, no two members have the same language and name. Once a dictionary is registered, exactly
one member has its language and name, and that one has its version and its fingerprint. -/
theorem unique_title_of_upkeep (steps : List Upkeep) :
    ((ofEdits (steps.map Upkeep.edit)).members.map fun m => (m.lang, m.name)).Nodup ∧
    ∀ d, ∃ m,
      ((ofEdits (steps.map Upkeep.edit)).register d).2.members.filter
        (fun x => x.lang == d.lang && x.name == d.name) = [m] ∧
      m.ver = d.ver ∧ m.fingerprint = d.fingerprint := by
  have hs := sound_ofEdits (steps.map Upkeep.edit)
  have ht := titled_upkeep steps
  refine ⟨ht, fun d => ?_⟩
  obtain ⟨before, m, after, hm, hkept, htitle, hver, hfp⟩ := exists_register hs ht d
  have hnone : ∀ x ∈ before ++ after, ¬ (x.lang == d.lang && x.name == d.name) = true := by
    intro x hx heq
    rw [hkept] at hx
    exact not_displaces_of_mem_kept hx (Or.inl (eq_title_iff.1 heq))
  refine ⟨m, ?_, hver, hfp⟩
  have hbefore := List.filter_eq_nil_iff.2 fun x hx => hnone x (List.mem_append_left after hx)
  have hafter := List.filter_eq_nil_iff.2 fun x hx => hnone x (List.mem_append_right before hx)
  rw [hm, List.filter_append, List.filter_cons, if_pos (eq_title_iff.2 htitle), hbefore, hafter]
  rfl

/-! ## Content under several titles -/

/-- The titles of the members, with their fingerprints. -/
def labels (u : Union) : List ((String × String) × Digest) :=
  u.members.map fun m => (m.title, m.fingerprint)

theorem mem_ids_iff_labels (hs : u.Sound) {id : Digest} : id ∈ u.ids ↔ ∃ t, (t, id) ∈ u.labels := by
  rw [hs.ids_eq, labels]
  simp only [List.mem_map, Prod.mk.injEq]
  exact ⟨fun ⟨m, hm, heq⟩ => ⟨m.title, m, hm, rfl, heq⟩, fun ⟨_, m, hm, _, heq⟩ => ⟨m, hm, heq⟩⟩

/-- A registration adds the label of the dictionary, and takes out those that have its title or its
fingerprint. -/
theorem mem_labels_register_iff (hs : u.Sound) (ht : u.Titled) (d : Dictionary)
    {t : String × String} {id : Digest} :
    (t, id) ∈ (u.register d).2.labels ↔
      (t = d.title ∧ id = d.fingerprint) ∨
        ((t, id) ∈ u.labels ∧ t ≠ d.title ∧ id ≠ d.fingerprint) := by
  obtain ⟨m, hperm, htitle, -, hfp⟩ := exists_perm_register hs ht d
  rw [labels, (hperm.map _).mem_iff, List.map_cons, List.mem_cons, htitle, hfp, Prod.mk.injEq]
  refine or_congr_right ⟨fun hmem => ?_, fun ⟨hmem, htne, hidne⟩ => ?_⟩
  · obtain ⟨x, hx, heq⟩ := List.mem_map.1 hmem
    obtain ⟨rfl, rfl⟩ := Prod.mk.inj heq
    have hnot := not_or.1 (not_displaces_of_mem_kept hx)
    exact ⟨List.mem_map.2 ⟨x, (List.mem_filter.1 hx).1, rfl⟩, hnot⟩
  · obtain ⟨x, hx, heq⟩ := List.mem_map.1 hmem
    obtain ⟨rfl, rfl⟩ := Prod.mk.inj heq
    refine List.mem_map.2 ⟨x, List.mem_filter.2 ⟨hx, ?_⟩, rfl⟩
    exact decide_eq_true (not_or.2 ⟨htne, hidne⟩)

/-- The union of dictionaries, registered one by one. -/
def registerAll (ds : List Dictionary) : Union := ofEdits (ds.map Edit.register)

theorem registerAll_append_singleton (ds : List Dictionary) (d : Dictionary) :
    registerAll (ds ++ [d]) = ((registerAll ds).register d).2 := by
  rw [registerAll, List.map_append, ofEdits_append]
  rfl

theorem sound_registerAll (ds : List Dictionary) : (registerAll ds).Sound := sound_ofEdits _

theorem titled_registerAll (ds : List Dictionary) : (registerAll ds).Titled := by
  have hsteps := titled_upkeep (ds.map Upkeep.register)
  rw [List.map_map] at hsteps
  exact hsteps

/-- What is left of the registrations: the dictionaries that no later one displaced. -/
theorem mem_labels_registerAll {ds : List Dictionary} {t : String × String} {id : Digest} :
    (t, id) ∈ (registerAll ds).labels ↔
      ∃ before d after, ds = before ++ d :: after ∧ d.title = t ∧ d.fingerprint = id ∧
        ∀ e ∈ after, e.title ≠ t ∧ e.fingerprint ≠ id := by
  -- The last registration acts on what those before it left.
  induction ds using List.reverseRecOn with
  | nil =>
      refine ⟨fun hmem => absurd hmem List.not_mem_nil, fun ⟨before, d, after, heq, _⟩ => ?_⟩
      exact absurd heq.symm (List.append_ne_nil_of_right_ne_nil before (List.cons_ne_nil d after))
  | append_singleton ds e ih =>
      rw [registerAll_append_singleton,
        mem_labels_register_iff (sound_registerAll ds) (titled_registerAll ds), ih]
      constructor
      · rintro (⟨rfl, rfl⟩ | ⟨⟨before, d, after, rfl, htitle, hid, hafter⟩, htne, hidne⟩)
        · exact ⟨ds, e, [], rfl, rfl, rfl, fun _ hx => absurd hx List.not_mem_nil⟩
        · refine ⟨before, d, after ++ [e], List.append_assoc .., htitle, hid, ?_⟩
          exact List.forall_mem_append.2
            ⟨hafter, List.forall_mem_singleton.2 ⟨htne.symm, hidne.symm⟩⟩
      · rintro ⟨before, d, after, heq, htitle, hid, hafter⟩
        rcases after.eq_nil_or_concat' with rfl | ⟨after, x, rfl⟩
        · -- The dictionary is the last one.
          obtain ⟨-, hlast⟩ := List.append_inj' heq rfl
          obtain ⟨rfl, -⟩ := List.cons.inj hlast
          exact Or.inl ⟨htitle.symm, hid.symm⟩
        · rw [← List.cons_append, ← List.append_assoc] at heq
          obtain ⟨rfl, hlast⟩ := List.append_inj' heq rfl
          obtain ⟨rfl, -⟩ := List.cons.inj hlast
          obtain ⟨hafter, hlast⟩ := List.forall_mem_append.1 hafter
          obtain ⟨htne, hidne⟩ := List.forall_mem_singleton.1 hlast
          exact Or.inr ⟨⟨before, d, after, rfl, htitle, hid, hafter⟩, htne.symm, hidne.symm⟩

/-- **Content that is still served.** The content of a registered dictionary is among the members
just when the title that took it over last was not registered again. The dictionary that did so is
the last one of this content, at or after the dictionary itself. -/
theorem mem_ids_registerAll_iff (before : List Dictionary) (d : Dictionary)
    (after : List Dictionary) :
    d.fingerprint ∈ (registerAll (before ++ d :: after)).ids ↔
      ∃ between e rest, d :: after = between ++ e :: rest ∧ e.fingerprint = d.fingerprint ∧
        ∀ f ∈ rest, (f.lang, f.name) ≠ (e.lang, e.name) ∧ f.fingerprint ≠ e.fingerprint := by
  rw [mem_ids_iff_labels (sound_registerAll _)]
  constructor
  · rintro ⟨t, hmem⟩
    obtain ⟨front, e, rest, heq, rfl, hid, hrest⟩ := mem_labels_registerAll.1 hmem
    rcases List.exists_of_append_eq_append_cons heq with ⟨between, -, rfl⟩ | ⟨between, -, h⟩
    · -- The content would have been registered again after its last registration.
      exact absurd rfl (hrest d (List.mem_append_right between List.mem_cons_self)).2
    · exact ⟨between, e, rest, h, hid, by rwa [hid]⟩
  · rintro ⟨between, e, rest, heq, hid, hrest⟩
    refine ⟨e.title, mem_labels_registerAll.2 ⟨before ++ between, e, rest, ?_, rfl, hid, ?_⟩⟩
    · rw [heq, List.append_assoc]
    · rwa [← hid]

/-- A dictionary with the word for a neck. -/
def neck (name : String) : Builder :=
  { Builder.empty with name }.insert "kan" ⟨"kan", .ofList ["n"], "neck", []⟩

/-- A dictionary with the word for a house. -/
def house (name : String) : Builder :=
  { Builder.empty with name }.insert "so" ⟨"so", .ofList ["n"], "house", []⟩

/-- Another title takes content over from the title under which it was registered first, and is
then registered with other content: the first title was registered only once, and its content is
not there. -/
theorem lost_of_shared_content :
    ∃ a b c, (neck "a").build = .ok a ∧ (neck "b").build = .ok b ∧ (house "b").build = .ok c ∧
      (∀ e ∈ [b, c], (e.lang, e.name) ≠ (a.lang, a.name)) ∧
      a.fingerprint ∉ (registerAll [a, b, c]).ids := by
  refine ⟨_, _, _, if_neg ?_, if_neg ?_, if_neg ?_, ?_, ?_⟩ <;> decide +kernel

end Union

end Interlinear
