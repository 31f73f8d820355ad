import Interlinear.Regex.Tree
import Interlinear.Proofs.Regex.Tokens

set_option autoImplicit false

/-! # Building trees of tokens

A token adds to the level at hand, or it opens a group, or it closes one (`Builder.step?_cases`). So
a builder goes along with the depth of the tokens, it gives no name twice, and the groups in its
trees have names that it gave (`Builder.groupNames_subset`).

What is around an open group does not matter for what is built inside
(`Builder.foldlM_step?_inside`). -/

namespace Interlinear.Regex

/-! ## The names in a tree -/

/-- The names of the groups in a tree. -/
def Tree.groupNames : Tree → List String
  | .empty | .set _ | .look _ => []
  | .group name t => name :: t.groupNames
  | .seq a b | .alt a b => a.groupNames ++ b.groupNames
  | .repeats t _ _ _ => t.groupNames

theorem Part.groupNames_sequence {names : List String} {ps : List Part}
    (h : ∀ p ∈ ps, p.tree.groupNames ⊆ names) : (sequence ps).groupNames ⊆ names := by
  induction ps with
  | nil => exact List.nil_subset _
  | cons p ps ih =>
      obtain ⟨hp, hps⟩ := List.forall_mem_cons.1 h
      cases ps with
      | nil => exact hp
      | cons q qs => exact List.append_subset.2 ⟨hp, ih hps⟩

theorem Part.groupNames_choice {names : List String} {ps : List Part}
    (h : ∀ p ∈ ps, p.tree.groupNames ⊆ names) : (choice ps).groupNames ⊆ names := by
  induction ps with
  | nil => exact List.nil_subset _
  | cons p ps ih =>
      obtain ⟨hp, hps⟩ := List.forall_mem_cons.1 h
      cases ps with
      | nil => exact hp
      | cons q qs => exact List.append_subset.2 ⟨hp, ih hps⟩

namespace Level

/-- All groups in a level have names from a list. -/
structure NamesIn (names : List String) (l : Level) : Prop where
  branches : ∀ p ∈ l.branches, p.tree.groupNames ⊆ names
  parts : ∀ p ∈ l.parts, p.tree.groupNames ⊆ names

namespace NamesIn

variable {names : List String} {l : Level}

theorem new (flags : Flags) : NamesIn names ⟨flags, [], []⟩ :=
  ⟨by simp, by simp⟩

theorem mono {names' : List String} (h : NamesIn names l) (hsubset : names ⊆ names') :
    NamesIn names' l :=
  ⟨fun p hp => List.Subset.trans (h.branches p hp) hsubset,
    fun p hp => List.Subset.trans (h.parts p hp) hsubset⟩

theorem push (h : NamesIn names l) {p : Part} (hp : p.tree.groupNames ⊆ names) :
    NamesIn names (l.push p) :=
  ⟨h.branches, List.forall_mem_cons.2 ⟨hp, h.parts⟩⟩

theorem branch (h : NamesIn names l) : l.branch.tree.groupNames ⊆ names :=
  Part.groupNames_sequence fun p hp => h.parts p (List.mem_reverse.1 hp)

theorem cut (h : NamesIn names l) : NamesIn names l.cut :=
  ⟨List.forall_mem_cons.2 ⟨h.branch, h.branches⟩, by simp [Level.cut]⟩

theorem whole (h : NamesIn names l) : l.whole.tree.groupNames ⊆ names := by
  have hall : ∀ p ∈ l.branch :: l.branches, p.tree.groupNames ⊆ names :=
    List.forall_mem_cons.2 ⟨h.branch, h.branches⟩
  exact Part.groupNames_choice fun p hp => hall p (List.mem_reverse.1 hp)

end NamesIn

end Level

namespace Builder

/-! ## What a token does -/

/-- A token changes the level at hand and brings in no names, or it opens a group without a name, or
one with a name that was not given before, or it closes a group. -/
theorem step?_cases {b b' : Builder} {t : Token} (h : b.step? t = some b') :
    (∃ level : Level, b' = { b with level := level } ∧
        (∀ depth, t.depthAfter? depth = some depth) ∧
        ∀ names, b.level.NamesIn names → level.NamesIn names) ∨
      (∃ flags, b' = b.openGroup none flags ∧
        ∀ depth, t.depthAfter? depth = some (depth + 1)) ∨
      (∃ name flags, b' = { b with names := name :: b.names }.openGroup (some name) flags ∧
        t = .openNamed name ∧ name ∉ b.names) ∨
      t = .close ∧ b.closeGroup? = some b' := by
  cases t with
  | openNamed name =>
      rw [step?] at h
      split at h
      next => contradiction
      next hname =>
        obtain rfl := Option.some.inj h
        exact Or.inr (Or.inr (Or.inl ⟨name, _, rfl, rfl, by simpa using hname⟩))
  | openPlain | openFlags settings =>
      obtain rfl := Option.some.inj h
      exact Or.inr (Or.inl ⟨_, rfl, fun _ => rfl⟩)
  | close => exact Or.inr (Or.inr (Or.inr ⟨rfl, h⟩))
  | repeats least most marked =>
      rw [step?, repeatLast?] at h
      split at h
      next => contradiction
      next p parts hparts =>
        split at h
        · obtain rfl := Option.some.inj h
          refine Or.inl ⟨_, rfl, fun _ => rfl, fun names hnames => ?_⟩
          obtain ⟨hp, hps⟩ := List.forall_mem_cons.1 (hparts ▸ hnames.parts)
          exact ⟨hnames.branches, List.forall_mem_cons.2 ⟨hp, hps⟩⟩
        · contradiction
  | bar =>
      obtain rfl := Option.some.inj h
      exact Or.inl ⟨_, rfl, fun _ => rfl, fun _ hnames => hnames.cut⟩
  | setFlags settings =>
      obtain rfl := Option.some.inj h
      refine Or.inl ⟨_, rfl, fun _ => rfl, fun names hnames => ?_⟩
      exact ⟨hnames.branches, List.forall_mem_cons.2 ⟨List.nil_subset _, hnames.parts⟩⟩
  | caret | dollar | place p =>
      obtain rfl := Option.some.inj h
      exact Or.inl ⟨_, rfl, fun _ => rfl, fun _ hnames => hnames.push (List.nil_subset _)⟩
  | char c asByte | dot | short k negated | property name negated | bracket t negated depth =>
      obtain ⟨s, -, rfl⟩ := Option.map_eq_some_iff.1 h
      exact Or.inl ⟨_, rfl, fun _ => rfl, fun _ hnames => hnames.push (List.nil_subset _)⟩

/-- What holds at the start and is kept by each token holds at the end. -/
theorem of_foldlM_step? {P : Builder → Prop}
    (hstep : ∀ {b b' : Builder} {t : Token}, P b → b.step? t = some b' → P b') {ts : List Token}
    {b b' : Builder} (hb : P b) (h : ts.foldlM step? b = some b') : P b' := by
  induction ts generalizing b with
  | nil =>
      obtain rfl := Option.some.inj h
      exact hb
  | cons t ts ih =>
      obtain ⟨b₁, hb₁, h⟩ := Option.bind_eq_some_iff.1 h
      exact ih (hstep hb hb₁) h

/-- A group that is closed was open. -/
theorem closeGroup?_eq_some {b b' : Builder} (h : b.closeGroup? = some b') :
    ∃ g opened tree depth, b.opened = g :: opened ∧
      b' = ⟨g.around.push ⟨tree, depth, true⟩, opened, b.names⟩ ∧
      ∀ names, b.level.NamesIn names → (∀ name, g.name = some name → name ∈ names) →
        tree.groupNames ⊆ names := by
  obtain ⟨level, opened, given⟩ := b
  cases opened with
  | nil => contradiction
  | cons g opened =>
      obtain rfl := Option.some.inj h
      refine ⟨g, opened, _, _, rfl, rfl, fun names hnames hname => ?_⟩
      have hinner := hnames.whole
      cases hg : g.name with
      | none => exact hinner
      | some name => exact List.cons_subset.2 ⟨hname name hg, hinner⟩

/-- A builder goes along with the number of groups that the tokens leave open. -/
theorem depthAfter?_of_step? {b b' : Builder} {t : Token} (h : b.step? t = some b') :
    t.depthAfter? b.opened.length = some b'.opened.length := by
  rcases step?_cases h with ⟨level, rfl, hdepth, -⟩ | ⟨flags, rfl, hdepth⟩ |
    ⟨name, flags, rfl, rfl, -⟩ | ⟨rfl, hclose⟩
  · exact hdepth _
  · exact hdepth _
  · rfl
  · obtain ⟨g, opened, tree, depth, hopened, rfl, -⟩ := closeGroup?_eq_some hclose
    rw [hopened]
    rfl

theorem depthAfter?_of_foldlM {ts : List Token} {b b' : Builder}
    (h : ts.foldlM step? b = some b') :
    ts.foldlM Token.depthAfter? b.opened.length = some b'.opened.length := by
  induction ts generalizing b with
  | nil =>
      obtain rfl := Option.some.inj h
      rfl
  | cons t ts ih =>
      obtain ⟨b₁, hb₁, h⟩ := Option.bind_eq_some_iff.1 h
      rw [List.foldlM_cons, depthAfter?_of_step? hb₁]
      exact ih h

/-! ## Names -/

theorem nodup_names_of_step? {b b' : Builder} {t : Token} (hb : b.names.Nodup)
    (h : b.step? t = some b') : b'.names.Nodup := by
  rcases step?_cases h with ⟨level, rfl, -, -⟩ | ⟨flags, rfl, -⟩ |
    ⟨name, flags, rfl, -, hname⟩ | ⟨-, hclose⟩
  · exact hb
  · exact hb
  · exact List.nodup_cons.2 ⟨hname, hb⟩
  · obtain ⟨g, opened, tree, depth, -, rfl, -⟩ := closeGroup?_eq_some hclose
    exact hb

/-- No name is given twice. -/
theorem nodup_names {ts : List Token} {b : Builder} (h : ts.foldlM step? start = some b) :
    b.names.Nodup :=
  of_foldlM_step? (P := fun b => b.names.Nodup) nodup_names_of_step? List.nodup_nil h

/-- All groups that were built or are open have names that were given. -/
structure Known (b : Builder) : Prop where
  level : b.level.NamesIn b.names
  around : ∀ g ∈ b.opened, g.around.NamesIn b.names
  opened : ∀ g ∈ b.opened, ∀ name, g.name = some name → name ∈ b.names

theorem known_start : start.Known := ⟨.new _, by simp [start], by simp [start]⟩

theorem Known.openGroup {b : Builder} (h : b.Known) {name : Option String}
    (hname : ∀ n, name = some n → n ∈ b.names) (flags : Flags) :
    (b.openGroup name flags).Known :=
  ⟨.new _, List.forall_mem_cons.2 ⟨h.level, h.around⟩, List.forall_mem_cons.2 ⟨hname, h.opened⟩⟩

theorem Known.step? {b b' : Builder} {t : Token} (h : b.Known) (hb : b.step? t = some b') :
    b'.Known := by
  rcases step?_cases hb with ⟨level, rfl, -, hlevel⟩ | ⟨flags, rfl, -⟩ |
    ⟨name, flags, rfl, -, -⟩ | ⟨-, hclose⟩
  · exact ⟨hlevel _ h.level, h.around, h.opened⟩
  · exact h.openGroup (by simp) flags
  · have hmore : b.names ⊆ name :: b.names := List.subset_cons_self _ _
    have hknown : Known { b with names := name :: b.names } :=
      ⟨h.level.mono hmore, fun g hg => (h.around g hg).mono hmore,
        fun g hg n hn => hmore (h.opened g hg n hn)⟩
    refine hknown.openGroup (fun n hn => ?_) flags
    obtain rfl := Option.some.inj hn
    exact List.mem_cons_self
  · obtain ⟨g, opened, tree, depth, hopened, rfl, htree⟩ := closeGroup?_eq_some hclose
    obtain ⟨haround, harounds⟩ := List.forall_mem_cons.1 (hopened ▸ h.around)
    obtain ⟨hname, hnames⟩ := List.forall_mem_cons.1 (hopened ▸ h.opened)
    exact ⟨haround.push (htree _ h.level hname), harounds, hnames⟩

/-- The groups that tokens build have names that they give. -/
theorem groupNames_subset {ts : List Token} {b : Builder} (h : ts.foldlM step? start = some b) :
    b.level.whole.tree.groupNames ⊆ b.names :=
  (of_foldlM_step? Known.step? known_start h).level.whole

/-! ## Building inside a group -/

/-- The same builder inside groups that are open around it, after names that were given before. -/
def inside (b : Builder) (opened : List OpenGroup) (names : List String) : Builder :=
  ⟨b.level, b.opened ++ opened, b.names ++ names⟩

/-- What a token does inside other groups is what it does without them. -/
theorem step?_inside {b b' c : Builder} {opened : List OpenGroup} {names : List String} {t : Token}
    (h : b.step? t = some b') (hc : (b.inside opened names).step? t = some c) :
    c = b'.inside opened names := by
  cases t with
  | openNamed name =>
      rw [step?] at h hc
      split at h
      · contradiction
      · split at hc
        · contradiction
        · obtain rfl := Option.some.inj h
          obtain rfl := Option.some.inj hc
          rfl
  | openPlain | openFlags settings =>
      obtain rfl := Option.some.inj h
      obtain rfl := Option.some.inj hc
      rfl
  | close =>
      obtain ⟨level, around, before⟩ := b
      cases around with
      | nil => contradiction
      | cons g around =>
          obtain rfl := Option.some.inj h
          obtain rfl := Option.some.inj hc
          rfl
  | repeats least most marked =>
      obtain ⟨⟨flags, branches, parts⟩, around, before⟩ := b
      cases parts with
      | nil => contradiction
      | cons p parts =>
          by_cases hp : p.repeatable
          · simp only [step?, repeatLast?, inside, if_pos hp] at h hc
            obtain rfl := Option.some.inj h
            obtain rfl := Option.some.inj hc
            rfl
          · simp [step?, repeatLast?, hp] at h
  | caret | dollar | place p | bar | setFlags settings =>
      obtain rfl := Option.some.inj h
      obtain rfl := Option.some.inj hc
      rfl
  | char c asByte | dot | short k negated | property name negated | bracket t negated depth =>
      obtain ⟨s, hs, rfl⟩ := Option.map_eq_some_iff.1 h
      obtain ⟨s', hs', rfl⟩ := Option.map_eq_some_iff.1 hc
      obtain rfl := Option.some.inj (hs.symm.trans hs')
      rfl

/-- **Building inside a group.** What tokens build inside other groups is what they build without
them, if they build anything there. -/
theorem foldlM_step?_inside {ts : List Token} {b b' c : Builder} {opened : List OpenGroup}
    {names : List String} (h : ts.foldlM step? b = some b')
    (hc : ts.foldlM step? (b.inside opened names) = some c) : c = b'.inside opened names := by
  induction ts generalizing b with
  | nil =>
      obtain rfl := Option.some.inj h
      exact (Option.some.inj hc).symm
  | cons t ts ih =>
      obtain ⟨b₁, hb₁, h⟩ := Option.bind_eq_some_iff.1 h
      obtain ⟨c₁, hc₁, hc⟩ := Option.bind_eq_some_iff.1 hc
      obtain rfl := step?_inside hb₁ hc₁
      exact ih h hc

/-- A token that does something inside other groups does something without them, unless it closes
one of them. -/
theorem exists_of_step?_inside {b c : Builder} {opened : List OpenGroup} {names : List String}
    {t : Token} (h : (b.inside opened names).step? t = some c) (hown : t = .close → b.opened ≠ []) :
    ∃ b', b.step? t = some b' := by
  cases t with
  | openNamed name =>
      rw [step?] at h
      split at h
      next => cases h
      next hname =>
        have hnew : ¬b.names.contains name = true := by
          intro hgiven
          rw [List.contains_iff_mem] at hgiven hname
          exact hname (List.mem_append_left names hgiven)
        exact ⟨_, if_neg hnew⟩
  | close =>
      obtain ⟨level, around, given⟩ := b
      cases around with
      | nil => exact absurd rfl (hown rfl)
      | cons g around => exact ⟨_, rfl⟩
  | repeats least most marked =>
      obtain ⟨⟨flags, branches, parts⟩, around, given⟩ := b
      cases parts with
      | nil => cases h
      | cons p parts =>
          by_cases hp : p.repeatable
          · exact ⟨_, if_pos hp⟩
          · simp [step?, repeatLast?, inside, hp] at h
  | openPlain | openFlags settings | caret | dollar | place p | bar | setFlags settings =>
      exact ⟨_, rfl⟩
  | char c asByte | dot | short k negated | property name negated | bracket t negated depth =>
      obtain ⟨s, hs, -⟩ := Option.map_eq_some_iff.1 h
      exact ⟨_, Option.map_eq_some_iff.2 ⟨s, hs, rfl⟩⟩

theorem exists_of_foldlM_step?_inside {ts : List Token} {b c : Builder} {opened : List OpenGroup}
    {names : List String} {depth : Nat}
    (hdepth : ts.foldlM Token.depthAfter? b.opened.length = some depth)
    (h : ts.foldlM step? (b.inside opened names) = some c) :
    ∃ b', ts.foldlM step? b = some b' := by
  induction ts generalizing b with
  | nil => exact ⟨b, rfl⟩
  | cons t ts ih =>
      obtain ⟨next, hnext, hdepth⟩ := Option.bind_eq_some_iff.1 hdepth
      obtain ⟨c₁, hc₁, h⟩ := Option.bind_eq_some_iff.1 h
      have hown : t = .close → b.opened ≠ [] := by
        rintro rfl hnil
        rw [hnil] at hnext
        cases hnext
      obtain ⟨b₁, hb₁⟩ := exists_of_step?_inside hc₁ hown
      obtain rfl := step?_inside hb₁ hc₁
      obtain rfl := Option.some.inj (hnext.symm.trans (depthAfter?_of_step? hb₁))
      obtain ⟨b', hb'⟩ := ih hdepth h
      exact ⟨b', by rw [List.foldlM_cons, hb₁]; exact hb'⟩

end Builder

end Interlinear.Regex
