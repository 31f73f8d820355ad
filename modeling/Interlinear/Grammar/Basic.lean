import Interlinear.Gloss.Basic

set_option autoImplicit false

/-! # Grammars

A grammar tells how words are analyzed. Its token plan is a list of steps; steps name sections of
the grammar, which are lists of patterns. The sentence plan is kept with the grammar but not
carried out. -/

namespace Interlinear

/-- What a step of a plan does to the candidates. -/
inductive StepKind where
  /-- Changes them, as a stage of a given number. -/
  | stage (id : Int32)
  /-- Ends the analysis if some of them are acceptable. -/
  | stop
deriving DecidableEq

/-- A step of a plan, with the names of what it applies. -/
structure Step where
  kind : StepKind
  operands : List String
deriving DecidableEq

/-- A template for candidates, whose forms are regular expressions, and the marks that candidates
like it are given. -/
structure Pattern where
  select : Gloss
  mark : Gloss
deriving DecidableEq

/-- Named lists of patterns, in ascending order of the names. -/
structure Sections where
  toList : List (String × List Pattern)
  ascending : (toList.map (·.1)).Pairwise (· < ·)
deriving DecidableEq

namespace Sections

@[ext]
theorem ext {a b : Sections} (h : a.toList = b.toList) : a = b := by
  cases a; cases b; cases h; rfl

theorem ascending_nil : (([] : List (String × List Pattern)).map (·.1)).Pairwise (· < ·) := .nil

/-- No sections. -/
def empty : Sections := ⟨[], ascending_nil⟩

/-- Puts a section into an ascending list, in place of one of the same name. -/
def place (name : String) (patterns : List Pattern) :
    List (String × List Pattern) → List (String × List Pattern)
  | [] => [(name, patterns)]
  | s :: ss =>
    if name < s.1 then (name, patterns) :: s :: ss
    else if name = s.1 then (name, patterns) :: ss
    else s :: place name patterns ss

theorem mem_map_place {name x : String} {patterns : List Pattern}
    {ss : List (String × List Pattern)} :
    x ∈ (place name patterns ss).map (·.1) ↔ x = name ∨ x ∈ ss.map (·.1) := by
  induction ss with
  | nil => simp [place]
  | cons s ss ih =>
    unfold place
    split
    · simp
    · split
      · simp_all
      · simp only [List.map_cons, List.mem_cons, ih]
        grind

theorem ascending_place {name : String} {patterns : List Pattern}
    {ss : List (String × List Pattern)} (h : (ss.map (·.1)).Pairwise (· < ·)) :
    ((place name patterns ss).map (·.1)).Pairwise (· < ·) := by
  induction ss with
  | nil => simp [place]
  | cons s ss ih =>
    obtain ⟨hs, hss⟩ := List.pairwise_cons.1 h
    unfold place
    split
    next hlt =>
      refine List.pairwise_cons.2 ⟨fun x hx => ?_, h⟩
      rcases List.mem_cons.1 hx with rfl | hx
      · exact hlt
      · exact String.lt_trans hlt (hs x hx)
    next hlt =>
      split
      next heq => exact List.pairwise_cons.2 ⟨fun x hx => heq ▸ hs x hx, hss⟩
      next hne =>
        refine List.pairwise_cons.2 ⟨fun x hx => ?_, ih hss⟩
        rcases mem_map_place.1 hx with rfl | hx
        · grind
        · exact hs x hx

/-- Adds a section, in place of one of the same name. -/
def insert (s : Sections) (name : String) (patterns : List Pattern) : Sections :=
  ⟨place name patterns s.toList, ascending_place s.ascending⟩

/-- The sections in a list; of two of one name the later. -/
def ofList (sections : List (String × List Pattern)) : Sections :=
  sections.foldl (fun s (name, patterns) => s.insert name patterns) empty

/-- The patterns of a section. -/
def get? (s : Sections) (name : String) : Option (List Pattern) :=
  (s.toList.find? (·.1 == name)).map (·.2)

end Sections

/-- Plans and the sections that their steps name. -/
structure Grammar where
  token : List Step
  sentence : List Step
  sections : Sections
deriving DecidableEq

namespace Grammar

/-- The grammar without steps and sections. -/
def empty : Grammar := ⟨[], [], .empty⟩

/-- Adds a step to the token plan. -/
def addStep (g : Grammar) (s : Step) : Grammar := { g with token := g.token ++ [s] }

/-- Adds a step to the sentence plan. -/
def addSentenceStep (g : Grammar) (s : Step) : Grammar := { g with sentence := g.sentence ++ [s] }

/-- Adds a section, in place of one of the same name. -/
def addSection (g : Grammar) (name : String) (patterns : List Pattern) : Grammar :=
  { g with sections := g.sections.insert name patterns }

end Grammar

end Interlinear
