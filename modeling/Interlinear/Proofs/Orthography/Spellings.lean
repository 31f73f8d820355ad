import Interlinear.Lists
import Interlinear.Proofs.Choices
import Interlinear.Proofs.Text.Controls
import Mathlib.Data.List.Nodup

set_option autoImplicit false

/-! # The spellings of a text

The graphemes of a text are its leftmost splitting: two letters that make a grapheme are one, unless
the first of them ends the grapheme before (`Leftmost`, `graphemes_eq_iff`). Each grapheme is
respelled by itself, and of all graphemes only `ny` has two spellings, which begin with different
letters. So the spellings of a text are as many as there are ways to choose, and no two of them are
the same (`length_spellings`, `nodup_spellings`).

Respelling a spelling gives nothing new (`mem_spellings_of_mem_spellings`). A new grapheme is not
respelled any further, apart from `ny`, whose spellings are known. And no new grapheme joins a
neighbour: of its letters only the `n` of `ny` begins graphemes of two letters, and it is followed by
the `y` already; none of them but that `y` ends one. -/

namespace Interlinear.Maninka

/-! ## The leftmost splitting -/

/-- A text is split into graphemes from the left, those of two letters first. -/
inductive Leftmost : List Char → List (List Char) → Prop
  | nil : Leftmost [] []
  | digraph {a b : Char} {rest : List Char} {gs : List (List Char)} (h : isDigraph a b = true)
    (hrest : Leftmost rest gs) : Leftmost (a :: b :: rest) ([a, b] :: gs)
  | single {c : Char} {rest : List Char} {gs : List (List Char)}
    (h : ∀ b ∈ rest.head?, isDigraph c b = false) (hrest : Leftmost rest gs) :
    Leftmost (c :: rest) ([c] :: gs)

theorem leftmost_graphemes (cs : List Char) : Leftmost cs (graphemes cs) := by
  fun_induction graphemes cs with
  | case1 => exact .nil
  | case2 c => exact .single (by simp) .nil
  | case3 a b rest hdigraph ih => exact .digraph hdigraph ih
  | case4 a b rest hdigraph ih => exact .single (by simpa using hdigraph) ih

theorem graphemes_digraph {a b : Char} (h : isDigraph a b = true) (rest : List Char) :
    graphemes (a :: b :: rest) = [a, b] :: graphemes rest := by
  rw [graphemes, if_pos h]

theorem graphemes_single {c : Char} {rest : List Char}
    (h : ∀ b ∈ rest.head?, isDigraph c b = false) :
    graphemes (c :: rest) = [c] :: graphemes rest := by
  cases rest with
  | nil => rfl
  | cons b rest =>
      have hb : isDigraph c b = false := h b rfl
      rw [graphemes, hb, if_neg Bool.false_ne_true]

/-- A text has one leftmost splitting. -/
theorem graphemes_eq_iff {cs : List Char} {gs : List (List Char)} :
    graphemes cs = gs ↔ Leftmost cs gs := by
  constructor
  · rintro rfl
    exact leftmost_graphemes cs
  · intro h
    induction h with
    | nil => rfl
    | digraph h _ ih => rw [graphemes_digraph h, ih]
    | single h _ ih => rw [graphemes_single h, ih]

/-- What holds of the empty text and is kept when a grapheme is put in front holds of all texts. -/
theorem grapheme_induction {P : List Char → Prop} (nil : P [])
    (append : ∀ {g rest : List Char}, g ≠ [] → graphemes (g ++ rest) = g :: graphemes rest →
      P rest → P (g ++ rest)) (cs : List Char) : P cs := by
  have hleft := leftmost_graphemes cs
  generalize graphemes cs = gs at hleft
  induction hleft with
  | nil => exact nil
  | @digraph a b rest _ h _ ih => exact append (g := [a, b]) (by simp) (graphemes_digraph h rest) ih
  | @single c rest _ h _ ih => exact append (g := [c]) (by simp) (graphemes_single h) ih

/-! ## The spellings of a grapheme -/

/-- The graphemes that are written anew, in lower case. -/
def oldGraphemes : List (List Char) :=
  [['è'], ['ö'], ['è', 'e'], ['ö', 'ö'], ['n', 'y'], ['d', 'y'], ['t', 'y']]

/-- Whether a grapheme is the one that has two spellings. -/
def isAmbiguous (g : List Char) : Bool := Text.lowerChars g == ['n', 'y']

/-- The letters of new graphemes that belong to no grapheme of the old orthography. -/
def inertLetters : List Char := ['ɛ', 'ɔ', 'ɲ', 'j', 'c']

/-- The new graphemes that are the only spelling of an old one. -/
def plainGraphemes : List (List Char) := [['ɛ'], ['ɔ'], ['ɛ', 'ɛ'], ['ɔ', 'ɔ'], ['j'], ['c']]

/-- A grapheme is left as it is, or has one new spelling or two. -/
inductive Respelled (g : List Char) : List (List Char) → Prop
  | kept (h : Text.lowerChars g ∉ oldGraphemes) : Respelled g [g]
  | plain {new : List Char} (h : isAmbiguous g = false) (hnew : new ∈ plainGraphemes) :
    Respelled g [new]
  | ambiguous (h : isAmbiguous g = true) : Respelled g [['n', 'y'], ['ɲ']]

theorem respelled_respellings (g : List Char) : Respelled g (respellings g) := by
  have hplain : ∀ {old new : List Char}, Text.lowerChars g = old → (old == ['n', 'y']) = false →
      new ∈ plainGraphemes → Respelled g [new] :=
    fun h hold hnew => .plain (by rw [isAmbiguous, h, hold]) hnew
  unfold respellings
  split
  case h_5 h => exact .ambiguous (by rw [isAmbiguous, h]; rfl)
  case h_8 => exact .kept (by simp only [oldGraphemes, List.mem_cons, List.not_mem_nil]; tauto)
  all_goals exact hplain (by assumption) (by decide) (by decide)

theorem respellings_of_not_mem {g : List Char} (h : Text.lowerChars g ∉ oldGraphemes) :
    respellings g = [g] := by
  unfold respellings
  split
  case h_8 => rfl
  all_goals
    rename_i hg
    exact absurd (by rw [hg]; decide) h

theorem length_respellings (g : List Char) :
    (respellings g).length = if isAmbiguous g then 2 else 1 := by
  have hcases := respelled_respellings g
  generalize respellings g = news at hcases
  cases hcases with
  | kept h =>
      have hny : isAmbiguous g = false :=
        beq_eq_false_iff_ne.2 fun heq => h (by rw [heq]; decide)
      rw [hny]
      rfl
  | plain h _ =>
      rw [h]
      rfl
  | ambiguous h =>
      rw [h]
      rfl

/-- No text begins with two different spellings of a grapheme. -/
theorem pairwise_respellings (g : List Char) :
    (respellings g).Pairwise fun p q => ∀ r s, p ++ r ≠ q ++ s := by
  have hcases := respelled_respellings g
  generalize respellings g = news at hcases
  cases hcases with
  | kept | plain => exact List.pairwise_singleton _ _
  | ambiguous => simp

/-! ## Spellings, grapheme by grapheme -/

theorem spellings_of_graphemes_cons {cs rest g : List Char}
    (h : graphemes cs = g :: graphemes rest) :
    spellings cs = (respellings g).flatMap fun p => (spellings rest).map (p ++ ·) := by
  rw [spellings, h, List.map_cons, choices, List.map_flatMap]
  simp only [List.map_map, Function.comp_def, List.flatten_cons, spellings]

theorem mem_spellings_cons {cs rest g o : List Char} (h : graphemes cs = g :: graphemes rest) :
    o ∈ spellings cs ↔ ∃ p ∈ respellings g, ∃ r ∈ spellings rest, o = p ++ r := by
  simp [spellings_of_graphemes_cons h, eq_comm]

/-- **As many spellings as choices.** Each `ny` doubles the number of spellings. -/
theorem length_spellings (cs : List Char) :
    (spellings cs).length = 2 ^ (graphemes cs).countP isAmbiguous := by
  rw [spellings, List.length_map, length_choices, List.map_map]
  induction graphemes cs with
  | nil => rfl
  | cons g gs ih =>
      rw [List.map_cons, List.prod_cons, ih, Function.comp_apply, length_respellings,
        List.countP_cons]
      split
      · rw [Nat.pow_succ']
      · rw [Nat.one_mul, Nat.add_zero]

/-- No spelling comes twice. -/
theorem nodup_spellings (cs : List Char) : (spellings cs).Nodup := by
  induction cs using grapheme_induction with
  | nil => exact List.nodup_singleton _
  | @append g rest _ h ih =>
      rw [spellings_of_graphemes_cons h, List.nodup_flatMap]
      -- After the same spelling of `g` the rests differ; two spellings of `g` differ by themselves.
      refine ⟨fun p _ => ih.map fun r s => List.append_cancel_left, ?_⟩
      refine (pairwise_respellings g).imp fun hpq => ?_
      rintro o hp hq
      obtain ⟨r, -, rfl⟩ := List.mem_map.1 hp
      obtain ⟨s, -, hs⟩ := List.mem_map.1 hq
      exact hpq r s hs.symm

/-- Where no grapheme is written anew, the text is its only spelling. -/
theorem spellings_eq_singleton {cs : List Char}
    (h : ∀ g ∈ graphemes cs, Text.lowerChars g ∉ oldGraphemes) : spellings cs = [cs] := by
  have hkept : (graphemes cs).map respellings = (graphemes cs).map fun g => [g] :=
    List.map_congr_left fun g hg => respellings_of_not_mem (h g hg)
  rw [spellings, hkept, choices_map_singleton, List.map_singleton, flatten_graphemes]

/-! ## Spellings of spellings -/

/-- The letters that graphemes of two letters begin and end with, in lower case. -/
theorem letters_of_isDigraph {a b : Char} (h : isDigraph a b = true) :
    (∃ x ∈ ['t', 'd', 'n', 'è', 'ö'], Text.lowerChar a = [x]) ∧
      ∃ y ∈ ['y', 'e', 'è', 'ö'], Text.lowerChar b = [y] := by
  unfold isDigraph at h
  split at h
  case h_7 => cases h
  all_goals
    rename_i ha hb
    refine ⟨⟨_, ?_, ha⟩, _, ?_, hb⟩ <;> decide

theorem isDigraph_inert {x : Char} (h : x ∈ inertLetters) (b : Char) : isDigraph x b = false := by
  have hlower : ∀ x ∈ inertLetters, Text.lowerChar x = [x] ∧ x ∉ ['t', 'd', 'n', 'è', 'ö'] :=
    List.forall_mem_of_all (by decide)
  obtain ⟨hself, hnot⟩ := hlower x h
  refine Bool.eq_false_iff.2 fun hdigraph => ?_
  obtain ⟨⟨y, hy, hxy⟩, -⟩ := letters_of_isDigraph hdigraph
  rw [hself, List.singleton_inj] at hxy
  exact hnot (hxy ▸ hy)

theorem respellings_inert : ∀ x ∈ inertLetters, respellings [x] = [[x]] :=
  List.forall_mem_of_all (by decide)

/-- The letters that new graphemes begin with. -/
def newInitials : List Char := ['ɛ', 'ɔ', 'n', 'ɲ', 'j', 'c']

theorem isDigraph_newInitial {x : Char} (h : x ∈ newInitials) (a : Char) :
    isDigraph a x = false := by
  have hlower : ∀ x ∈ newInitials, Text.lowerChar x = [x] ∧ x ∉ ['y', 'e', 'è', 'ö'] :=
    List.forall_mem_of_all (by decide)
  obtain ⟨hself, hnot⟩ := hlower x h
  refine Bool.eq_false_iff.2 fun hdigraph => ?_
  obtain ⟨-, y, hy, hxy⟩ := letters_of_isDigraph hdigraph
  rw [hself, List.singleton_inj] at hxy
  exact hnot (hxy ▸ hy)

/-- A new grapheme of inert letters is not respelled, and does not join what follows. -/
theorem spellings_inert_append {p : List Char} (h : p ⊆ inertLetters) (r : List Char) :
    spellings (p ++ r) = (spellings r).map (p ++ ·) := by
  induction p with
  | nil => exact (List.map_id' _).symm
  | cons x p ih =>
      obtain ⟨hx, hp⟩ := List.cons_subset.1 h
      have hsingle : graphemes (x :: (p ++ r)) = [x] :: graphemes (p ++ r) :=
        graphemes_single fun b _ => isDigraph_inert hx b
      rw [List.cons_append, spellings_of_graphemes_cons hsingle, respellings_inert x hx, ih hp]
      simp

/-- A spelling begins as the text does, or with a letter that new graphemes begin with. -/
theorem head?_of_mem_spellings {cs o : List Char} (h : o ∈ spellings cs) :
    o.head? = cs.head? ∨ ∃ x ∈ newInitials, o.head? = some x := by
  induction cs using grapheme_induction with
  | nil =>
      obtain rfl := List.mem_singleton.1 h
      exact .inl rfl
  | append hg hgraphemes _ =>
      obtain ⟨p, hp, r, -, rfl⟩ := (mem_spellings_cons hgraphemes).1 h
      have hnew : ∀ p ∈ newGraphemes, p.head? ∈ newInitials.map some := by decide
      rcases eq_or_mem_newGraphemes hp with rfl | hp
      · rw [List.head?_append_of_ne_nil _ hg, List.head?_append_of_ne_nil _ hg]
        exact .inl rfl
      · obtain ⟨x, hx, hpx⟩ := List.mem_map.1 (hnew p hp)
        exact .inr ⟨x, hx, by rw [List.head?_append, ← hpx]; rfl⟩

/-- A letter that is no grapheme together with the next one is none together with the first letter of
a spelling of what follows. -/
theorem isDigraph_of_mem_spellings {c : Char} {rest r : List Char}
    (h : ∀ b ∈ rest.head?, isDigraph c b = false) (hr : r ∈ spellings rest) :
    ∀ b ∈ r.head?, isDigraph c b = false := by
  intro b hb
  rcases head?_of_mem_spellings hr with hsame | ⟨x, hx, hnew⟩
  · exact h b (hsame ▸ hb)
  · obtain rfl := Option.some.inj (hnew.symm.trans hb)
    exact isDigraph_newInitial hx c

/-- Respelling the spelling of a grapheme, together with what follows, gives a spelling of the
grapheme again. -/
theorem exists_of_mem_spellings_append {g p r o : List Char} (hp : p ∈ respellings g)
    (hkept : p = g → graphemes (g ++ r) = g :: graphemes r) (ho : o ∈ spellings (p ++ r)) :
    ∃ q ∈ respellings g, ∃ s ∈ spellings r, o = q ++ s := by
  have hinert : p ⊆ inertLetters → ∃ q ∈ respellings g, ∃ s ∈ spellings r, o = q ++ s := by
    intro hletters
    rw [spellings_inert_append hletters] at ho
    obtain ⟨s, hs, rfl⟩ := List.mem_map.1 ho
    exact ⟨p, hp, s, hs, rfl⟩
  have hcases := respelled_respellings g
  generalize hnews : respellings g = news at hcases
  cases hcases with
  | kept h =>
      obtain rfl : p = g := by rwa [hnews, List.mem_singleton] at hp
      rw [← hnews]
      exact (mem_spellings_cons (hkept rfl)).1 ho
  | @plain new h hnew =>
      have hletters : ∀ new ∈ plainGraphemes, new ⊆ inertLetters := by decide
      obtain rfl : p = new := by rwa [hnews, List.mem_singleton] at hp
      rw [← hnews]
      exact hinert (hletters p hnew)
  | ambiguous h =>
      rw [hnews, List.mem_cons, List.mem_singleton] at hp
      rcases hp with rfl | rfl
      · -- Spelled with two letters, the grapheme is found again, and has its two spellings.
        have hgraphemes : graphemes (['n', 'y'] ++ r) = ['n', 'y'] :: graphemes r :=
          graphemes_digraph (by decide) r
        have hrespellings : respellings ['n', 'y'] = [['n', 'y'], ['ɲ']] := by decide
        rw [← hrespellings]
        exact (mem_spellings_cons hgraphemes).1 ho
      · rw [← hnews]
        exact hinert (by decide)

/-- **Respelling gives nothing new.** The spellings of a spelling are spellings of the text. -/
theorem mem_spellings_of_mem_spellings {cs o o' : List Char} (ho : o ∈ spellings cs)
    (ho' : o' ∈ spellings o) : o' ∈ spellings cs := by
  -- The induction is on the splitting, as it tells of a single letter what may not come next.
  have hleft := leftmost_graphemes cs
  generalize graphemes cs = gs at hleft
  induction hleft generalizing o o' with
  | nil =>
      obtain rfl := List.mem_singleton.1 ho
      exact ho'
  | @digraph a b rest gs h _ ih =>
      have hgraphemes : graphemes (a :: b :: rest) = [a, b] :: graphemes rest :=
        graphemes_digraph h rest
      obtain ⟨p, hp, r, hr, rfl⟩ := (mem_spellings_cons hgraphemes).1 ho
      obtain ⟨q, hq, s, hs, rfl⟩ :=
        exists_of_mem_spellings_append hp (fun _ => graphemes_digraph h r) ho'
      exact (mem_spellings_cons hgraphemes).2 ⟨q, hq, s, ih hr hs, rfl⟩
  | @single c rest gs h _ ih =>
      have hgraphemes : graphemes (c :: rest) = [c] :: graphemes rest := graphemes_single h
      obtain ⟨p, hp, r, hr, rfl⟩ := (mem_spellings_cons hgraphemes).1 ho
      have hkept : p = [c] → graphemes ([c] ++ r) = [c] :: graphemes r :=
        fun _ => graphemes_single (isDigraph_of_mem_spellings h hr)
      obtain ⟨q, hq, s, hs, rfl⟩ := exists_of_mem_spellings_append hp hkept ho'
      exact (mem_spellings_cons hgraphemes).2 ⟨q, hq, s, ih hr hs, rfl⟩

/-! ## All spellings -/

/-- **The spellings of a text are the choices of `ny` or `ɲ`.** In the leftmost splitting of the text,
each grapheme `ny`, in any case, doubles the number of spellings, and no spelling comes twice. A text
of which no grapheme is written anew is its only spelling. The spellings of a spelling are among the
spellings of the text. -/
theorem spellings_choices_distinct_closed (cs : List Char) :
    Leftmost cs (graphemes cs) ∧
    (spellings cs).length = 2 ^ (graphemes cs).countP isAmbiguous ∧
    (spellings cs).Nodup ∧
    ((∀ g ∈ graphemes cs, Text.lowerChars g ∉ oldGraphemes) → spellings cs = [cs]) ∧
    ∀ o ∈ spellings cs, ∀ o' ∈ spellings o, o' ∈ spellings cs := by
  refine ⟨leftmost_graphemes cs, length_spellings cs, nodup_spellings cs, spellings_eq_singleton, ?_⟩
  exact fun o ho o' ho' => mem_spellings_of_mem_spellings ho ho'

/-- A text with graphemes that overlap and two that have two spellings, and one of which nothing is
written anew. -/
theorem spellings_overlapping_kept :
    graphemes "Tyèèenyny".toList = [['T', 'y'], ['è', 'è'], ['e'], ['n', 'y'], ['n', 'y']] ∧
    (spellings "Tyèèenyny".toList).length = 2 ^ 2 ∧
    "cèèenyɲ".toList ∈ spellings "Tyèèenyny".toList ∧
    (∀ o' ∈ spellings "cèèenyɲ".toList, o' ∈ spellings "Tyèèenyny".toList) ∧
    spellings "tèènya".toList ≠ ["tèènya".toList] ∧ spellings "tèèn".toList = ["tèèn".toList] := by
  have hgraphemes : graphemes "Tyèèenyny".toList
      = [['T', 'y'], ['è', 'è'], ['e'], ['n', 'y'], ['n', 'y']] := by decide +kernel
  have hmem : "cèèenyɲ".toList ∈ spellings "Tyèèenyny".toList := by decide +kernel
  have hkept : ∀ g ∈ graphemes "tèèn".toList, Text.lowerChars g ∉ oldGraphemes := by decide +kernel
  obtain ⟨-, hlength, -, -, hclosed⟩ := spellings_choices_distinct_closed "Tyèèenyny".toList
  obtain ⟨-, -, -, hsingle, -⟩ := spellings_choices_distinct_closed "tèèn".toList
  refine ⟨hgraphemes, ?_, hmem, hclosed _ hmem, by decide +kernel, hsingle hkept⟩
  rw [hlength, hgraphemes]
  decide

end Interlinear.Maninka
