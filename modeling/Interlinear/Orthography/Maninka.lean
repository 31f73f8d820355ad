import Interlinear.Choices
import Interlinear.Text.Casing
import Interlinear.Text.NormalForm

set_option autoImplicit false

/-! # The old Latin orthography of Maninka

A word in the old orthography is read as a sequence of graphemes of one or two letters, and each of
them is written anew in the new orthography (`spellings`). One grapheme has two new spellings, so a
word may have several. -/

namespace Interlinear.Maninka

/-- Whether two letters, in any case, are one grapheme. -/
def isDigraph (a b : Char) : Bool :=
  match Text.lowerChar a, Text.lowerChar b with
  | ['t'], ['y'] | ['d'], ['y'] | ['n'], ['y'] => true
  | ['è'], ['e'] | ['è'], ['è'] | ['ö'], ['ö'] => true
  | _, _ => false

/-- Reads graphemes from the left, those of two letters first. -/
def graphemes : List Char → List (List Char)
  | [] => []
  | [c] => [[c]]
  | a :: b :: rest =>
    if isDigraph a b then [a, b] :: graphemes rest else [a] :: graphemes (b :: rest)

/-- The new spellings of a grapheme. One that is not written anew keeps its case. -/
def respellings (g : List Char) : List (List Char) :=
  match Text.lowerChars g with
  | ['è'] => [['ɛ']]
  | ['ö'] => [['ɔ']]
  | ['è', 'e'] => [['ɛ', 'ɛ']]
  | ['ö', 'ö'] => [['ɔ', 'ɔ']]
  | ['n', 'y'] => [['n', 'y'], ['ɲ']]
  | ['d', 'y'] => [['j']]
  | ['t', 'y'] => [['c']]
  | _ => [g]

/-- The new spellings of a composed text. The spelling of the first grapheme varies slowest. -/
def spellings (cs : List Char) : List (List Char) :=
  (choices ((graphemes cs).map respellings)).map List.flatten

/-- The new spellings of a word, decomposed as the keys of dictionaries are. -/
def convert (word : String) : List String :=
  (spellings (Text.composedCompat word).toList).map fun s => Text.decomposed (String.ofList s)

end Interlinear.Maninka
