import Interlinear.Text.Lines

set_option autoImplicit false

/-! # Paragraphs

A paragraph is a run of lines that are not blank. -/

namespace Interlinear.Text

/-- Groups lines into paragraphs; blank lines separate them. -/
def paragraphLines : List (List Char) → List (List (List Char))
  | [] => []
  | [line] => if isBlankLine line then [] else [[line]]
  | line :: next :: rest =>
    let later := paragraphLines (next :: rest)
    if isBlankLine line then later
    else if isBlankLine next then [line] :: later
    else match later with
      | [] => [[line]]
      | p :: ps => (line :: p) :: ps

/-- The paragraphs of a text, with line feeds between the lines of each. -/
def paragraphs (text : String) : List String :=
  (paragraphLines (textLines text.toList)).map fun lines =>
    String.ofList (['\n'].intercalate lines)

end Interlinear.Text
