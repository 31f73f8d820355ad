import Interlinear.Text.Blank

set_option autoImplicit false

/-! # Lines

A text is a sequence of lines. A line ends with a line feed, which a carriage return may precede;
the last line may end with the text instead. Lines of bytes and lines of characters are cut by the
same rule (`linesOf`). -/

namespace Interlinear.Text

/-- A line without the carriage return that precedes its end, given backwards. -/
def withoutReturn {α : Type} [DecidableEq α] (ret : α) : List α → List α
  | [] => []
  | c :: cs => if c = ret then cs else c :: cs

/-- Cuts the rest of a text into lines; `line` holds what was read of the present line, the last
element first. -/
def linesFrom {α : Type} [DecidableEq α] (feed ret : α) (line : List α) : List α → List (List α)
  | [] => if line.isEmpty then [] else [line.reverse]
  | c :: cs =>
    if c = feed then (withoutReturn ret line).reverse :: linesFrom feed ret [] cs
    else linesFrom feed ret (c :: line) cs

/-- The lines of a text, without their ends. -/
def linesOf {α : Type} [DecidableEq α] (feed ret : α) (text : List α) : List (List α) :=
  linesFrom feed ret [] text

/-- The lines of a list of characters. -/
def textLines (cs : List Char) : List (List Char) := linesOf '\n' '\r' cs

/-- Whether a line holds nothing but blank space. -/
def isBlankLine (line : List Char) : Bool := line.all isBlank

/-- A text without the blank space at its end. -/
def trimEnd (cs : List Char) : List Char := (cs.reverse.dropWhile isBlank).reverse

/-- A text without the blank space around it. -/
def trim (cs : List Char) : List Char := trimEnd (cs.dropWhile isBlank)

end Interlinear.Text
