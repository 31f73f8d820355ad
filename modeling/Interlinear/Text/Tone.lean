import Interlinear.Text.NormalForm

set_option autoImplicit false

/-! # Tone marks

Tones are written with combining accents. Dictionaries are searched with or without them; a text
without tones is decomposed and has its accents left out. -/

namespace Interlinear.Text

/-- The combining accents that write a tone: grave, acute, circumflex and caron. -/
def toneMarks : List Char := ['\u0300', '\u0301', '\u0302', '\u030C']

/-- A text without its tone marks, in decomposed form. -/
def toneless (s : String) : String :=
  String.ofList ((decomposeChars s.toList).filter fun c => !toneMarks.contains c)

end Interlinear.Text
