import Interlinear.Text.Casing
import Interlinear.Text.NormalForm

set_option autoImplicit false

/-! # Keys of headwords

A headword is written with capitals, and with dots and hyphens that mark its parts. Its key, under
which it is found, has neither. -/

namespace Interlinear.Text

/-- Whether a character of a headword only marks its parts. -/
def isPartMark (c : Char) : Bool := c == '.' || c == '-'

/-- The key of a headword: its characters without dots and hyphens, in lower case and then in
compatibility decomposed form. -/
def headwordKey (s : String) : String :=
  String.ofList (decomposeCompatChars (lowerChars (s.toList.filter (!isPartMark ·))))

end Interlinear.Text
