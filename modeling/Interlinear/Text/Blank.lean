import Interlinear.Text.CodeRange

set_option autoImplicit false

/-! # Blank characters

The characters that count as blank space: spaces, tabs, and the breaks of lines and pages.
 -/

namespace Interlinear.Text

/-- The code points of the blank characters, in ascending ranges. -/
def blankRanges : List CodeRange := [
  ⟨0x0009, 0x000D⟩, ⟨0x0020, 0x0020⟩, ⟨0x0085, 0x0085⟩, ⟨0x00A0, 0x00A0⟩, ⟨0x1680, 0x1680⟩,
  ⟨0x2000, 0x200A⟩, ⟨0x2028, 0x2029⟩, ⟨0x202F, 0x202F⟩, ⟨0x205F, 0x205F⟩, ⟨0x3000, 0x3000⟩]

/-- Whether a character is blank space. -/
def isBlank (c : Char) : Bool := inRanges blankRanges c.toNat

end Interlinear.Text
