import Interlinear.Gloss.Basic

set_option autoImplicit false

/-! # Printed glosses

A gloss is printed as its form, its tags and its meaning with colons between them, and the tags
with slashes. The morphemes follow in brackets, if there are any. -/

namespace Interlinear.Gloss

/-- The printed form, tags and meaning. -/
def heading (form : String) (tags : TagSet) (meaning : String) : String :=
  form ++ ":" ++ String.intercalate "/" tags.toList ++ ":" ++ meaning

mutual

/-- A gloss as it is printed. -/
def text : Gloss → String
  | ⟨form, tags, meaning, morphemes⟩ =>
    if morphemes.isEmpty then heading form tags meaning
    else heading form tags meaning ++ " [" ++ String.intercalate " " (texts morphemes) ++ "]"

/-- The glosses of a list as they are printed. -/
def texts : List Gloss → List String
  | [] => []
  | g :: gs => g.text :: texts gs

end

end Interlinear.Gloss
