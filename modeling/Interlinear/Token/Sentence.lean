import Interlinear.Text.Slice
import Interlinear.Token.Basic

set_option autoImplicit false

/-! # Sentences

A sentence ends with a token that ends sentences, or with the text. -/

namespace Interlinear

/-- Groups tokens into sentences. -/
def sentencesOf : List Token → List (List Token)
  | [] => []
  | t :: ts =>
    if t.kind = .sentenceEnd then [t] :: sentencesOf ts
    else match sentencesOf ts with
      | [] => [[t]]
      | s :: ss => (t :: s) :: ss

/-- The text of a sentence, which goes from the start of its first token to the end of its last. -/
def sentenceText? (text : String) (s : List Token) : Option String :=
  Text.slice? text ((s.head?.map (·.start)).getD 0) ((s.getLast?.map (·.stop)).getD 0)

/-- No token is lost, and none changes its place. -/
theorem flatten_sentencesOf (ts : List Token) : (sentencesOf ts).flatten = ts := by
  induction ts with
  | nil => rfl
  | cons t ts ih =>
    unfold sentencesOf
    split
    · simp [ih]
    · cases h : sentencesOf ts with
      | nil => simp [h] at ih; simp [← ih]
      | cons s ss => simp [h] at ih; simp [← ih]

end Interlinear
