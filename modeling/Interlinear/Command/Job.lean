import Interlinear.Error

set_option autoImplicit false

/-! # Jobs

A job gives messages while it works and ends with a result or an error. The messages up to an error
are not lost. -/

namespace Interlinear.Command

/-- How important a message is. -/
inductive Level where
  | warn
  | info
  | debug
deriving DecidableEq, Repr

namespace Level

/-- The name of a level in messages. -/
def name : Level → String
  | warn => "WARN"
  | info => "INFO"
  | debug => "DEBUG"

/-- The lowest verbosity at which messages of a level are shown. -/
def verbosity : Level → Nat
  | warn => 0
  | info => 1
  | debug => 2

end Level

/-- A message of a job. -/
inductive Message where
  /-- Tells what the job does next; it is always shown. -/
  | progress (text : String)
  /-- Tells what was found, at a level. -/
  | note (level : Level) (text : String)

namespace Message

/-- Whether a message is shown. -/
def isShown (verbosity : Nat) : Message → Bool
  | progress _ => true
  | note level _ => level.verbosity ≤ verbosity

/-- A message as it is shown. -/
def text : Message → String
  | progress text => text
  | note level text => "[" ++ level.name ++ "] " ++ text

end Message

/-- The texts of the messages that are shown. -/
def shown (verbosity : Nat) (ms : List Message) : List String :=
  (ms.filter (·.isShown verbosity)).map (·.text)

/-- A computation that gives messages and may fail. -/
abbrev Job := ExceptT Error (StateM (List Message))

namespace Job

/-- Gives a message. -/
def tell (m : Message) : Job Unit := modify (· ++ [m])

/-- Gives a note. -/
def note (level : Level) (text : String) : Job Unit := tell (.note level text)

/-- Gives a note for each warning. -/
def warn (ws : List Warning) : Job Unit := ws.forM fun w => note .warn w.message

/-- The result of a job and its messages. -/
def finish {α : Type} (j : Job α) : Except Error α × List Message := j.run.run []

end Job

end Interlinear.Command
