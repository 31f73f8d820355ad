import Interlinear.Command.Arguments
import Interlinear.Command.Compile
import Interlinear.Command.Parse

set_option autoImplicit false

/-! # The program

`parse` glosses a text with dictionaries and a grammar; `compile` makes a binary dictionary of one
in the Toolbox format. Binary files are read and written without compression. -/

namespace Interlinear.Command

/-- Reads a stream up to its end. -/
partial def readAll (stream : IO.FS.Stream) (done : ByteArray) : IO ByteArray := do
  let chunk ← stream.read 65536
  if chunk.isEmpty then pure done else readAll stream (done ++ chunk)

/-- Reads a file, or the standard input. -/
def readInput : Option String → IO (List UInt8)
  | some path => return (← IO.FS.readBinFile path).toList
  | none => return (← readAll (← IO.getStdin) .empty).toList

/-- Shows the messages of a job and carries on with its result. The exit code tells whether there
was one. -/
def conclude {α : Type} (verbosity : Nat) (job : Job α) (use : α → IO Unit) : IO UInt32 := do
  let (result, messages) := job.finish
  (shown verbosity messages).forM IO.eprintln
  match result with
  | .ok x =>
    use x
    return 0
  | .error e =>
    IO.eprintln ("Error: " ++ e.report)
    return 1

/-- Glosses a text. -/
def runParse (o : ParseOptions) : IO UInt32 := do
  let dictionaries ← o.dictionaries.mapM fun path => return ⟨path, ← readInput (some path)⟩
  let grammar ← o.grammar.mapM fun path => readInput (some path)
  let text ← readInput o.inPath
  conclude o.verbosity (parse ⟨dictionaries, grammar, o.scripts, o.toneless, text⟩) fun printed =>
    match o.outPath with
    | some path => IO.FS.writeFile path printed
    | none => IO.print printed

/-- Compiles a dictionary. -/
def runCompile (o : CompileOptions) : IO UInt32 := do
  let toolbox ← readInput (some o.inPath)
  conclude o.verbosity (compile toolbox o.outPath) fun compiled =>
    IO.FS.writeBinFile o.outPath ⟨compiled.bytes.toArray⟩

end Interlinear.Command

open Interlinear.Command in
/-- Does what the arguments ask for. -/
def main (args : List String) : IO UInt32 := do
  match Request.ofArguments args with
  | .ok (.parse o) => runParse o
  | .ok (.compile o) => runCompile o
  | .error fault =>
    IO.eprintln ("error: " ++ fault.message)
    return 2
