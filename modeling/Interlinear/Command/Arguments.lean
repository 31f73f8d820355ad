set_option autoImplicit false

/-! # Arguments

The program is given a command and options. An option has a short name of one letter and a long
name; some take a value. Short options may be written together, and a value may follow its option
directly, after an equals sign, or as the next argument. -/

namespace Interlinear.Command

/-- An option that the program knows. -/
structure Flag where
  short : Char
  long : String
  takesValue : Bool

/-- Why arguments are of no use. -/
inductive ArgumentFault where
  | noCommand
  | unexpected (argument : String)
  | missingValue (argument : String)
  /-- An option that must be given is not. -/
  | missing (option : String)
deriving DecidableEq, Repr

/-- The message of a fault. -/
def ArgumentFault.message : ArgumentFault → String
  | noCommand => "expected one of the commands parse and compile"
  | unexpected argument => "unexpected argument: " ++ argument
  | missingValue argument => "a value is required for: " ++ argument
  | missing option => "a required option was not given: " ++ option

/-- An option that was given, by its short name, with its value. -/
structure Setting where
  name : Char
  value : String

/-- What an argument amounts to: settings, and perhaps an option whose value is yet to come. -/
structure Argument where
  settings : List Setting
  pending : Option Char

/-- An argument with an earlier setting. -/
def Argument.after (a : Argument) (s : Setting) : Argument := { a with settings := s :: a.settings }

/-- The value written directly after a short option. -/
def attached : List Char → String
  | '=' :: value => String.ofList value
  | value => String.ofList value

/-- Reads short options that are written together. -/
def readShort (flags : List Flag) : List Char → Option Argument
  | [] => some ⟨[], none⟩
  | c :: cs =>
    match flags.find? (·.short == c) with
    | none => none
    | some f =>
      if !f.takesValue then (readShort flags cs).map (·.after ⟨c, ""⟩)
      else if cs.isEmpty then some ⟨[], some c⟩
      else some ⟨[⟨c, attached cs⟩], none⟩

/-- Reads a long option. -/
def readLong (flags : List Flag) (text : List Char) : Option Argument := do
  let name := text.takeWhile (· != '=')
  let f ← flags.find? (·.long.toList == name)
  match text.drop name.length with
  | [] => some (if f.takesValue then ⟨[], some f.short⟩ else ⟨[⟨f.short, ""⟩], none⟩)
  | _ :: value => if f.takesValue then some ⟨[⟨f.short, String.ofList value⟩], none⟩ else none

/-- Reads an argument. -/
def readArgument (flags : List Flag) (argument : String) : Option Argument :=
  match argument.toList with
  | '-' :: '-' :: text => readLong flags text
  | '-' :: c :: cs => readShort flags (c :: cs)
  | _ => none

/-- Reads all arguments. -/
def readSettings (flags : List Flag) : List String → Except ArgumentFault (List Setting)
  | [] => .ok []
  | argument :: rest =>
    match readArgument flags argument with
    | none => .error (.unexpected argument)
    | some ⟨settings, none⟩ => (settings ++ ·) <$> readSettings flags rest
    | some ⟨settings, some name⟩ =>
      match rest with
      | [] => .error (.missingValue argument)
      | value :: rest => (settings ++ ⟨name, value⟩ :: ·) <$> readSettings flags rest

namespace Setting

/-- The values of an option, in order. -/
def values (name : Char) (settings : List Setting) : List String :=
  (settings.filter (·.name == name)).map (·.value)

/-- How often an option was given. -/
def count (name : Char) (settings : List Setting) : Nat := (values name settings).length

/-- The last value of an option. -/
def last? (name : Char) (settings : List Setting) : Option String :=
  (values name settings).getLast?

end Setting

/-! ## The two commands -/

/-- The options of the command that glosses a text. -/
structure ParseOptions where
  dictionaries : List String
  grammar : Option String
  scripts : List String
  toneless : Bool
  inPath : Option String
  outPath : Option String
  verbosity : Nat

/-- The options of the command that compiles a dictionary. -/
structure CompileOptions where
  inPath : String
  outPath : String
  verbosity : Nat

/-- What the program is asked to do. -/
inductive Request where
  | parse (options : ParseOptions)
  | compile (options : CompileOptions)

/-- The options that the command for glossing knows. -/
def parseFlags : List Flag := [
  ⟨'d', "dictionary", true⟩, ⟨'g', "grammar", true⟩, ⟨'s', "script", true⟩, ⟨'t', "detone", false⟩,
  ⟨'i', "infile", true⟩, ⟨'o', "outfile", true⟩, ⟨'v', "verbose", false⟩]

/-- The options that the command for compiling knows. -/
def compileFlags : List Flag := [
  ⟨'i', "toolbox-in", true⟩, ⟨'o', "dict-out", true⟩, ⟨'v', "verbose", false⟩]

/-- The value of an option that must be given. -/
def required (name : Char) (long : String) (settings : List Setting) :
    Except ArgumentFault String :=
  match Setting.last? name settings with
  | some value => .ok value
  | none => .error (.missing long)

/-- What the arguments ask for. -/
def Request.ofArguments : List String → Except ArgumentFault Request
  | "parse" :: rest => do
    let settings ← readSettings parseFlags rest
    pure (.parse {
      dictionaries := Setting.values 'd' settings
      grammar := Setting.last? 'g' settings
      scripts := Setting.values 's' settings
      toneless := Setting.count 't' settings != 0
      inPath := Setting.last? 'i' settings
      outPath := Setting.last? 'o' settings
      verbosity := Setting.count 'v' settings })
  | "compile" :: rest => do
    let settings ← readSettings compileFlags rest
    let inPath ← required 'i' "--toolbox-in" settings
    let outPath ← required 'o' "--dict-out" settings
    pure (.compile ⟨inPath, outPath, Setting.count 'v' settings⟩)
  | _ => .error .noCommand

end Interlinear.Command
