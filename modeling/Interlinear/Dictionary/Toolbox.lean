import Interlinear.Dictionary.Builder
import Interlinear.Text.Headword
import Interlinear.Text.Lines
import Interlinear.Text.Utf8

set_option autoImplicit false

/-! # Dictionaries in the Toolbox format

A Toolbox file consists of articles with blank lines between them. A line of an article is a field:
a backslash, a tag, and a value after a blank. The lemmas of an article (`lx`, `le`, `va`, `vc`)
share its first part of speech (`ps`) and its first meaning (`ge` or `gf`); a morpheme (`mm`)
belongs to the lemma before it. The language, the name and the version of the dictionary (`lang`,
`name`, `ver`) may stand anywhere, and the last of each counts. -/

namespace Interlinear.Toolbox

open Text

/-! ## Fields -/

/-- A line with a tag. -/
structure Field where
  tag : String
  value : List Char

/-- The field on a line, given without the blank space at its end; none if the line does not begin
with a backslash. -/
def field? : List Char → Option Field
  | '\\' :: rest =>
    some ⟨String.ofList (rest.takeWhile (· != ' ')), trim ((rest.dropWhile (· != ' ')).drop 1)⟩
  | _ => none

/-- Cuts a text at every place where a character stands. -/
def splitAll (sep : Char) : List Char → List (List Char)
  | [] => [[]]
  | c :: cs =>
    if c = sep then [] :: splitAll sep cs
    else match splitAll sep cs with
      | [] => [[c]]
      | piece :: pieces => (c :: piece) :: pieces

/-- The tags in a text, with slashes between them. -/
def tagsOf (value : List Char) : TagSet :=
  .ofList (((splitAll '/' value).filter (!·.isEmpty)).map String.ofList)

/-- The morpheme on a line: form, tags and meaning, with colons between them. -/
def morpheme (value : List Char) (line : Nat) : Except Error Gloss :=
  match splitAll ':' value with
  | [form, tags, meaning] =>
    .ok ⟨String.ofList form, tagsOf tags, String.ofList meaning, []⟩
  | _ => .error (.morphemeFields (String.ofList value) line)

/-! ## Articles -/

/-- An article that is being read. -/
structure Article where
  /-- The lemmas with their keys, the last one first. -/
  lemmas : List (String × Gloss)
  /-- The part of speech, once it was given. -/
  tags : Option TagSet
  /-- The meaning, empty until it is given. -/
  meaning : String

namespace Article

/-- An article before its first line. -/
def empty : Article := ⟨[], none, ""⟩

/-- The tag of articles that are about morphemes alone. -/
def morphemeTag : String := "mrph"

/-- Whether the article is left out: it is about a morpheme, and that is its only tag. -/
def isLeftOut (a : Article) : Bool := a.tags == some (.ofList [morphemeTag])

/-- The lemmas in order, each with its key and with the tags and the meaning of the article. -/
def entries (a : Article) : List (String × Gloss) :=
  a.lemmas.reverse.map fun (key, entry) =>
    (key, { entry with tags := a.tags.getD .empty, meaning := a.meaning })

/-- Inserts the lemmas of an article. -/
def insertInto (a : Article) (b : Builder) : Builder :=
  if a.isLeftOut then b
  else a.entries.foldl (fun b (key, gloss) => b.insertToneless key gloss) b

/-- Adds a lemma. -/
def addLemma (a : Article) (value : List Char) : Article :=
  let form := String.ofList value
  { a with lemmas := (headwordKey form, .ofForm form) :: a.lemmas }

/-- Adds a morpheme to the last lemma, if there is one. -/
def addMorpheme? (a : Article) (m : Gloss) : Option Article :=
  match a.lemmas with
  | [] => none
  | (key, entry) :: rest =>
    some { a with lemmas := (key, entry.withMorphemes (entry.morphemes ++ [m])) :: rest }

end Article

/-! ## Reading -/

/-- The state in which a file is read. -/
structure Scan where
  builder : Builder
  article : Article

namespace Scan

/-- Before the first line. -/
def start : Scan := ⟨.empty, .empty⟩

/-- Ends the article. -/
def endArticle (s : Scan) : Scan := ⟨s.article.insertInto s.builder, .empty⟩

/-- Takes in a field on a line of a given number. -/
def takeField (s : Scan) (number : Nat) (f : Field) : Except Error Scan :=
  let value := String.ofList f.value
  match f.tag with
  | "lang" => .ok { s with builder := { s.builder with lang := value } }
  | "name" => .ok { s with builder := { s.builder with name := value } }
  | "ver" => .ok { s with builder := { s.builder with ver := value } }
  | "lx" | "le" | "va" | "vc" => .ok { s with article := s.article.addLemma f.value }
  | "mm" => do
    let m ← morpheme f.value number
    match s.article.addMorpheme? m with
    | some article => .ok { s with article := article }
    | none => .error (.orphanMorpheme number)
  | "ps" =>
    .ok { s with article :=
      { s.article with tags := s.article.tags.orElse fun _ => some (tagsOf f.value) } }
  | "ge" | "gf" =>
    if s.article.meaning.isEmpty then
      .ok { s with article := { s.article with meaning := value } }
    else .ok s
  | _ => .ok s

/-- Takes in a line of a given number. -/
def takeLine (s : Scan) (number : Nat) (line : List UInt8) : Except Error Scan :=
  match charsOfUtf8 line with
  | .error _ => .error .notText
  | .ok cs =>
    if isBlankLine cs then .ok s.endArticle
    else match field? (trimEnd cs) with
      | some f => s.takeField number f
      | none => .ok s

/-- Takes in lines up to the first that is at fault; `number` lines come before them. -/
def takeLines (s : Scan) (number : Nat) : List (List UInt8) → Scan × Option Error
  | [] => (s.endArticle, none)
  | line :: lines =>
    match s.takeLine (number + 1) line with
    | .ok s => s.takeLines (number + 1) lines
    | .error e => (s, some e)

end Scan

/-- What came of reading a file. -/
structure Reading where
  /-- What was inserted up to the end of the file or to the first line at fault. -/
  builder : Builder
  /-- The dictionary of what was inserted, with or without attributes. -/
  built : Except Error Dictionary

namespace Reading

/-- The dictionary, which must have all its attributes. -/
def dictionary (r : Reading) : Except Error Dictionary := do
  let d ← r.built
  if d.isAttributed then pure d else throw (.unattributed d.description)

end Reading

/-- Reads the bytes of a file. -/
def read (bytes : List UInt8) : Reading :=
  let (s, fault) := Scan.start.takeLines 0 (linesOf 0x0A 0x0D bytes)
  match fault with
  | some e => ⟨s.builder, .error e⟩
  | none => ⟨s.builder, s.builder.build⟩

end Interlinear.Toolbox
