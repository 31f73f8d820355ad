import Interlinear.Digest.Basic
import Interlinear.Error
import Interlinear.Gloss.Basic
import Std.Data.TreeMap.Basic

set_option autoImplicit false

/-! # Dictionaries

A dictionary lists glosses under keys. It carries the language, the name and the version that its
makers gave it, and a fingerprint of its content. Words are looked up in an index of the keys; a
dictionary that was stored without an index lists its entries but finds nothing. -/

namespace Interlinear

/-- The glosses of each key, for looking up. -/
abbrev Index := Std.TreeMap String (List Gloss)

namespace Index

/-- The character that marks the end of a key in an index. -/
def endMark : Char := '\x00'

/-- A text without the end mark that closes it. -/
def unmarked? (s : String) : Option String :=
  match s.toList.reverse with
  | [] => none
  | c :: cs => if c = endMark then some (String.ofList cs.reverse) else none

/-- Whether another key begins with a key. -/
def isContinued (ix : Index) (key : String) : Bool :=
  ix.keys.any fun k => k != key && key.toList.isPrefixOf k.toList

/-- The glosses of a key. A key that others continue is found with its end marked, too. -/
def find? (ix : Index) (form : String) : Option (List Gloss) :=
  match ix[form]? with
  | some glosses => some glosses
  | none =>
    match unmarked? form with
    | some key => if ix.isContinued key then ix[key]? else none
    | none => none

end Index

/-- A list of glosses under keys. -/
structure Dictionary where
  lang : String
  name : String
  ver : String
  fingerprint : Digest
  /-- The keys and their glosses. -/
  entries : List (String × List Gloss)
  /-- The index of the keys, if there is one. -/
  index : Option Index

namespace Dictionary

/-- The number of keys. -/
def size (d : Dictionary) : Nat := d.entries.length

/-- Whether there are no keys. -/
def isEmpty (d : Dictionary) : Bool := d.entries.isEmpty

/-- Whether language, name and version are all given. -/
def isAttributed (d : Dictionary) : Bool :=
  !d.lang.isEmpty && !d.name.isEmpty && !d.ver.isEmpty

/-- The language, the name, the version and the fingerprint. -/
def description (d : Dictionary) : String :=
  d.lang ++ " " ++ d.name ++ " " ++ d.ver ++ " " ++ d.fingerprint.hex

/-- The glosses of a key, if it is found. -/
def find? (d : Dictionary) (form : String) : Option (List Gloss) := d.index.bind (·.find? form)

/-- Whether a key is found. -/
def contains (d : Dictionary) (form : String) : Bool := (d.find? form).isSome

/-- The glosses of a key. -/
def lookup (d : Dictionary) (form : String) : Except Error (List Gloss) :=
  match d.find? form with
  | some glosses => .ok glosses
  | none => .error (.notFound form)

end Dictionary

end Interlinear
