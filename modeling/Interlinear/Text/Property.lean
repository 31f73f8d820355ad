import Interlinear.Text.Blank
import Interlinear.Text.Casing.Table
import Interlinear.Text.Property.Binary
import Interlinear.Text.Property.Category
import Interlinear.Text.Property.Script

set_option autoImplicit false

/-! # Properties by name

A property of characters is asked for by its own name (`Alphabetic`, `Lu`, `Greek`) or by the name
of a family and of a member of it (`Script=Greek`). Case, blanks, hyphens, underscores and a
leading `is` do not count in names. -/

namespace Interlinear.Text

/-- A property, given by tables of code points: a character has it if one of the tables holds it. -/
structure Property where
  tables : List (List CodeRange)
deriving DecidableEq

/-- Whether a character has the property. -/
def Property.holds (p : Property) (c : Char) : Bool := p.tables.any (inRanges · c.toNat)

/-- The number of ranges of code points that have the property. -/
def Property.rangeCount (p : Property) : Nat := p.tables.foldr (fun t n => t.length + n) 0

/-- Drops a leading `is`, in any case. -/
def dropIs : List Char → List Char
  | i :: s :: cs => if (i == 'i' || i == 'I') && (s == 's' || s == 'S') then cs else i :: s :: cs
  | cs => cs

/-- The form in which a property's name is compared. The one name that is not `is` with another
name after it is `isc`. -/
def propertyKey (name : String) : String :=
  let plain := (dropIs name.toList).filter fun c =>
    !(c == ' ' || c == '_' || c == '-') && c.toNat < 128
  let key := plain.map Char.toLower
  if key == ['c'] && dropIs name.toList != name.toList then "isc" else String.ofList key

/-- The names of groups of general categories, with their members. -/
def categoryGroups : List (List String × List String) := [
  (["c", "other"], ["cc", "cf", "cn", "co"]),
  (["l", "letter"], ["ll", "lm", "lo", "lt", "lu"]),
  (["lc", "casedletter"], ["ll", "lt", "lu"]),
  (["m", "mark", "combiningmark"], ["mc", "me", "mn"]),
  (["n", "number"], ["nd", "nl", "no"]),
  (["p", "punctuation", "punct"], ["pc", "pd", "pe", "pf", "pi", "po", "ps"]),
  (["s", "symbol"], ["sc", "sk", "sm", "so"]),
  (["z", "separator"], ["zl", "zp", "zs"])]

/-- The property of being in one of several general categories. -/
def categories (keys : List String) : Property := ⟨keys.filterMap (rangesNamed? categoryRows)⟩

/-- The general category, or group of categories, of a given key. Every character, the assigned
ones and the first 128 form groups too. -/
def categoryNamed? (key : String) : Option Property :=
  if key = "any" then some ⟨[[⟨0, 0x10FFFF⟩]]⟩
  else if key = "ascii" then some ⟨[[⟨0, 0x7F⟩]]⟩
  else if key = "assigned" then
    some ⟨(categoryRows.filter (!·.names.contains "cn")).map (·.ranges)⟩
  else match categoryGroups.find? (·.1.contains key) with
    | some group => some (categories group.2)
    | none => (rangesNamed? categoryRows key).map fun r => ⟨[r]⟩

/-- The characters that belong to the script of a given key. -/
def scriptNamed? (key : String) : Option Property :=
  (rangesNamed? scriptRows key).map fun r => ⟨[r]⟩

/-- The characters that are used with the script of a given key. -/
def scriptUseNamed? (key : String) : Option Property :=
  match rangesNamed? scriptUseRows key with
  | some r => some ⟨[r]⟩
  | none => scriptNamed? key

/-- The property of a given key that is no category and no script. -/
def plainNamed? (key : String) : Option Property :=
  let table :=
    if key = "uppercase" ∨ key = "upper" then some uppercaseRanges
    else if key = "lowercase" ∨ key = "lower" then some lowercaseRanges
    else if key = "cased" then some casedRanges
    else if key = "caseignorable" ∨ key = "ci" then some caseIgnorableRanges
    else if key = "whitespace" ∨ key = "wspace" ∨ key = "space" then some blankRanges
    else rangesNamed? binaryRows key
  table.map fun r => ⟨[r]⟩

/-- The property of a given name: a plain property, a category or a script. -/
def propertyNamed? (name : String) : Option Property :=
  let key := propertyKey name
  (plainNamed? key).orElse fun _ => (categoryNamed? key).orElse fun _ => scriptNamed? key

/-- The member of a given name of the family of a given name. -/
def memberNamed? (family member : String) : Option Property :=
  let family := propertyKey family
  let member := propertyKey member
  if family = "gc" ∨ family = "generalcategory" then categoryNamed? member
  else if family = "sc" ∨ family = "script" then scriptNamed? member
  else if family = "scx" ∨ family = "scriptextensions" then scriptUseNamed? member
  else none

/-! ## Properties that the library itself asks for -/

/-- The characters that write letters. -/
def alphabetic : Property := ⟨(rangesNamed? binaryRows "alphabetic").toList⟩

/-- The characters that write numbers. -/
def numeric : Property := categories ["nd", "nl", "no"]

/-- The characters that extend the one before them. -/
def graphemeExtending : Property := ⟨(rangesNamed? binaryRows "graphemeextend").toList⟩

/-- The characters without a visible form of their own: controls, formats, private and unassigned
ones and separators. -/
def invisible : Property := categories ["cc", "cf", "cn", "co", "zl", "zp", "zs"]

end Interlinear.Text
