import Interlinear.Text.Property

set_option autoImplicit false

/-! # Quoted text

The form in which a message shows a text: between double quotes, with escapes for quotes,
backslashes and all that cannot be seen or would join the character before it. -/

namespace Interlinear.Text

/-- The code point of a character in lowercase hexadecimal digits. -/
def hexCode (c : Char) : String := String.ofList (Nat.toDigits 16 c.toNat)

/-- How a character is shown inside quotes. -/
def quotedChar (c : Char) : String :=
  if c = '"' then "\\\""
  else if c = '\\' then "\\\\"
  else if c = '\n' then "\\n"
  else if c = '\r' then "\\r"
  else if c = '\t' then "\\t"
  else if c = '\x00' then "\\0"
  else if c = ' ' then " "
  else if graphemeExtending.holds c || invisible.holds c then
    "\\u\x7b" ++ hexCode c ++ "\x7d"
  else String.singleton c

/-- A text between quotes. -/
def quoted (s : String) : String := "\"" ++ String.join (s.toList.map quotedChar) ++ "\""

end Interlinear.Text
