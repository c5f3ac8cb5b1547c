/-
**The compact text of a document.**

Members stand in the order of their names, nothing is between the tokens, integers are written in
decimal and floating numbers in `Layout.json`. In a string only the quote, the backslash and the
characters below the space are escaped, five of these by a letter and the others by four digits.
-/

import FacetQuery.Json.Basic
import FacetQuery.Numeral.Layout

namespace FacetQuery.Json

/-- The text of a number. -/
def Number.text : Number → String
  | .whole n _ => toString n
  | .real x _ => Layout.json.write x

/-- Two hexadecimal digits. -/
def hexPair (n : Nat) : List Char := [Nat.digitChar (n / 16 % 16), Nat.digitChar (n % 16)]

/-- A character inside a string. -/
def escaped (c : Char) : List Char :=
  if c = '"' then ['\\', '"']
  else if c = '\\' then ['\\', '\\']
  else if c = '\x08' then ['\\', 'b']
  else if c = '\t' then ['\\', 't']
  else if c = '\n' then ['\\', 'n']
  else if c = '\x0c' then ['\\', 'f']
  else if c = '\r' then ['\\', 'r']
  else if c.toNat < 32 then ['\\', 'u', '0', '0'] ++ hexPair c.toNat
  else [c]

/-- A string in quotes. -/
def quoted (text : String) : String :=
  String.ofList ('"' :: text.toList.flatMap escaped ++ ['"'])

mutual

/-- The text of a document. -/
def text : Json → String
  | .null => "null"
  | .bool flag => if flag then "true" else "false"
  | .number n => n.text
  | .string content => quoted content
  | .array items => "[" ++ ",".intercalate (texts items) ++ "]"
  | .object members => "\x7b" ++ ",".intercalate (memberTexts members) ++ "\x7d"

/-- The texts of the items of an array. -/
def texts : List Json → List String
  | [] => []
  | item :: rest => text item :: texts rest

/-- The texts of the members of an object. -/
def memberTexts : List (String × Json) → List String
  | [] => []
  | (name, value) :: rest => (quoted name ++ ":" ++ text value) :: memberTexts rest

end

end FacetQuery.Json
