/-
**Literals.**

The operands of comparisons and memberships. A literal has a text for messages, a form in the
backend's JSON, and a lower case, in which the backend keeps analyzed text. Two literals agree when
they are alike with floating numbers compared by value, so the two zeros agree and a non-number
agrees with nothing; equality of literals is finer on both points.
-/

import FacetQuery.Json.Basic
import FacetQuery.Numeral.Layout
import FacetQuery.Text.Lowercase
import FacetQuery.Time.Rfc3339

namespace FacetQuery

/-- An operand of a comparison or a membership. -/
inductive Literal where
  | null
  | bool (flag : Bool)
  | int (n : Int64)
  | uint (n : UInt64)
  | float (x : Double)
  | text (content : String)
  | choice (name : String)
  | instant (time : Instant)
  | list (items : List Literal)

namespace Literal

mutual

/-- Texts and names of choices in lower case, everything else as it is. -/
def lowered : Literal → Literal
  | .text content => .text (Lowercase.ofText content)
  | .choice name => .choice (Lowercase.ofText name)
  | .list items => .list (loweredItems items)
  | other => other

/-- The items of a list in lower case. -/
def loweredItems : List Literal → List Literal
  | [] => []
  | item :: rest => lowered item :: loweredItems rest

end

mutual

/-- The text of a literal in messages. -/
def display : Literal → String
  | .null => "null"
  | .bool flag => if flag then "true" else "false"
  | .int n => toString n.toInt
  | .uint n => toString n.toNat
  | .float x => Layout.message.write x
  | .text content => "\"" ++ content ++ "\""
  | .choice name => "\"" ++ name ++ "\""
  | .instant time => Rfc3339.write time
  | .list items => "[" ++ ", ".intercalate (displays items) ++ "]"

/-- The texts of the items of a list. -/
def displays : List Literal → List String
  | [] => []
  | item :: rest => display item :: displays rest

end

mutual

/-- A literal in the backend's JSON; a floating number that is not finite has none there. -/
def json : Literal → Json
  | .null => .null
  | .bool flag => .bool flag
  | .int n => .ofSigned n
  | .uint n => .ofUnsigned n
  | .float x => .ofDouble x
  | .text content => .string content
  | .choice name => .string name
  | .instant time => .string (Rfc3339.write time)
  | .list items => .array (jsons items)

/-- The items of a list in the backend's JSON. -/
def jsons : List Literal → List Json
  | [] => []
  | item :: rest => json item :: jsons rest

end

mutual

/-- Whether two literals are alike, floating numbers compared by value. -/
def agrees : Literal → Literal → Bool
  | .null, .null => true
  | .bool a, .bool b => a == b
  | .int a, .int b => a == b
  | .uint a, .uint b => a == b
  | .float a, .float b => a.sameValue b
  | .text a, .text b => a == b
  | .choice a, .choice b => a == b
  | .instant a, .instant b => a == b
  | .list a, .list b => agreeAll a b
  | _, _ => false

/-- Whether two lists of literals are alike, one by one. -/
def agreeAll : List Literal → List Literal → Bool
  | [], [] => true
  | a :: moreA, b :: moreB => agrees a b && agreeAll moreA moreB
  | _, _ => false

end

theorem displays_eq (items : List Literal) : displays items = items.map display := by
  induction items with
  | nil => simp [displays]
  | cons item rest later => simp [displays, later]

theorem jsons_eq (items : List Literal) : jsons items = items.map json := by
  induction items with
  | nil => simp [jsons]
  | cons item rest later => simp [jsons, later]

end Literal

end FacetQuery
