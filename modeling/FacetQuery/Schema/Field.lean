/-
**Paths and fields.**

A path is one or more identifiers joined by single points. An identifier starts with a letter or an
underscore and goes on with letters, digits and underscores, all of ASCII. `Path.check` names the
first segment between points that is not one.

A `Field` of a value type is a path and whether the backend analyzes it, that is, keeps its text in
lower case. `FieldRef` forgets the type and keeps its kind, which is what a predicate needs.
-/

import FacetQuery.Failure
import FacetQuery.Schema.ValueType
import FacetQuery.Text.Quoted

namespace FacetQuery

/-! ### Paths -/

namespace Path

/-- Whether an identifier can start with a character. -/
def isStart (c : Char) : Bool := c.isAlpha || c == '_'

/-- Whether an identifier can go on with a character. -/
def isPart (c : Char) : Bool := c.isAlphanum || c == '_'

/-- Whether a segment is an identifier. -/
def isIdentifier : List Char → Bool
  | [] => false
  | c :: rest => isStart c && rest.all isPart

/-- Refuse a text that is not a path. -/
def check (path : String) : Except Failure Unit :=
  if path.isEmpty then .error (.unsupported path .emptyPath)
  else match (path.toList.splitOn '.').find? fun segment => !isIdentifier segment with
    | some segment => .error (.unsupported path (.segment (String.ofList segment)))
    | none => .ok ()

/-- The pointer of a path: a slash before it, and one for each point. -/
def pointer (path : String) : String := "/" ++ path.map fun c => if c = '.' then '/' else c

end Path

/-! ### Fields -/

/-- A field by its path and kind. -/
structure FieldRef where
  path : String
  kind : FieldKind
  analyzed : Bool := true
deriving DecidableEq, Repr

namespace FieldRef

/-- The path, if it is one. -/
def resolve (field : FieldRef) : Except Failure String := do
  Path.check field.path
  return field.path

/-- Whether texts compared with the field are lowered. -/
def lowersText (field : FieldRef) : Bool := field.analyzed && field.kind.isTextual

/-- A literal as it is compared with the field. -/
def adapt (field : FieldRef) (operand : Literal) : Literal :=
  if field.lowersText then operand.lowered else operand

end FieldRef

/-- A field whose values have a type. -/
structure Field (t : ValueType) where
  path : String
  analyzed : Bool := true
deriving DecidableEq, Repr

namespace Field

variable {s t : ValueType}

/-- A field that is not analyzed, so that its text keeps its case. -/
def keyword (path : String) : Field t where
  path := path
  analyzed := false

/-- A field inside another: the paths joined by a point, analyzed as the inner one is. -/
def nested (outer : Field s) (inner : Field t) : Field t where
  path := outer.path ++ "." ++ inner.path
  analyzed := inner.analyzed

/-- The field without its type. -/
def ref (field : Field t) : FieldRef where
  path := field.path
  kind := t.kind
  analyzed := field.analyzed

/-- The field as a line of a report. -/
def describe (field : Field t) : String :=
  "Field \x7b path: " ++ Quoted.ofText field.path ++ ", analyzed: " ++
    toString field.analyzed ++ " \x7d"

end Field

end FacetQuery
