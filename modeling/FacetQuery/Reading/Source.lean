/-
**Reading the values of documents.**

A `SourceType` says what a value inside a document is read as. Reading is strict: an integer type
takes the integers in its range alone, a floating type any number, and the others only what they
name.
-/

import FacetQuery.Json.Basic
import FacetQuery.Schema.ValueType

namespace FacetQuery

/-- What a value inside a document is read as. -/
inductive SourceType where
  | number (t : NumberType)
  | bool
  | text
  | anything
  | list (item : SourceType)
deriving DecidableEq, Repr

namespace SourceType

/-- The values of a type. -/
def Carrier : SourceType → Type
  | number t => t.Carrier
  | bool => Bool
  | text => String
  | anything => Json
  | list item => List item.Carrier

/-- The name of a type in messages. -/
def label : SourceType → String
  | number t => t.label
  | bool => "bool"
  | text => "alloc::string::String"
  | anything => "serde_json::value::Value"
  | list item => s!"alloc::vec::Vec<{item.label}>"

/-- A number of a document as a number of a type. -/
def numberOf? : (t : NumberType) → Json → Option t.Carrier
  | .integer t, value => value.int?.bind t.ofInt?
  | .single, value => value.number?.map Json.Number.toSingle
  | .double, value => value.double?

/-- A value of a document as a value of a type. -/
def ofJson? : (t : SourceType) → Json → Option t.Carrier
  | number t, value => numberOf? t value
  | bool, value => value.bool?
  | text, value => value.string?
  | anything, value => some value
  | list item, value => value.items?.bind fun items => items.mapM item.ofJson?

end SourceType

end FacetQuery
