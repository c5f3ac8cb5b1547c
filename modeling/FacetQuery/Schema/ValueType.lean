/-
**Types of values.**

A typed field has a `ValueType`, and `ValueType.Carrier` gives the values of each: integers of a
width, floating numbers of four or eight bytes, flags, texts, instants, the choices of an
enumeration, and any of these or nothing. A value becomes a literal of the kind of its type
(`ValueType.literal`), except that nothing becomes null.

`label` is the name that messages give to a type.
-/

import FacetQuery.Schema.Literal
import FacetQuery.Schema.FieldKind

namespace FacetQuery

/-! ### Integers -/

/-- The widths of integers. -/
inductive Width where
  | one
  | two
  | four
  | eight
deriving DecidableEq, Repr

/-- The number of bits of a width. -/
def Width.bits : Width → Nat
  | one => 8
  | two => 16
  | four => 32
  | eight => 64

/-- How many integers of a width are negative when there are signs: half of all. -/
def Width.half : Width → Int
  | one => 128
  | two => 32768
  | four => 2147483648
  | eight => 9223372036854775808

/-- The integers of a width, with or without sign. -/
inductive IntegerType where
  | signed (width : Width)
  | unsigned (width : Width)
deriving DecidableEq, Repr

namespace IntegerType

/-- The least value. -/
def lowest : IntegerType → Int
  | signed width => -width.half
  | unsigned _ => 0

/-- The greatest value. -/
def highest : IntegerType → Int
  | signed width => width.half - 1
  | unsigned width => 2 * width.half - 1

/-- Whether an integer is a value of the type. -/
def Holds (t : IntegerType) (n : Int) : Prop := t.lowest ≤ n ∧ n ≤ t.highest

instance (t : IntegerType) (n : Int) : Decidable (t.Holds n) := by unfold Holds; infer_instance

/-- The values of the type. -/
def Carrier (t : IntegerType) : Type := { n : Int // t.Holds n }

instance (t : IntegerType) : DecidableEq t.Carrier := by unfold Carrier; infer_instance

/-- An integer as a value of the type. -/
def ofInt? (t : IntegerType) (n : Int) : Option t.Carrier :=
  if holds : t.Holds n then some ⟨n, holds⟩ else none

/-- Whether the type has negative values. -/
def isSigned : IntegerType → Bool
  | signed _ => true
  | unsigned _ => false

/-- The name of the type. -/
def label : IntegerType → String
  | signed width => s!"i{width.bits}"
  | unsigned width => s!"u{width.bits}"

/-- The kind of a field of the type. -/
def kind : IntegerType → FieldKind
  | signed _ => .int
  | unsigned _ => .uint

/-- A value as a literal. -/
def literal : (t : IntegerType) → t.Carrier → Literal
  | signed _, value => .int (Int64.ofInt value.val)
  | unsigned _, value => .uint (UInt64.ofNat value.val.toNat)

end IntegerType

/-! ### Numbers -/

/-- The types of numbers. -/
inductive NumberType where
  | integer (t : IntegerType)
  | single
  | double
deriving DecidableEq, Repr

namespace NumberType

/-- The values of the type. -/
def Carrier : NumberType → Type
  | integer t => t.Carrier
  | single => Single
  | double => Double

instance : (t : NumberType) → DecidableEq t.Carrier
  | integer t => inferInstanceAs (DecidableEq t.Carrier)
  | single => inferInstanceAs (DecidableEq Single)
  | double => inferInstanceAs (DecidableEq Double)

/-- The name of the type. -/
def label : NumberType → String
  | integer t => t.label
  | single => "f32"
  | double => "f64"

/-- The kind of a field of the type. -/
def kind : NumberType → FieldKind
  | integer t => t.kind
  | single => .float
  | double => .float

/-- A value as a literal. -/
def literal : (t : NumberType) → t.Carrier → Literal
  | integer t, value => t.literal value
  | single, x => .float (Binary.convert (f := .single) x)
  | double, x => .float x

/-- A floating number as a number of the type. An integer type takes its value with the fraction cut
off, if that is one of its own; a floating type the nearest of its values, infinity for what is too
large. -/
def ofDouble? : (t : NumberType) → Double → Option t.Carrier
  | integer t, x => if x.isFinite then t.ofInt? x.truncated else none
  | single, x => some (Binary.convert x : Single)
  | double, x => some x

end NumberType

/-! ### Choices -/

/-- A closed list of names, and the name that messages give to it. -/
structure Enumeration where
  label : String
  choices : List String
deriving DecidableEq, Repr

namespace Enumeration

/-- The choices by their place. -/
abbrev Carrier (e : Enumeration) : Type := Fin e.choices.length

/-- The name of a choice. -/
def name (e : Enumeration) (choice : e.Carrier) : String := e.choices[choice]

/-- Whether two texts differ at most in the case of ASCII letters. -/
def sameLetters (a b : String) : Bool := a.toList.map Char.toLower == b.toList.map Char.toLower

/-- The first choice whose name has the letters of a text. -/
def ofText? (e : Enumeration) (text : String) : Option e.Carrier :=
  e.choices.findFinIdx? fun name => sameLetters name text

end Enumeration

/-! ### All types -/

/-- The types of field values. -/
inductive ValueType where
  | number (t : NumberType)
  | bool
  | text
  | instant
  | choice (e : Enumeration)
  | optional (t : ValueType)
deriving DecidableEq, Repr

namespace ValueType

/-- The values of a type. -/
def Carrier : ValueType → Type
  | number t => t.Carrier
  | bool => Bool
  | text => String
  | instant => Instant
  | choice e => e.Carrier
  | optional t => Option t.Carrier

/-- Equality of the values of a type. -/
def decEq : (t : ValueType) → DecidableEq t.Carrier
  | number t => inferInstanceAs (DecidableEq t.Carrier)
  | bool => inferInstanceAs (DecidableEq Bool)
  | text => inferInstanceAs (DecidableEq String)
  | instant => inferInstanceAs (DecidableEq Instant)
  | choice e => inferInstanceAs (DecidableEq e.Carrier)
  | optional t => have := decEq t; inferInstanceAs (DecidableEq (Option t.Carrier))

instance (t : ValueType) : DecidableEq t.Carrier := decEq t

/-- The name of a type. -/
def label : ValueType → String
  | number t => t.label
  | bool => "bool"
  | text => "alloc::string::String"
  | instant => "chrono::datetime::DateTime<chrono::offset::utc::Utc>"
  | choice e => e.label
  | optional t => s!"core::option::Option<{t.label}>"

/-- The kind of a field of a type. -/
def kind : ValueType → FieldKind
  | number t => t.kind
  | bool => .bool
  | text => .text
  | instant => .instant
  | choice _ => .choice
  | optional t => t.kind

/-- A value as a literal. -/
def literal : (t : ValueType) → t.Carrier → Literal
  | number t, value => t.literal value
  | bool, flag => .bool flag
  | text, content => .text content
  | instant, time => .instant time
  | choice e, value => .choice (e.name value)
  | optional t, value => Option.elim value .null t.literal

/-- The signed integers of eight bytes. -/
abbrev int64 : ValueType := number (.integer (.signed .eight))

end ValueType

end FacetQuery
