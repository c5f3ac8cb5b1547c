/-
**JSON documents.**

The numbers of a document are kept apart by what they can be read as: integers of up to eight bytes,
signed or not, and finite floating numbers. `3` and `3.0` are different documents, and every number
has a value as a floating number (`Number.toDouble`), while only the first kind has one as an
integer (`Number.toInt?`).

Objects are dictionaries, so a document does not remember the order in which members were given.
-/

import FacetQuery.Dict
import FacetQuery.Numeral.Binary

namespace FacetQuery

namespace Json

/-- Whether eight bytes hold an integer, with a sign or without. -/
def FitsEight (n : Int) : Prop := -9223372036854775808 ≤ n ∧ n < 18446744073709551616

instance (n : Int) : Decidable (FitsEight n) := by unfold FitsEight; infer_instance

/-- A number of a document: an integer that eight bytes hold, or a finite floating number. -/
inductive Number where
  | whole (n : Int) (fits : FitsEight n)
  | real (x : Double) (finite : x.isFinite = true)
deriving DecidableEq

namespace Number

/-- A floating number, if it is finite. -/
def ofDouble? (x : Double) : Option Number :=
  if finite : x.isFinite = true then some (.real x finite) else none

/-- An integer; one that eight bytes do not hold becomes the nearest floating number. -/
def ofInt? (n : Int) : Option Number :=
  if fits : FitsEight n then some (.whole n fits) else ofDouble? (.ofInt n)

/-- An unsigned integer of eight bytes. -/
def ofUnsigned (n : UInt64) : Number :=
  .whole n.toNat ⟨by omega, by have := n.toNat_lt; omega⟩

/-- A signed integer of eight bytes. -/
def ofSigned (n : Int64) : Number :=
  .whole n.toInt ⟨by have := n.le_toInt; omega, by have := n.toInt_lt; omega⟩

/-- The value as a floating number, the nearest one for an integer. -/
def toDouble : Number → Double
  | .whole n _ => .ofInt n
  | .real x _ => x

/-- The value as a floating number of four bytes, rounded once. -/
def toSingle : Number → Single
  | .whole n _ => .ofInt n
  | .real x _ => .convert x

/-- The value of an integer. -/
def toInt? : Number → Option Int
  | .whole n _ => some n
  | .real _ _ => none

/-- The value of an integer from zero up. -/
def toUnsigned? : Number → Option UInt64
  | .whole n _ => if 0 ≤ n then some (UInt64.ofNat n.toNat) else none
  | .real _ _ => none

end Number

end Json

/-- A JSON document. -/
inductive Json where
  | null
  | bool (flag : Bool)
  | number (n : Json.Number)
  | string (text : String)
  | array (items : List Json)
  | object (members : List (String × Json))

instance : Inhabited Json := ⟨.null⟩

namespace Json

/-! ### Making documents -/

/-- The object of some members. -/
def record (members : List (String × Json)) : Json := .object (Dict.ofList members)

/-- A floating number; one that is not finite has no number in a document. -/
def ofDouble (x : Double) : Json := (Number.ofDouble? x).elim .null .number

/-- An integer, or the nearest floating number. -/
def ofInt (n : Int) : Json := (Number.ofInt? n).elim .null .number

/-- An unsigned integer. -/
def ofUnsigned (n : UInt64) : Json := .number (.ofUnsigned n)

/-- A signed integer. -/
def ofSigned (n : Int64) : Json := .number (.ofSigned n)

/-- A list of texts. -/
def ofTexts (texts : List String) : Json := .array (texts.map .string)

/-- Null for nothing. -/
def ofOption {α : Type} (write : α → Json) (value : Option α) : Json := value.elim .null write

/-! ### Reading documents -/

/-- Whether a document is null. -/
def isNull : Json → Bool
  | .null => true
  | _ => false

/-- The flag of a document. -/
def bool? : Json → Option Bool
  | .bool flag => some flag
  | _ => none

/-- The text of a document. -/
def string? : Json → Option String
  | .string text => some text
  | _ => none

/-- The number of a document. -/
def number? : Json → Option Number
  | .number n => some n
  | _ => none

/-- The value of a number, whatever its kind. -/
def double? (document : Json) : Option Double := document.number?.map Number.toDouble

/-- The value of an integer. -/
def int? (document : Json) : Option Int := document.number?.bind Number.toInt?

/-- The value of an integer from zero up. -/
def unsigned? (document : Json) : Option UInt64 := document.number?.bind Number.toUnsigned?

/-- The items of an array. -/
def items? : Json → Option (List Json)
  | .array items => some items
  | _ => none

/-- The members of an object. -/
def members? : Json → Option (Dict Json)
  | .object members => some members
  | _ => none

/-- The member of an object; other documents have none. -/
def member? (name : String) (document : Json) : Option Json :=
  document.members?.bind (Dict.find? name)

/-- The document reached by taking one member after another. -/
def descend? (path : List String) (document : Json) : Option Json :=
  path.foldlM (fun inner name => inner.member? name) document

end Json

end FacetQuery
