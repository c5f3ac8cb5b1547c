/-
**Kinds of fields.**

What a field holds decides which operands it can be compared with. Only flags have no order.
-/

namespace FacetQuery

/-- What a field holds. -/
inductive FieldKind where
  | bool
  | int
  | uint
  | float
  | text
  | choice
  | instant
deriving DecidableEq, Repr

namespace FieldKind

/-- The name of a kind in messages. -/
def label : FieldKind → String
  | bool => "Bool"
  | int => "Int"
  | uint => "Uint"
  | float => "Float"
  | text => "Text"
  | choice => "Enum"
  | instant => "Timestamp"

/-- Whether a kind holds numbers. -/
def isNumeric (kind : FieldKind) : Bool := kind = int || kind = uint || kind = float

/-- Whether the values of a kind are ordered. -/
def isOrdered (kind : FieldKind) : Bool := kind != bool

/-- Whether the values of a kind are texts, which the backend may keep in lower case. -/
def isTextual (kind : FieldKind) : Bool := kind = text || kind = choice

end FieldKind

end FacetQuery
