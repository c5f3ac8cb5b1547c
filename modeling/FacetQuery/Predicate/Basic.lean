/-
**Predicates.**

A predicate says which documents are meant: it compares fields with operands, asks whether a field
has one of several values, takes a flag by itself, and joins such atoms. There are six ways to
compare; each has a symbol for messages and a number of its own, and four of them are ranges and
need an order. `Predicate.display` is the text of a predicate in messages. `Predicate.agrees`
compares two predicates as `Literal.agrees` compares their operands.

Typed fields make the atoms of well-typed predicates (`Field.compare`, `Field.within`,
`Field.isTrue`).
-/

import FacetQuery.Schema.Field

namespace FacetQuery

/-! ### Comparisons -/

/-- How a field is compared with an operand. -/
inductive Comparison where
  | eq
  | ne
  | lt
  | lte
  | gt
  | gte
deriving DecidableEq, Repr

namespace Comparison

/-- The number of a comparison. -/
def tag : Comparison → Nat
  | eq => 1
  | ne => 2
  | lt => 3
  | lte => 4
  | gt => 5
  | gte => 6

/-- Whether a comparison needs an order. -/
def isRange (op : Comparison) : Bool := op = lt || op = lte || op = gt || op = gte

/-- The symbol of a comparison. -/
def symbol : Comparison → String
  | eq => "=="
  | ne => "!="
  | lt => "<"
  | lte => "<="
  | gt => ">"
  | gte => ">="

end Comparison

/-! ### Predicates -/

/-- Which documents are meant. -/
inductive Predicate where
  | compare (field : FieldRef) (op : Comparison) (operand : Literal)
  | within (field : FieldRef) (operands : List Literal)
  | flag (field : FieldRef)
  | all (parts : List Predicate)
  | any (parts : List Predicate)
  | not (part : Predicate)

namespace Predicate

/-! ### Text -/

/-- Texts in parentheses with a separator between them. -/
def joined (separator : String) (texts : List String) : String :=
  "(" ++ separator.intercalate texts ++ ")"

mutual

/-- The text of a predicate. -/
def display : Predicate → String
  | .compare field op operand => s!"{field.path} {op.symbol} {operand.display}"
  | .within field operands => s!"{field.path} within {(Literal.list operands).display}"
  | .flag field => field.path
  | .all parts => joined " && " (displays parts)
  | .any parts => joined " || " (displays parts)
  | .not part => s!"!({part.display})"

/-- The texts of some predicates. -/
def displays : List Predicate → List String
  | [] => []
  | part :: rest => display part :: displays rest

end

theorem displays_eq (parts : List Predicate) : displays parts = parts.map display := by
  induction parts with
  | nil => simp [displays]
  | cons part rest later => simp [displays, later]

/-! ### Agreement -/

mutual

/-- Whether two predicates are alike, floating operands compared by value. -/
def agrees : Predicate → Predicate → Bool
  | .compare f op a, .compare g op' b => f == g && op == op' && a.agrees b
  | .within f a, .within g b => f == g && Literal.agreeAll a b
  | .flag f, .flag g => f == g
  | .all a, .all b => agreeAll a b
  | .any a, .any b => agreeAll a b
  | .not a, .not b => agrees a b
  | _, _ => false

/-- Whether two lists of predicates are alike, one by one. -/
def agreeAll : List Predicate → List Predicate → Bool
  | [], [] => true
  | a :: moreA, b :: moreB => agrees a b && agreeAll moreA moreB
  | _, _ => false

end

/-! ### Joining -/

/-- Both predicates, as one more level. -/
def and (a b : Predicate) : Predicate := .all [a, b]

/-- One of two predicates, as one more level. -/
def or (a b : Predicate) : Predicate := .any [a, b]

end Predicate

namespace Field

variable {t : ValueType}

/-- Compare a field with a value of its type. -/
def compare (field : Field t) (op : Comparison) (value : t.Carrier) : Predicate :=
  .compare field.ref op (t.literal value)

/-- A field has one of some values of its type. -/
def within (field : Field t) (values : List t.Carrier) : Predicate :=
  .within field.ref (values.map t.literal)

/-- A flag is set. -/
def isTrue (field : Field .bool) : Predicate := .flag field.ref

/-- A flag that may be absent is set. -/
def isPresentAndTrue (field : Field (.optional .bool)) : Predicate := .flag field.ref

end Field

namespace Predicate

variable {t : ValueType}

/-- A further restriction: the field has one of some values. -/
def andWithin (predicate : Predicate) (field : Field t) (values : List t.Carrier) : Predicate :=
  predicate.and (field.within values)

end Predicate

end FacetQuery
