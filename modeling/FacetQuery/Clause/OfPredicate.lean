/-
**From predicates to clauses.**

A predicate becomes a clause if every part of it is supported, and the first part that is not, from
left to right with a whole before its parts, decides the failure. Within a comparison the path comes
before the operand and the operand before the order.

* `fits` — which operands a kind of field takes.
* `operandFailure?` — **why an operand is refused**; `none` exactly for the operands that fit.
* `ofPredicate` — the clause of a predicate. Connectives of one kind are spliced into each other,
  and a connective with one part is that part.
-/

import FacetQuery.Clause.Basic
import FacetQuery.Predicate.Basic

namespace FacetQuery

namespace Literal

/-- Whether a literal can be compared with a field of a kind. -/
def fits (kind : FieldKind) : Literal → Bool
  | .null => false
  | .list _ => false
  | .bool _ => kind = .bool
  | .int _ => kind.isNumeric
  | .uint _ => kind.isNumeric
  | .float x => x.isFinite && kind = .float
  | .text _ => kind.isTextual
  | .choice _ => kind = .choice
  | .instant _ => kind = .instant

/-- Why a literal that does not fit is refused. -/
def refusal (kind : FieldKind) : Literal → Refusal
  | .null => .nullOperand
  | .float x => if x.isFinite then .mismatch (Literal.float x).display kind else .unboundedOperand
  | operand => .mismatch operand.display kind

end Literal

namespace Clause

/-- The relation that a comparison becomes. -/
def relationOf : Comparison → Relation
  | .eq => .eq
  | .ne => .neq
  | .lt => .lt
  | .lte => .lte
  | .gt => .gt
  | .gte => .gte

/-- The refusal of the first operand that does not fit. -/
def operandFailure? (kind : FieldKind) (operands : List Literal) : Option Refusal :=
  (operands.find? fun operand => !operand.fits kind).map (Literal.refusal kind)

/-- Refuse an expression, if there is a reason to. -/
def refuseIf (expression : Predicate) : Option Refusal → Except Failure Unit
  | some reason => .error (.unsupported expression.display reason)
  | none => .ok ()

/-- The clause of a comparison. -/
def ofComparison (field : FieldRef) (op : Comparison) (operand : Literal) :
    Except Failure Clause := do
  let path ← field.resolve
  let expression := Predicate.compare field op operand
  refuseIf expression (operandFailure? field.kind [operand])
  refuseIf expression (if op.isRange && !field.kind.isOrdered then some .unorderedField else none)
  return .test ⟨path, relationOf op, field.adapt operand⟩

/-- The clause of a membership. -/
def ofMembership (field : FieldRef) (operands : List Literal) : Except Failure Clause := do
  let path ← field.resolve
  refuseIf (.within field operands) (operandFailure? field.kind operands)
  return .test ⟨path, .within, .list (operands.map field.adapt)⟩

/-- The clause of a flag by itself: the field is true. -/
def ofFlag (field : FieldRef) : Except Failure Clause := do
  let path ← field.resolve
  refuseIf (.flag field) (if field.kind = .bool then none else some .bareField)
  return .test ⟨path, .eq, .bool true⟩

mutual

/-- The clause of a predicate. -/
def ofPredicate : Predicate → Except Failure Clause
  | .compare field op operand => ofComparison field op operand
  | .within field operands => ofMembership field operands
  | .flag field => ofFlag field
  | .all [] => .error (.unsupported (Predicate.all []).display .noOperands)
  | .all (part :: rest) => return join .and (← ofPredicates (part :: rest))
  | .any [] => .error (.unsupported (Predicate.any []).display .noOperands)
  | .any (part :: rest) => return join .or (← ofPredicates (part :: rest))
  | .not part => return .not (← ofPredicate part)

/-- The clauses of some predicates, in order. -/
def ofPredicates : List Predicate → Except Failure (List Clause)
  | [] => .ok []
  | part :: rest => do
    let clause ← ofPredicate part
    let later ← ofPredicates rest
    return clause :: later

end

theorem ofPredicates_eq (parts : List Predicate) : ofPredicates parts = parts.mapM ofPredicate := by
  induction parts with
  | nil =>
    show ofPredicates [] = .ok []
    rw [ofPredicates]
  | cons part rest later => simp [ofPredicates, later]

end Clause

end FacetQuery
