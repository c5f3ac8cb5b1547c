/-
**What compiles, and to what.**

One lemma for each form of predicate reads the success of its compilation as the conditions that it
checks and the clause that it makes.

* `ofComparison_eq_ok`, `ofMembership_eq_ok`, `ofFlag_eq_ok` — **atoms** by path, operand and kind
  of field.
* `ofPredicate_all_eq_ok`, `ofPredicate_any_eq_ok`, `ofPredicate_not_eq_ok` — **joined predicates**
  by their parts.
-/

import FacetQuery.Clause.OfPredicate
import FacetQuery.Proofs.Steps

namespace FacetQuery

theorem FieldRef.resolve_eq_ok {field : FieldRef} {path : String} :
    field.resolve = .ok path ↔ Path.check field.path = .ok () ∧ path = field.path := by
  simp only [resolve, bind_eq_ok, pure_eq_ok, Except.ok.injEq]
  constructor
  · rintro ⟨_, valid, rfl⟩
    exact ⟨valid, rfl⟩
  · rintro ⟨valid, rfl⟩
    exact ⟨(), valid, rfl⟩

namespace Clause

variable {field : FieldRef} {clause : Clause}

/-! ### Atoms -/

theorem refuseIf_eq_ok {expression : Predicate} {reason : Option Refusal} {result : Unit} :
    refuseIf expression reason = .ok result ↔ reason = none := by
  cases reason with
  | none => simp [refuseIf]
  | some reason => simp [refuseIf]

/-- No operand is refused exactly if all fit. -/
theorem operandFailure?_eq_none {kind : FieldKind} {operands : List Literal} :
    operandFailure? kind operands = none ↔ ∀ operand ∈ operands, operand.fits kind = true := by
  simp [operandFailure?]

/-- **A comparison compiles** exactly if its path is one, its operand fits, and there is an order if
it needs one. -/
theorem ofComparison_eq_ok {op : Comparison} {operand : Literal} :
    ofComparison field op operand = .ok clause ↔
      Path.check field.path = .ok () ∧ operand.fits field.kind = true ∧
        (op.isRange = true → field.kind.isOrdered = true) ∧
        clause = .test ⟨field.path, relationOf op, field.adapt operand⟩ := by
  simp only [ofComparison, bind_eq_ok, FieldRef.resolve_eq_ok, refuseIf_eq_ok,
    operandFailure?_eq_none, pure_eq_ok, Except.ok.injEq, List.mem_singleton, forall_eq]
  constructor
  · rintro ⟨_, ⟨valid, rfl⟩, _, fits, _, ordered, rfl⟩
    refine ⟨valid, fits, fun range => ?_, rfl⟩
    simpa [range] using ordered
  · rintro ⟨valid, fits, ordered, rfl⟩
    refine ⟨field.path, ⟨valid, rfl⟩, (), fits, (), ?_, rfl⟩
    cases range : op.isRange with
    | false => simp
    | true => simp [ordered range]

/-- **A membership compiles** exactly if its path is one and its operands fit. -/
theorem ofMembership_eq_ok {operands : List Literal} :
    ofMembership field operands = .ok clause ↔
      Path.check field.path = .ok () ∧ (∀ operand ∈ operands, operand.fits field.kind = true) ∧
        clause = .test ⟨field.path, .within, .list (operands.map field.adapt)⟩ := by
  simp only [ofMembership, bind_eq_ok, FieldRef.resolve_eq_ok, refuseIf_eq_ok,
    operandFailure?_eq_none, pure_eq_ok, Except.ok.injEq]
  constructor
  · rintro ⟨_, ⟨valid, rfl⟩, _, fits, rfl⟩
    exact ⟨valid, fits, rfl⟩
  · rintro ⟨valid, fits, rfl⟩
    exact ⟨field.path, ⟨valid, rfl⟩, (), fits, rfl⟩

/-- **A flag compiles** exactly if its path is one and it is a flag. -/
theorem ofFlag_eq_ok :
    ofFlag field = .ok clause ↔
      Path.check field.path = .ok () ∧ field.kind = .bool ∧
        clause = .test ⟨field.path, .eq, .bool true⟩ := by
  simp only [ofFlag, bind_eq_ok, FieldRef.resolve_eq_ok, refuseIf_eq_ok, ite_eq_left_iff,
    reduceCtorEq, imp_false, not_not, pure_eq_ok, Except.ok.injEq]
  constructor
  · rintro ⟨_, ⟨valid, rfl⟩, _, isFlag, rfl⟩
    exact ⟨valid, isFlag, rfl⟩
  · rintro ⟨valid, isFlag, rfl⟩
    exact ⟨field.path, ⟨valid, rfl⟩, (), isFlag, rfl⟩

/-! ### Joined predicates -/

theorem ofPredicates_eq_ok {parts : List Predicate} {clauses : List Clause} :
    ofPredicates parts = .ok clauses ↔
      List.Forall₂ (fun part clause => ofPredicate part = .ok clause) parts clauses := by
  rw [ofPredicates_eq, mapM_eq_ok]

/-- **A conjunction compiles** exactly if it has parts and all of them do. -/
theorem ofPredicate_all_eq_ok {parts : List Predicate} :
    ofPredicate (.all parts) = .ok clause ↔
      parts ≠ [] ∧ ∃ clauses, ofPredicates parts = .ok clauses ∧ clause = join .and clauses := by
  cases parts with
  | nil => simp [ofPredicate]
  | cons part rest =>
    simp only [ofPredicate, bind_eq_ok, pure_eq_ok, Except.ok.injEq, ne_eq, reduceCtorEq,
      not_false_eq_true, true_and]
    exact exists_congr fun clauses => and_congr_right fun _ => eq_comm

/-- **A disjunction compiles** exactly if it has parts and all of them do. -/
theorem ofPredicate_any_eq_ok {parts : List Predicate} :
    ofPredicate (.any parts) = .ok clause ↔
      parts ≠ [] ∧ ∃ clauses, ofPredicates parts = .ok clauses ∧ clause = join .or clauses := by
  cases parts with
  | nil => simp [ofPredicate]
  | cons part rest =>
    simp only [ofPredicate, bind_eq_ok, pure_eq_ok, Except.ok.injEq, ne_eq, reduceCtorEq,
      not_false_eq_true, true_and]
    exact exists_congr fun clauses => and_congr_right fun _ => eq_comm

/-- **A negation compiles** exactly if its part does. -/
theorem ofPredicate_not_eq_ok {part : Predicate} :
    ofPredicate (.not part) = .ok clause ↔
      ∃ inner, ofPredicate part = .ok inner ∧ clause = inner.not := by
  simp only [ofPredicate, bind_eq_ok, pure_eq_ok, Except.ok.injEq]
  exact exists_congr fun inner => and_congr_right fun _ => eq_comm

end Clause

end FacetQuery
