/-
**Refusals.**

What can be wrong with a facet by itself is that a path of it is no path or that its filter does not
compile. Resolution looks at these in a fixed order and says what it finds first.

* `Clause.onlyRefuses_ofPredicate` — **a predicate that does not compile is unsupported.**
* `Facet.refusal?` — **why a facet by itself does not resolve**, and `Facet.Resolves`, that it does.
* `MeasureSpec.failure?_resolve`, `GroupTarget.failure?_resolve` — resolution fails as that says.
-/

import FacetQuery.Proofs.Resolution

namespace FacetQuery

/-! ### Steps that refuse -/

/-- A step fails, if at all, because something is unsupported. -/
def OnlyRefuses {α : Type} (step : Except Failure α) : Prop :=
  ∀ failure, step = .error failure → failure.kind = .unsupported

namespace OnlyRefuses

variable {α β : Type}

theorem ok (value : α) : OnlyRefuses (.ok value) := nofun

theorem unsupported (expression : String) (reason : Refusal) :
    OnlyRefuses (.error (.unsupported expression reason) : Except Failure α) := by
  intro failure refused
  cases refused
  rfl

theorem bind {step : Except Failure α} {next : α → Except Failure β} (first : OnlyRefuses step)
    (later : ∀ value, OnlyRefuses (next value)) : OnlyRefuses (step >>= next) :=
  OnlyFails.bind first later

end OnlyRefuses

theorem Path.onlyRefuses_check (path : String) : OnlyRefuses (check path) := by
  unfold check
  split
  · exact .unsupported path .emptyPath
  · split
    · exact .unsupported path _
    · exact .ok ()

theorem FieldRef.onlyRefuses_resolve (field : FieldRef) : OnlyRefuses field.resolve :=
  (Path.onlyRefuses_check field.path).bind fun _ => .ok _

namespace Clause

theorem onlyRefuses_refuseIf (expression : Predicate) (reason : Option Refusal) :
    OnlyRefuses (refuseIf expression reason) := by
  cases reason with
  | none => exact .ok ()
  | some reason => exact .unsupported _ reason

mutual

/-- **A predicate that does not compile is unsupported**, as a whole or in one of its parts. -/
theorem onlyRefuses_ofPredicate (predicate : Predicate) : OnlyRefuses (ofPredicate predicate) := by
  cases predicate with
  | compare field op operand =>
    rw [ofPredicate]
    exact field.onlyRefuses_resolve.bind fun _ => (onlyRefuses_refuseIf _ _).bind fun _ =>
      (onlyRefuses_refuseIf _ _).bind fun _ => .ok _
  | within field operands =>
    rw [ofPredicate]
    exact field.onlyRefuses_resolve.bind fun _ => (onlyRefuses_refuseIf _ _).bind fun _ => .ok _
  | flag field =>
    rw [ofPredicate]
    exact field.onlyRefuses_resolve.bind fun _ => (onlyRefuses_refuseIf _ _).bind fun _ => .ok _
  | all parts =>
    cases parts with
    | nil =>
      rw [ofPredicate]
      exact .unsupported _ .noOperands
    | cons part rest =>
      rw [ofPredicate]
      exact (onlyRefuses_ofPredicates (part :: rest)).bind fun _ => .ok _
  | any parts =>
    cases parts with
    | nil =>
      rw [ofPredicate]
      exact .unsupported _ .noOperands
    | cons part rest =>
      rw [ofPredicate]
      exact (onlyRefuses_ofPredicates (part :: rest)).bind fun _ => .ok _
  | not part =>
    rw [ofPredicate]
    exact (onlyRefuses_ofPredicate part).bind fun _ => .ok _

theorem onlyRefuses_ofPredicates (predicates : List Predicate) :
    OnlyRefuses (ofPredicates predicates) := by
  cases predicates with
  | nil =>
    rw [ofPredicates]
    exact .ok []
  | cons part rest =>
    rw [ofPredicates]
    exact (onlyRefuses_ofPredicate part).bind fun _ =>
      (onlyRefuses_ofPredicates rest).bind fun _ => .ok _

end

end Clause

/-! ### Facets by themselves -/

namespace Facet

/-- **Why a facet by itself does not resolve**: a grouping for its path, and a measure for its path,
else for its filter, else for the path of its order. -/
def refusal? : Facet → Option Failure
  | .group target _ => failure? (Path.check target.path)
  | .measure spec =>
    (failure? (Path.check spec.field.path)).or
      ((spec.filter.bind fun predicate => failure? (Clause.ofPredicate predicate)).or
        (spec.order.bind fun order => failure? (Path.check order.1.path)))

/-- A facet by itself resolves: its paths are paths and its filter compiles. -/
def Resolves : Facet → Prop
  | .group target _ => Path.check target.path = .ok ()
  | .measure spec =>
    Path.check spec.field.path = .ok () ∧
      (∀ predicate, spec.filter = some predicate →
        ∃ clause, Clause.ofPredicate predicate = .ok clause) ∧
      ∀ field direction, spec.order = some (field, direction) → Path.check field.path = .ok ()

theorem failure?_check_eq_none {path : String} :
    failure? (Path.check path) = none ↔ Path.check path = .ok () := by
  rw [failure?_eq_none]
  exact ⟨fun ⟨_, valid⟩ => valid, fun valid => ⟨(), valid⟩⟩

theorem refusal?_eq_none {facet : Facet} : facet.refusal? = none ↔ facet.Resolves := by
  cases facet with
  | group target inner => exact failure?_check_eq_none
  | measure spec =>
    unfold refusal? Resolves
    rw [Option.or_eq_none_iff, Option.or_eq_none_iff, failure?_check_eq_none,
      Option.bind_eq_none_iff, Option.bind_eq_none_iff]
    simp only [failure?_check_eq_none, Prod.forall]
    simp only [failure?_eq_none]

/-- A facet is refused as unsupported. -/
theorem kind_of_refusal? {facet : Facet} {failure : Failure}
    (refused : facet.refusal? = some failure) : failure.kind = .unsupported := by
  cases facet with
  | group target inner => exact Path.onlyRefuses_check _ failure (failure?_eq_some.mp refused)
  | measure spec =>
    rcases Option.or_eq_some_iff.mp refused with path | ⟨_, refused⟩
    · exact Path.onlyRefuses_check _ failure (failure?_eq_some.mp path)
    · rcases Option.or_eq_some_iff.mp refused with filter | ⟨_, order⟩
      · obtain ⟨predicate, _, refused⟩ := Option.bind_eq_some_iff.mp filter
        exact Clause.onlyRefuses_ofPredicate predicate failure (failure?_eq_some.mp refused)
      · obtain ⟨order, _, refused⟩ := Option.bind_eq_some_iff.mp order
        exact Path.onlyRefuses_check _ failure (failure?_eq_some.mp refused)

end Facet

/-! ### Resolution -/

theorem FieldRef.failure?_resolve (field : FieldRef) :
    failure? field.resolve = failure? (Path.check field.path) :=
  failure?_bind_ok fun _ => rfl

theorem FacetName.failure?_ofField (field : FieldRef) (kind : FacetKind) :
    failure? (ofField field kind) = failure? (Path.check field.path) :=
  (failure?_bind_ok fun _ => rfl).trans field.failure?_resolve

theorem GroupTarget.failure?_resolve (target : GroupTarget) :
    failure? target.resolve = failure? (Path.check target.path) := by
  cases target with
  | field source =>
    exact (failure?_bind_ok fun _ => rfl).trans (FacetName.failure?_ofField source .groupBy)
  | key text => exact failure?_bind_ok fun _ => rfl

namespace MeasureSpec

theorem failure?_scope (name : String) (filter : Option Predicate) :
    failure? (scope name filter) =
      filter.bind fun predicate => failure? (Clause.ofPredicate predicate) := by
  cases filter with
  | none => rfl
  | some predicate => exact failure?_bind_ok fun _ => rfl

theorem failure?_sorting (order : Option (FieldRef × SortOrder)) :
    failure? (sorting order) = order.bind fun order => failure? (Path.check order.1.path) := by
  cases order with
  | none => rfl
  | some order => exact (failure?_bind_ok fun _ => rfl).trans order.1.failure?_resolve

/-- A measure fails to resolve as it says by itself. -/
theorem failure?_resolve (settings : Settings) (spec : MeasureSpec) :
    failure? (spec.resolve settings) = (Facet.measure spec).refusal? := by
  rw [resolve, Facet.refusal?, ← FacetName.failure?_ofField spec.field spec.measure.kind]
  refine failure?_bind fun name _ => ?_
  rw [← failure?_scope name, ← failure?_sorting]
  exact failure?_bind fun _ _ => failure?_bind_ok fun _ => rfl

end MeasureSpec

end FacetQuery
