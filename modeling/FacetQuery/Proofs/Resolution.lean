/-
**What resolves, and to what.**

A facet resolves if its paths are paths and its filter compiles, and then its request is known. Each
lemma reads the success of one step of resolution as what that step decides.

* `FacetName.outer` — **the name of an aggregation at its own level**: the derived one, or that of
  its filter.
* `MeasureSpec.resolve_eq_ok`, `GroupTarget.resolve_eq_ok` — **a measure and a target** by their
  parts.
* `Request.ofFacet_group_eq_ok`, `Request.ofEach_eq_ok` — groupings and levels by theirs.
-/

import FacetQuery.Facet.OfFacets
import FacetQuery.Proofs.Compilation
import FacetQuery.Reading.Lookup

namespace FacetQuery

/-! ### Names -/

namespace FacetName

/-- The name of an aggregation at its own level: the given one, or that of the filter around it. -/
def outer (name : String) : Option Clause → String
  | none => name
  | some clause => scope name clause.fingerprint

theorem ofField_eq_ok {field : FieldRef} {kind : FacetKind} {name : String} :
    ofField field kind = .ok name ↔
      Path.check field.path = .ok () ∧ name = derive kind field.path := by
  simp only [ofField, bind_eq_ok, FieldRef.resolve_eq_ok, pure_eq_ok, Except.ok.injEq]
  constructor
  · rintro ⟨_, ⟨valid, rfl⟩, rfl⟩
    exact ⟨valid, rfl⟩
  · rintro ⟨valid, rfl⟩
    exact ⟨field.path, ⟨valid, rfl⟩, rfl⟩

end FacetName

/-- The name of a read is derived from its field, its kind and its compiled filter. -/
theorem Reading.lookupName_eq_ok {t : ValueType} {field : Field t} {kind : FacetKind}
    {filter : Option Predicate} {name : String} :
    lookupName field kind filter = .ok name ↔
      Path.check field.path = .ok () ∧
        ∃ clause, filter.mapM Clause.ofPredicate = .ok clause ∧
          name = FacetName.outer (FacetName.derive kind field.path) clause := by
  simp only [lookupName, bind_eq_ok, FacetName.ofField_eq_ok]
  cases filter with
  | none =>
    simp only [pure_eq_ok, mapM_none, Except.ok.injEq]
    constructor
    · rintro ⟨_, ⟨valid, rfl⟩, rfl⟩
      exact ⟨valid, none, rfl, rfl⟩
    · rintro ⟨valid, _, rfl, rfl⟩
      exact ⟨_, ⟨valid, rfl⟩, rfl⟩
  | some predicate =>
    simp only [bind_eq_ok, pure_eq_ok, mapM_some_eq_ok, Except.ok.injEq]
    constructor
    · rintro ⟨_, ⟨valid, rfl⟩, clause, compiled, rfl⟩
      exact ⟨valid, some clause, ⟨clause, compiled, rfl⟩, rfl⟩
    · rintro ⟨valid, _, ⟨clause, compiled, rfl⟩, rfl⟩
      exact ⟨_, ⟨valid, rfl⟩, clause, compiled, rfl⟩

/-! ### Measures -/

namespace MeasureSpec

/-- The derived name of a measure. -/
def name (spec : MeasureSpec) : String := FacetName.derive spec.measure.kind spec.field.path

theorem scope_eq_ok {name : String} {filter : Option Predicate} {around : Option Scope} :
    scope name filter = .ok around ↔
      ∃ clause, filter.mapM Clause.ofPredicate = .ok clause ∧
        around = clause.map fun clause => ⟨FacetName.scope name clause.fingerprint, clause⟩ := by
  cases filter with
  | none =>
    simp only [scope, pure_eq_ok, mapM_none, Except.ok.injEq]
    constructor
    · rintro rfl
      exact ⟨none, rfl, rfl⟩
    · rintro ⟨_, rfl, rfl⟩
      rfl
  | some predicate =>
    simp only [scope, bind_eq_ok, pure_eq_ok, mapM_some_eq_ok, Except.ok.injEq]
    constructor
    · rintro ⟨clause, compiled, rfl⟩
      exact ⟨some clause, ⟨clause, compiled, rfl⟩, rfl⟩
    · rintro ⟨_, ⟨clause, compiled, rfl⟩, rfl⟩
      exact ⟨clause, compiled, rfl⟩

/-- The request of a measure, its filter and its order made ready. -/
def made (settings : Settings) (spec : MeasureSpec) (clause : Option Clause)
    (order : Option (String × SortOrder)) : MeasureRequest where
  name := spec.name
  measure := spec.measure
  field := spec.field.path
  scope := clause.map fun clause => ⟨FacetName.scope spec.name clause.fingerprint, clause⟩
  percents :=
    if spec.measure = .percentiles ∧ spec.percents.isEmpty then settings.percents else spec.percents
  size := if spec.measure = .distinct then some settings.maxBuckets else none
  order := order

/-- **A measure resolves** exactly if its path is one, its filter compiles and its order
resolves. -/
theorem resolve_eq_ok {settings : Settings} {spec : MeasureSpec} {request : MeasureRequest} :
    spec.resolve settings = .ok request ↔
      Path.check spec.field.path = .ok () ∧
        ∃ clause order, spec.filter.mapM Clause.ofPredicate = .ok clause ∧
          sorting spec.order = .ok order ∧ request = spec.made settings clause order := by
  simp only [resolve, bind_eq_ok, FacetName.ofField_eq_ok, scope_eq_ok, pure_eq_ok, Except.ok.injEq]
  constructor
  · rintro ⟨_, ⟨valid, rfl⟩, _, ⟨clause, compiled, rfl⟩, order, sorted, rfl⟩
    exact ⟨valid, clause, order, compiled, sorted, rfl⟩
  · rintro ⟨valid, clause, order, compiled, sorted, rfl⟩
    exact ⟨_, ⟨valid, rfl⟩, _, ⟨clause, compiled, rfl⟩, order, sorted, rfl⟩

/-- A measure stands at its level under its own name or that of its filter. -/
theorem made_outerName (settings : Settings) (spec : MeasureSpec) (clause : Option Clause)
    (order : Option (String × SortOrder)) :
    (spec.made settings clause order).outerName = FacetName.outer spec.name clause := by
  cases clause with
  | none => rfl
  | some clause => rfl

end MeasureSpec

/-! ### Groupings -/

namespace GroupTarget

/-- The name of a grouping. -/
def name : GroupTarget → String
  | .field source => FacetName.derive .groupBy source.path
  | .key text => text

/-- The path of a grouping. -/
def path : GroupTarget → String
  | .field source => source.path
  | .key text => text

/-- **A target resolves** exactly if its path is one. -/
theorem resolve_eq_ok {target : GroupTarget} {name field : String} :
    target.resolve = .ok (name, field) ↔
      Path.check target.path = .ok () ∧ name = target.name ∧ field = target.path := by
  cases target with
  | field source =>
    simp only [resolve, bind_eq_ok, FacetName.ofField_eq_ok, pure_eq_ok, Except.ok.injEq,
      Prod.mk.injEq]
    constructor
    · rintro ⟨_, ⟨valid, rfl⟩, rfl, rfl⟩
      exact ⟨valid, rfl, rfl⟩
    · rintro ⟨valid, rfl, rfl⟩
      exact ⟨_, ⟨valid, rfl⟩, rfl, rfl⟩
  | key text =>
    simp only [resolve, bind_eq_ok, pure_eq_ok, Except.ok.injEq, Prod.mk.injEq]
    constructor
    · rintro ⟨_, valid, rfl, rfl⟩
      exact ⟨valid, rfl, rfl⟩
    · rintro ⟨valid, rfl, rfl⟩
      exact ⟨(), valid, rfl, rfl⟩

end GroupTarget

namespace Request

variable {settings : Settings} {request : Request}

/-- The requests of some facets are those of each. -/
theorem ofEach_eq_ok {facets : List Facet} {requests : List Request} :
    ofEach settings facets = .ok requests ↔
      List.Forall₂ (fun facet request => ofFacet settings facet = .ok request) facets requests := by
  rw [ofEach_eq, mapM_eq_ok]

/-- **A grouping resolves** exactly if its path is one and all facets inside resolve. -/
theorem ofFacet_group_eq_ok {target : GroupTarget} {inner : List Facet} :
    ofFacet settings (.group target inner) = .ok request ↔
      Path.check target.path = .ok () ∧
        ∃ requests, ofEach settings inner = .ok requests ∧
          request = .group target.name target.path settings.maxBuckets requests := by
  simp only [ofFacet, bind_eq_ok, pure_eq_ok, Except.ok.injEq]
  constructor
  · rintro ⟨⟨name, field⟩, resolved, requests, each, rfl⟩
    obtain ⟨valid, rfl, rfl⟩ := GroupTarget.resolve_eq_ok.mp resolved
    exact ⟨valid, requests, each, rfl⟩
  · rintro ⟨valid, requests, each, rfl⟩
    exact ⟨_, GroupTarget.resolve_eq_ok.mpr ⟨valid, rfl, rfl⟩, requests, each, rfl⟩

theorem ofFacet_measure_eq_ok {spec : MeasureSpec} :
    ofFacet settings (.measure spec) = .ok request ↔
      ∃ made, spec.resolve settings = .ok made ∧ request = .measure made := by
  simp only [ofFacet, bind_eq_ok, pure_eq_ok, Except.ok.injEq]
  exact exists_congr fun made => and_congr_right fun _ => eq_comm

end Request

end FacetQuery
