/-
**From facets to requests.**

Every facet is resolved by itself, in the order in which it was given and the outer before the
inner, and the first that does not resolve decides the failure; only then are the names of all
compared. Within a measure the field comes before the filter and the filter before the order.
-/

import FacetQuery.Clause.OfPredicate
import FacetQuery.Facet.Name
import FacetQuery.Facet.Request
import FacetQuery.Settings.Basic

namespace FacetQuery

namespace GroupTarget

/-- The name and the field of a grouping. -/
def resolve : GroupTarget → Except Failure (String × String)
  | .field source => do
    let name ← FacetName.ofField source .groupBy
    return (name, source.path)
  | .key text => do
    Path.check text
    return (text, text)

end GroupTarget

namespace MeasureSpec

/-- The filter around the measure of a name. -/
def scope (name : String) : Option Predicate → Except Failure (Option Scope)
  | none => return none
  | some predicate => do
    let clause ← Clause.ofPredicate predicate
    return some ⟨FacetName.scope name clause.fingerprint, clause⟩

/-- The path and the direction of an order. -/
def sorting : Option (FieldRef × SortOrder) → Except Failure (Option (String × SortOrder))
  | none => return none
  | some (field, order) => do
    let path ← field.resolve
    return some (path, order)

/-- The measure made ready. -/
def resolve (settings : Settings) (spec : MeasureSpec) : Except Failure MeasureRequest := do
  let name ← FacetName.ofField spec.field spec.measure.kind
  let scope ← scope name spec.filter
  let order ← sorting spec.order
  return {
    name := name
    measure := spec.measure
    field := spec.field.path
    scope := scope
    percents :=
      if spec.measure = .percentiles ∧ spec.percents.isEmpty then settings.percents
      else spec.percents
    size := if spec.measure = .distinct then some settings.maxBuckets else none
    order := order }

end MeasureSpec

namespace Request

mutual

/-- The request of a facet, its names not yet compared with others. -/
def ofFacet (settings : Settings) : Facet → Except Failure Request
  | .group target inner => do
    let (name, field) ← target.resolve
    let requests ← ofEach settings inner
    return .group name field settings.maxBuckets requests
  | .measure spec => return .measure (← spec.resolve settings)

/-- The requests of some facets, in order. -/
def ofEach (settings : Settings) : List Facet → Except Failure (List Request)
  | [] => .ok []
  | facet :: rest => do
    let request ← ofFacet settings facet
    let later ← ofEach settings rest
    return request :: later

end

theorem ofEach_eq (settings : Settings) (facets : List Facet) :
    ofEach settings facets = facets.mapM (ofFacet settings) := by
  induction facets with
  | nil =>
    show ofEach settings [] = .ok []
    rw [ofEach]
  | cons facet rest later => simp [ofEach, later]

/-- The requests of some facets, whose names can all be told apart. -/
def ofFacets (settings : Settings) (facets : List Facet) : Except Failure (List Request) := do
  let requests ← ofEach settings facets
  checkNames requests
  return requests

end Request

end FacetQuery
