/-
**Requested aggregations.**

A `Facet` is a measure of a field or a grouping with facets inside each of its buckets; a list of
facets is one level. The functions in namespace `Facets` build such a level: a measure is added
behind the others, and a grouping takes everything built so far inside.
-/

import FacetQuery.Facet.Name
import FacetQuery.Predicate.Basic

namespace FacetQuery

/-- The direction in which documents are sorted. -/
inductive SortOrder where
  | ascending
  | descending
deriving DecidableEq, Repr

namespace SortOrder

/-- The direction when none is given. -/
def standard : SortOrder := ascending

/-- The backend's name of a direction. -/
def label : SortOrder → String
  | ascending => "asc"
  | descending => "desc"

end SortOrder

/-- What documents are grouped by: a typed field, or a key that is also the name of the grouping. -/
inductive GroupTarget where
  | field (field : FieldRef)
  | key (key : String)
deriving DecidableEq, Repr

/-- A measure of a field, over all documents or those of a filter. The percents concern percentiles
alone, and the order concerns the first document alone. -/
structure MeasureSpec where
  measure : Measure
  field : FieldRef
  filter : Option Predicate := none
  percents : List Double := []
  order : Option (FieldRef × SortOrder) := none

/-- A requested aggregation. -/
inductive Facet where
  | group (target : GroupTarget) (inner : List Facet)
  | measure (spec : MeasureSpec)

namespace Facets

variable {s t : ValueType}

/-- Add a measure of a field. -/
def add (facets : List Facet) (measure : Measure) (field : Field t) (filter : Option Predicate) :
    List Facet :=
  facets ++ [.measure { measure := measure, field := field.ref, filter := filter }]

/-- Add percentiles of a field at given percents. -/
def addPercentilesAt (facets : List Facet) (field : Field t) (percents : List Double)
    (filter : Option Predicate) : List Facet :=
  facets ++
    [.measure
      { measure := .percentiles, field := field.ref, filter := filter, percents := percents }]

/-- Add the value of a field in the first document of an order. -/
def addFirstOrdered (facets : List Facet) (field : Field t) (orderBy : Field s) (order : SortOrder)
    (filter : Option Predicate) : List Facet :=
  facets ++
    [.measure
      { measure := .firstBy, field := field.ref, filter := filter,
        order := some (orderBy.ref, order) }]

/-- Group by a field, with all facets inside. -/
def groupBy (facets : List Facet) (field : Field t) : List Facet :=
  [.group (.field field.ref) facets]

/-- Group by a key, with all facets inside. -/
def groupByKey (facets : List Facet) (key : String) : List Facet := [.group (.key key) facets]

/-- Group by several keys, the first outermost; each is taken with its first letter in lower
case. -/
def groupByKeys (facets : List Facet) (keys : List String) : List Facet :=
  keys.foldr (fun key inner => groupByKey inner (Lowercase.ofFirst key)) facets

/-- The facets of two levels as one. -/
def merge (facets others : List Facet) : List Facet := facets ++ others

end Facets

end FacetQuery
