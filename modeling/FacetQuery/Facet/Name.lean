/-
**Kinds and names of aggregations.**

A `Measure` is an aggregation that holds no others; a `FacetKind` is one of these, a grouping, or
the filter around a measure. Every kind has a tag, which starts the names of its aggregations; no
tag has an underscore, so a name shows where its tag ends.

The name of an aggregation is derived from its kind and its field's path, and the name of the filter
around it from that name and the filter's fingerprint. The one who reads a response derives the same
names, so nothing has to be remembered in between.
-/

import FacetQuery.Clause.Fingerprint
import FacetQuery.Schema.Field

namespace FacetQuery

/-! ### Kinds -/

/-- The kinds of aggregations, in the order of their tags. -/
inductive FacetKind where
  | average
  | cardinality
  | count
  | distinct
  | filter
  | firstBy
  | groupBy
  | max
  | min
  | percentiles
  | stats
  | sum
deriving DecidableEq, Repr

namespace FacetKind

/-- All kinds, in order. -/
def all : List FacetKind :=
  [average, cardinality, count, distinct, filter, firstBy, groupBy, max, min,
    percentiles, stats, sum]

/-- What starts the names of a kind. -/
def tag : FacetKind → String
  | average => "avg"
  | cardinality => "cardinality"
  | count => "count"
  | distinct => "distinct"
  | filter => "filter"
  | firstBy => "firstby"
  | groupBy => "groupby"
  | max => "max"
  | min => "min"
  | percentiles => "percentiles"
  | stats => "stats"
  | sum => "sum"

/-- Whether a kind is answered by buckets. -/
def hasBuckets (kind : FacetKind) : Bool := kind = groupBy || kind = distinct

/-- The kind of a tag. -/
def ofTag? (tag : String) : Option FacetKind := all.find? fun kind => kind.tag = tag

theorem ofTag?_tag (kind : FacetKind) : ofTag? kind.tag = some kind := by cases kind <;> decide

end FacetKind

/-- The kinds of aggregations that hold no others. -/
inductive Measure where
  | average
  | cardinality
  | count
  | distinct
  | firstBy
  | max
  | min
  | percentiles
  | stats
  | sum
deriving DecidableEq, Repr

namespace Measure

/-- All measures, in order. -/
def all : List Measure :=
  [average, cardinality, count, distinct, firstBy, max, min, percentiles, stats, sum]

/-- A measure as a kind of aggregation. -/
def kind : Measure → FacetKind
  | average => .average
  | cardinality => .cardinality
  | count => .count
  | distinct => .distinct
  | firstBy => .firstBy
  | max => .max
  | min => .min
  | percentiles => .percentiles
  | stats => .stats
  | sum => .sum

/-- The measure of a tag. -/
def ofTag? (tag : String) : Option Measure := all.find? fun measure => measure.kind.tag = tag

end Measure

/-! ### Names -/

namespace FacetName

/-- The name of a kind over a path. -/
def derive (kind : FacetKind) (path : String) : String := s!"{kind.tag}_{path}"

/-- The name of a kind over a field, whose path has to be one. -/
def ofField (field : FieldRef) (kind : FacetKind) : Except Failure String := do
  let path ← field.resolve
  return derive kind path

/-- The name of the filter around an aggregation. -/
def scope (inner : String) (fingerprint : Fingerprint) : String :=
  s!"{FacetKind.filter.tag}_{inner}_{fingerprint.short}"

/-- The kind and the path of a derived name: what stands before the first underscore, if it is a
tag, and what stands behind it. -/
def split? (name : String) : Option (FacetKind × String) :=
  let text := name.toList
  match text.dropWhile (· != '_') with
  | _ :: path =>
    (FacetKind.ofTag? (String.ofList (text.takeWhile (· != '_')))).map (·, String.ofList path)
  | [] => none

end FacetName

end FacetQuery
