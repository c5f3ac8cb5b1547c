/-
**The shapes of an answer.**

Every requested aggregation is answered by one of eight shapes. `OutcomeKind.label` names a shape
that was found, `OutcomeKind.phrase` one that was expected.
-/

namespace FacetQuery

/-- The shape of the answer to one aggregation. -/
inductive OutcomeKind where
  | metric
  | valueCount
  | cardinality
  | percentiles
  | stats
  | topHits
  | terms
  | filter
deriving DecidableEq, Repr

namespace OutcomeKind

/-- The name of a shape. -/
def label : OutcomeKind → String
  | metric => "metric"
  | valueCount => "value count"
  | cardinality => "cardinality"
  | percentiles => "percentiles"
  | stats => "stats"
  | topHits => "top hits"
  | terms => "terms"
  | filter => "filter"

/-- A shape in a sentence about what should have been there. -/
def phrase : OutcomeKind → String
  | metric => "a metric"
  | valueCount => "a value count"
  | cardinality => "a cardinality"
  | kind => kind.label

end OutcomeKind

end FacetQuery
