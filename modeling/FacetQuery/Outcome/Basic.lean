/-
**Answers.**

The answers of one level of a response are a dictionary from names to outcomes (`Outcomes`). A
bucket and a filter hold a level of their own.
-/

import FacetQuery.Json.Basic
import FacetQuery.Outcome.Kind

namespace FacetQuery

/-- The value at one percent. -/
structure PercentileValue where
  percent : Double
  value : Option Double
deriving DecidableEq

/-- Statistics over a numeric field. -/
structure Statistics where
  count : UInt64
  min : Option Double := none
  max : Option Double := none
  avg : Option Double := none
  sum : Double
  sumOfSquares : Option Double := none
  variance : Option Double := none
  stdDeviation : Option Double := none
deriving DecidableEq

/-- A bucket of documents with one key, and what was found among them. The raw key is kept when the
backend formatted the key and the two differ. -/
structure Bucket (α : Type) where
  key : String
  rawKey : Option String := none
  docCount : UInt64
  outcomes : List (String × α) := []

/-- The answer to one aggregation. -/
inductive Outcome where
  | metric (value : Option Double)
  | valueCount (count : UInt64)
  | cardinality (count : UInt64)
  | percentiles (items : List PercentileValue)
  | stats (statistics : Statistics)
  | topHits (sources : List Json)
  | terms (buckets : List (Bucket Outcome))
  | filter (docCount : UInt64) (outcomes : List (String × Outcome))

/-- The answers of one level, by name. -/
abbrev Outcomes := Dict Outcome

namespace Outcome

/-- The shape of an answer. -/
def kind : Outcome → OutcomeKind
  | metric _ => .metric
  | valueCount _ => .valueCount
  | cardinality _ => .cardinality
  | percentiles _ => .percentiles
  | stats _ => .stats
  | topHits _ => .topHits
  | terms _ => .terms
  | filter _ _ => .filter

end Outcome

end FacetQuery
