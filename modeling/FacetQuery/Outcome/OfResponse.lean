/-
**From responses to answers.**

A response is read along the requests that it answers: of each level only the members with requested
names are looked at, and a request without a member has no answer.

* `count?` — **counts**: an integer from zero up, or a floating number that is one; what is too
  large for eight bytes becomes the largest count.
* `bucketKey` — **the key of a bucket**: the formatted one when there is one, with the raw key
  beside it if it differs; a raw key is a text, a flag or a number, and a number without a fraction
  is written as an integer below nine quadrillions (`numberKey`).
* `percentilesOf` — both forms of percentiles, in increasing order of the percents.
-/

import FacetQuery.Facet.Request
import FacetQuery.Json.Printer
import FacetQuery.Numeral.Scan
import FacetQuery.Outcome.Basic

namespace FacetQuery

namespace Outcome

/-- The value, or the failure that a response has not the expected shape. -/
def require {α : Type} (name : String) (reason : Malformation) (value : Option α) :
    Except Failure α :=
  match value with
  | some value => .ok value
  | none => .error (.malformed name reason)

/-! ### Numbers -/

/-- The largest count. -/
def largestCount : Nat := 18446744073709551615

/-- A number as a count. -/
def count? (document : Json) : Option UInt64 :=
  match document.unsigned? with
  | some n => some n
  | none => document.double?.bind fun x =>
    if x.isWhole ∧ 0 ≤ x.scaled then some (UInt64.ofNat (min x.truncated.toNat largestCount))
    else none

/-- The count under a name of an object. -/
def countAt (name member : String) (reason : Malformation) (body : Json) : Except Failure UInt64 :=
  require name reason ((body.member? member).bind count?)

/-- The number of documents of a bucket or a filter. -/
def docCount (name : String) (body : Json) : Except Failure UInt64 :=
  countAt name "doc_count" .noDocCount body

/-- The value of a metric, absent when the backend had nothing to compute it from. -/
def metricValue (name : String) (body : Json) : Except Failure (Option Double) :=
  match body.members? with
  | none => .error (.malformed name .noObject)
  | some members =>
    match Dict.find? "value" members with
    | none => .ok none
    | some value =>
      if value.isNull then .ok none else (require name .noMetric value.double?).map some

/-! ### Keys of buckets -/

/-- Whether a whole number is small enough to be written as an integer. -/
def isShortWhole (x : Double) : Bool := x.isWhole && decide (x.truncated.natAbs < 9000000000000000)

/-- A number as the key of a bucket. -/
def numberKey : Json.Number → String
  | .whole n _ => toString n
  | .real x finite =>
    if isShortWhole x then toString x.truncated else (Json.Number.real x finite).text

/-- The raw key of a bucket, if it is a scalar. -/
def rawKey? (bucket : Json) : Option String :=
  match bucket.member? "key" with
  | some (.string text) => some text
  | some (.bool flag) => some (if flag then "true" else "false")
  | some (.number n) => some (numberKey n)
  | _ => none

/-- The key of a bucket and the raw key beside it. -/
def bucketKey (name : String) (bucket : Json) : Except Failure (String × Option String) :=
  match (bucket.member? "key_as_string").bind Json.string? with
  | some text => .ok (text, (rawKey? bucket).filter (· ≠ text))
  | none => (require name .noKey (rawKey? bucket)).map (·, none)

/-! ### Percentiles and statistics -/

/-- The percentiles of an object from percents to values; the formatted values beside them are left
out. -/
def keyedPercentiles (name : String) (values : Dict Json) : Except Failure (List PercentileValue) :=
  (values.filter fun (key, _) => !("_as_string".toList.isSuffixOf key.toList)).mapM
    fun (key, value) => do
    let percent ← require name (.percentText key) (Scan.real? key.toList)
    return ⟨percent, value.double?⟩

/-- The percentiles of a list of objects. -/
def listedPercentiles (name : String) (values : List Json) :
    Except Failure (List PercentileValue) :=
  values.mapM fun item => do
    let percent ← require name .noPercent ((item.member? "key").bind Json.double?)
    return ⟨percent, (item.member? "value").bind Json.double?⟩

/-- Percentiles in increasing order of their percents. -/
def sorted (items : List PercentileValue) : List PercentileValue :=
  items.mergeSort fun a b => decide (a.percent.rank ≤ b.percent.rank)

/-- The percentiles of either form. -/
def percentilesOf (name : String) (body : Json) : Except Failure (List PercentileValue) := do
  let items ← match body.member? "values" with
    | some (.object values) => keyedPercentiles name values
    | some (.array values) => listedPercentiles name values
    | _ => .error (.malformed name .noPercentiles)
  return sorted items

/-- Statistics; all but the count may be absent, and an absent sum is zero. -/
def statisticsOf (name : String) (body : Json) : Except Failure Statistics := do
  let number (member : String) := (body.member? member).bind Json.double?
  let count ← countAt name "count" .noStatsCount body
  return {
    count := count
    min := number "min"
    max := number "max"
    avg := number "avg"
    sum := (number "sum").getD (.zero false)
    sumOfSquares := number "sum_of_squares"
    variance := number "variance"
    stdDeviation := number "std_deviation" }

/-- The sources of the hits, null for a hit without one. -/
def hitSources (name : String) (body : Json) : Except Failure (List Json) := do
  let hits ← require name .noHits ((body.descend? ["hits", "hits"]).bind Json.items?)
  return hits.map fun hit => (hit.member? "_source").getD .null

/-! ### Buckets and levels -/

/-- The buckets of terms. -/
def bucketItems (name : String) (body : Json) : Except Failure (List Json) :=
  require name .noBuckets ((body.member? "buckets").bind Json.items?)

/-- A bucket, whose own level is read by `level`. -/
def bucketOf (name : String) (level : Json → Except Failure Outcomes) (bucket : Json) :
    Except Failure (Bucket Outcome) := do
  let (key, raw) ← bucketKey name bucket
  let docCount ← docCount name bucket
  let outcomes ← level bucket
  return ⟨key, raw, docCount, outcomes⟩

/-- Terms, the level inside each bucket read by `level`. -/
def termsOf (name : String) (level : Json → Except Failure Outcomes) (body : Json) :
    Except Failure Outcome := do
  let items ← bucketItems name body
  let buckets ← items.mapM (bucketOf name level)
  return .terms buckets

/-- The members of a level, which has to be an object. -/
def levelMembers (body : Json) : Except Failure (Dict Json) :=
  require "aggregations" .noObject body.members?

/-- The answer to a measure. -/
def ofMeasure (measure : Measure) (name : String) (body : Json) : Except Failure Outcome :=
  match measure with
  | .sum | .average | .min | .max => (metricValue name body).map .metric
  | .count => (countAt name "value" .noCount body).map .valueCount
  | .cardinality => (countAt name "value" .noCount body).map .cardinality
  | .percentiles => (percentilesOf name body).map .percentiles
  | .stats => (statisticsOf name body).map .stats
  | .firstBy => (hitSources name body).map .topHits
  | .distinct => termsOf name (fun bucket => (levelMembers bucket).map fun _ => []) body

/-- The answer to a measure, inside its filter if it has one. -/
def ofMeasureRequest (request : MeasureRequest) (body : Json) : Except Failure Outcome :=
  match request.scope with
  | none => ofMeasure request.measure request.name body
  | some scope => do
    let docCount ← docCount scope.name body
    match body.member? request.name with
    | none => return .filter docCount []
    | some inner =>
      let outcome ← ofMeasure request.measure request.name inner
      return .filter docCount [(request.name, outcome)]

mutual

/-- The answer to a request. -/
def ofRequest : Request → Json → Except Failure Outcome
  | .group name _ _ inner, body =>
    termsOf name (fun bucket => do collect inner (← levelMembers bucket) []) body
  | .measure request, body => ofMeasureRequest request body

/-- The answers to some requests among the members of a level, written over those found before. -/
def collect : List Request → Dict Json → Outcomes → Except Failure Outcomes
  | [], _, found => .ok found
  | request :: rest, members, found =>
    match Dict.find? request.outerName members with
    | none => collect rest members found
    | some body => do
      let outcome ← ofRequest request body
      collect rest members (Dict.insert request.outerName outcome found)

end

/-- The answers to some requests in the object of a level. -/
def ofLevel (requests : List Request) (body : Json) : Except Failure Outcomes := do
  collect requests (← levelMembers body) []

/-- The answers to some requests in a whole response, none if it has no aggregations. -/
def ofResponse (requests : List Request) (body : Json) : Except Failure Outcomes :=
  match body.member? "aggregations" with
  | some level => ofLevel requests level
  | none => .ok []

end Outcome

end FacetQuery
