/-
**Answers as documents.**

A level of answers is stored as an object from names to answers, and an answer as an object of one
member, named for its shape. What is absent is stored as null, except for a raw key, which is left
out.

Reading takes back what writing produces and is wider in three points: members it does not know are
left out of account; numbers that may be absent, raw keys and inner levels may be missing; a
floating number may be written as an integer. `level?` refuses everything else.
-/

import FacetQuery.Outcome.Basic

namespace FacetQuery.Outcome

/-! ### Writing -/

/-- A number that may be absent. -/
def numberJson (value : Option Double) : Json := Json.ofOption Json.ofDouble value

/-- The value at one percent. -/
def percentileJson (item : PercentileValue) : Json :=
  .record [("percent", .ofDouble item.percent), ("value", numberJson item.value)]

/-- Statistics. -/
def statisticsJson (s : Statistics) : Json :=
  .record [
    ("count", .ofUnsigned s.count),
    ("min", numberJson s.min),
    ("max", numberJson s.max),
    ("avg", numberJson s.avg),
    ("sum", .ofDouble s.sum),
    ("sum_of_squares", numberJson s.sumOfSquares),
    ("variance", numberJson s.variance),
    ("std_deviation", numberJson s.stdDeviation)]

/-- An answer under the name of its shape. -/
def tagged (tag : String) (body : Json) : Json := .record [(tag, body)]

mutual

/-- An answer. -/
def json : Outcome → Json
  | .metric value => tagged "metric" (numberJson value)
  | .valueCount count => tagged "value_count" (.ofUnsigned count)
  | .cardinality count => tagged "cardinality" (.ofUnsigned count)
  | .percentiles items => tagged "percentiles" (.array (items.map percentileJson))
  | .stats statistics => tagged "stats" (statisticsJson statistics)
  | .topHits sources => tagged "top_hits" (.array sources)
  | .terms buckets => tagged "terms" (.array (bucketJsons buckets))
  | .filter docCount outcomes =>
    tagged "filter" (.record
      [("doc_count", .ofUnsigned docCount), ("aggregations", .record (memberJsons outcomes))])

/-- A bucket. -/
def bucketJson : Bucket Outcome → Json
  | ⟨key, rawKey, docCount, outcomes⟩ =>
    .record <|
      [("key", .string key), ("doc_count", .ofUnsigned docCount),
        ("aggregations", .record (memberJsons outcomes))] ++
      rawKey.elim [] fun raw => [("raw_key", .string raw)]

/-- The buckets of terms. -/
def bucketJsons : List (Bucket Outcome) → List Json
  | [] => []
  | bucket :: rest => bucketJson bucket :: bucketJsons rest

/-- The members of a level. -/
def memberJsons : List (String × Outcome) → List (String × Json)
  | [] => []
  | (name, outcome) :: rest => (name, json outcome) :: memberJsons rest

end

/-- A level of answers. -/
def levelJson (outcomes : Outcomes) : Json := .record (memberJsons outcomes)

/-! ### Reading -/

/-- A number that may be absent or missing. -/
def numberAt? (name : String) (members : Dict Json) : Option (Option Double) :=
  match Dict.find? name members with
  | none => some none
  | some value => if value.isNull then some none else value.double?.map some

/-- A count that has to be there. -/
def countAt? (name : String) (members : Dict Json) : Option UInt64 :=
  (Dict.find? name members).bind Json.unsigned?

/-- The value at one percent. -/
def percentile? (body : Json) : Option PercentileValue := do
  let members ← body.members?
  let percent ← (Dict.find? "percent" members).bind Json.double?
  let value ← numberAt? "value" members
  return ⟨percent, value⟩

/-- Statistics. -/
def statistics? (body : Json) : Option Statistics := do
  let members ← body.members?
  let count ← countAt? "count" members
  let min ← numberAt? "min" members
  let max ← numberAt? "max" members
  let avg ← numberAt? "avg" members
  let sum ← (Dict.find? "sum" members).bind Json.double?
  let sumOfSquares ← numberAt? "sum_of_squares" members
  let variance ← numberAt? "variance" members
  let stdDeviation ← numberAt? "std_deviation" members
  return ⟨count, min, max, avg, sum, sumOfSquares, variance, stdDeviation⟩

/-- An answer that holds no other answers, by the name of its shape. -/
def plain? (tag : String) (body : Json) : Option Outcome :=
  match tag with
  | "metric" =>
    if body.isNull then some (.metric none) else body.double?.map fun x => .metric (some x)
  | "value_count" => body.unsigned?.map .valueCount
  | "cardinality" => body.unsigned?.map .cardinality
  | "percentiles" => (body.items?.bind fun items => items.mapM percentile?).map .percentiles
  | "stats" => (statistics? body).map .stats
  | "top_hits" => body.items?.map .topHits
  | _ => none

/-- The key, raw key and count of a bucket. -/
def bucketHead? (members : Dict Json) : Option (String × Option String × UInt64) := do
  let key ← (Dict.find? "key" members).bind Json.string?
  let raw ← match Dict.find? "raw_key" members with
    | none => some none
    | some value => if value.isNull then some none else value.string?.map some
  let docCount ← countAt? "doc_count" members
  return (key, raw, docCount)

mutual

/-- A level of answers. -/
def level? : Json → Option Outcomes
  | .object members => outcomes? members
  | _ => none

/-- The answers of the members of a level. -/
def outcomes? : List (String × Json) → Option (List (String × Outcome))
  | [] => some []
  | (name, value) :: rest => do
    let outcome ← outcome? value
    let later ← outcomes? rest
    return (name, outcome) :: later

/-- An answer. -/
def outcome? : Json → Option Outcome
  | .object [(tag, body)] => shaped? tag body
  | _ => none

/-- An answer by the name of its shape. -/
def shaped? (tag : String) : Json → Option Outcome
  | .array items => if tag = "terms" then (buckets? items).map .terms else plain? tag (.array items)
  | .object members =>
    if tag = "filter" then do
      let docCount ← countAt? "doc_count" members
      let outcomes ← inner? members
      return .filter docCount outcomes
    else plain? tag (.object members)
  | body => plain? tag body

/-- The buckets of terms. -/
def buckets? : List Json → Option (List (Bucket Outcome))
  | [] => some []
  | .object members :: rest => do
    let (key, raw, docCount) ← bucketHead? members
    let outcomes ← inner? members
    let later ← buckets? rest
    return ⟨key, raw, docCount, outcomes⟩ :: later
  | _ :: _ => none

/-- The level inside a bucket or a filter, empty when it is missing. -/
def inner? : List (String × Json) → Option Outcomes
  | [] => some []
  | (name, value) :: rest => if name = "aggregations" then level? value else inner? rest

end

end FacetQuery.Outcome
