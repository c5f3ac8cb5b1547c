/-
**Requests in the backend's JSON.**

A level is an object of aggregations under their outer names. A grouping asks for terms and holds
its own level under `aggs`; a measure with a filter is put, under its own name, into the `aggs` of
that filter.
-/

import FacetQuery.Clause.Render
import FacetQuery.Facet.Request

namespace FacetQuery

/-- What a measure asks the backend for. -/
def MeasureRequest.body (request : MeasureRequest) : Json :=
  let field := ("field", Json.string request.field)
  match request.measure with
  | .sum => .single "sum" (.record [field])
  | .average => .single "avg" (.record [field])
  | .min => .single "min" (.record [field])
  | .max => .single "max" (.record [field])
  | .count => .single "value_count" (.record [field])
  | .cardinality => .single "cardinality" (.record [field])
  | .stats => .single "extended_stats" (.record [field])
  | .percentiles =>
    .single "percentiles" <| .record <| field ::
      if request.percents.isEmpty then []
      else [("percents", .array (request.percents.map Json.ofDouble))]
  | .distinct =>
    .single "terms" <| .record <| field ::
      request.size.elim [] fun size => [("size", .ofInt size.toNat)]
  | .firstBy =>
    .single "top_hits" <| .record <|
      [("size", .ofInt 1), ("_source", .single "includes" (.array [.string request.field]))] ++
      request.order.elim [] fun (path, order) =>
        [("sort", .array [.single path (.single "order" (.string order.label))])]

/-- The aggregation of a measure, its filter around it. -/
def MeasureRequest.json (request : MeasureRequest) : Json :=
  match request.scope with
  | none => request.body
  | some scope =>
    .record [("filter", scope.clause.json), ("aggs", .single request.name request.body)]

namespace Request

/-- The terms of a grouping. -/
def terms (field : String) (size : UInt32) : String × Json :=
  ("terms", .record [("field", .string field), ("size", .ofInt size.toNat)])

mutual

/-- The aggregation of a request. -/
def json : Request → Json
  | .group _ field size [] => .record [terms field size]
  | .group _ field size (first :: rest) =>
    .record [terms field size, ("aggs", .record (members (first :: rest)))]
  | .measure request => request.json

/-- The members of a level. -/
def members : List Request → List (String × Json)
  | [] => []
  | request :: rest => (request.outerName, json request) :: members rest

end

/-- The aggregations of a level. -/
def level (requests : List Request) : Json := .record (members requests)

theorem members_eq (requests : List Request) :
    members requests = requests.map fun request => (request.outerName, request.json) := by
  induction requests with
  | nil => simp [members]
  | cons request rest later => simp [members, later]

end Request

end FacetQuery
