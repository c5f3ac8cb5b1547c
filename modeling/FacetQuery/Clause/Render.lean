/-
**Clauses in the backend's JSON.**

A test of equality is a `term`, a membership is `terms`, a bound is a `range`, and an inequality is
the negation of a `term`. Connectives are the lists of a `bool` query: all of `must`, at least one
of `should`, none of `must_not`.
-/

import FacetQuery.Clause.Basic

namespace FacetQuery

/-- The object of one member. -/
def Json.single (name : String) (value : Json) : Json := .record [(name, value)]

/-- The query of a test. -/
def Test.json (test : Test) : Json :=
  let value := test.operand.json
  match test.relation with
  | .eq => .single "term" (.single test.field value)
  | .neq => .single "bool" (.single "must_not" (.array [.single "term" (.single test.field value)]))
  | .within => .single "terms" (.single test.field value)
  | relation => .single "range" (.single test.field (.single (relation.bound?.getD "gte") value))

/-- The query of a connective and the queries of its parts. -/
def Connective.json (connective : Connective) (parts : List Json) : Json :=
  .single "bool" <| match connective with
    | .and => .single "must" (.array parts)
    | .or => .record [("should", .array parts), ("minimum_should_match", .ofInt 1)]
    | .not => .single "must_not" (.array parts)

namespace Clause

mutual

/-- The query of a clause. -/
def json : Clause → Json
  | .test leaf => leaf.json
  | .joined connective parts => connective.json (jsons parts)

/-- The queries of some clauses. -/
def jsons : List Clause → List Json
  | [] => []
  | part :: rest => json part :: jsons rest

end

theorem jsons_eq (parts : List Clause) : jsons parts = parts.map json := by
  induction parts with
  | nil => simp [jsons]
  | cons part rest later => simp [jsons, later]

end Clause

end FacetQuery
