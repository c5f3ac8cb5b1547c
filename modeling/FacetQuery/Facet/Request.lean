/-
**Named aggregations.**

A `Request` is a facet made ready for the backend: its name derived, its filter compiled, its size
chosen. A measure with a filter stands inside an aggregation of its own, under the name of its
scope, so that is the name by which its level knows it (`Request.outerName`).
-/

import FacetQuery.Clause.Basic
import FacetQuery.Facet.Basic

namespace FacetQuery

/-- The filter around a measure. -/
structure Scope where
  name : String
  clause : Clause

/-- A measure made ready. -/
structure MeasureRequest where
  name : String
  measure : Measure
  field : String
  scope : Option Scope
  percents : List Double
  size : Option UInt32
  order : Option (String × SortOrder)

/-- The name by which its level knows a measure. -/
def MeasureRequest.outerName (request : MeasureRequest) : String :=
  request.scope.elim request.name Scope.name

/-- An aggregation made ready. -/
inductive Request where
  | group (name field : String) (size : UInt32) (inner : List Request)
  | measure (request : MeasureRequest)

namespace Request

/-- The name by which its level knows a request. -/
def outerName : Request → String
  | .group name _ _ _ => name
  | .measure request => request.outerName

mutual

/-- The number of aggregations in a request, itself among them. -/
def size : Request → Nat
  | .group _ _ _ inner => 1 + sizeOfAll inner
  | .measure _ => 1

/-- The number of aggregations in some requests. -/
def sizeOfAll : List Request → Nat
  | [] => 0
  | request :: rest => size request + sizeOfAll rest

end

/-! ### Clashes of names -/

mutual

/-- The first name in a request that a grouping repeats from around it, or that a level inside
repeats. -/
def clash? (around : List String) : Request → Option String
  | .group name _ _ inner =>
    if name ∈ around then some name else clashOfAll? (name :: around) [] inner
  | .measure _ => none

/-- The first name in some requests that repeats one of `seen`, one before it, or one around it. -/
def clashOfAll? (around seen : List String) : List Request → Option String
  | [] => none
  | request :: rest =>
    if request.outerName ∈ seen then some request.outerName
    else (clash? around request).or (clashOfAll? around (request.outerName :: seen) rest)

end

/-- Refuse requests in which a name could not be told apart. -/
def checkNames (requests : List Request) : Except Failure Unit :=
  match clashOfAll? [] [] requests with
  | some name => .error (.ambiguous name)
  | none => .ok ()

end Request

end FacetQuery
