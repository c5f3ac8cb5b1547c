/-
**Searches and sessions.**

A search restricts documents by a predicate, asks for facets, and may say how many documents it
wants to see. Each further predicate is joined to those before it, and each further level of facets
is put behind.

A session has settings and may be watched. It turns searches into the bodies of requests and the
backend's responses into answers, and reports one event for each step that succeeds.
-/

import FacetQuery.Facet.OfFacets
import FacetQuery.Facet.Render
import FacetQuery.Outcome.OfResponse
import FacetQuery.Trace.Basic

namespace FacetQuery

/-! ### Searches -/

/-- What is searched for. -/
structure Search where
  filter : Option Predicate := none
  facets : List Facet := []
  size : Option UInt32 := none

namespace Search

variable {t : ValueType}

/-- Restrict the documents further. -/
def restrict (search : Search) (predicate : Predicate) : Search :=
  { search with filter := some (search.filter.elim predicate fun current => current.and predicate) }

/-- Restrict the documents to those whose field has one of some values. -/
def restrictWithin (search : Search) (field : Field t) (values : List t.Carrier) : Search :=
  search.restrict (field.within values)

/-- Ask for more facets. -/
def request (search : Search) (facets : List Facet) : Search :=
  { search with facets := Facets.merge search.facets facets }

/-- Say how many documents to see. -/
def limit (search : Search) (size : UInt32) : Search := { search with size := some size }

end Search

/-! ### Sessions -/

/-- Settings, and whether someone watches. -/
structure Session where
  settings : Settings := {}
  watching : Bool := false

namespace Session

/-- The clause of a predicate. -/
def compile (session : Session) (predicate : Predicate) : Watched Clause := do
  let clause ← .lift (Clause.ofPredicate predicate)
  .emit session.watching
    (.filterCompiled clause.fingerprint (Event.capped clause.leaves) (Event.capped clause.depth))
  return clause

/-- The requests of facets. -/
def lower (session : Session) (facets : List Facet) : Watched (List Request) := do
  let requests ← .lift (Request.ofFacets session.settings facets)
  .emit session.watching (.facetsLowered (Event.capped (Request.sizeOfAll requests)))
  return requests

/-- The query of a search, if it has a predicate. -/
def queryMembers (session : Session) : Option Predicate → Watched (List (String × Json))
  | none => return []
  | some predicate => do
    let clause ← session.compile predicate
    return [("query", .single "bool" (.single "filter" (.array [clause.json])))]

/-- The aggregations of a search, if it has facets. -/
def facetMembers (session : Session) : List Facet → Watched (List (String × Json))
  | [] => return []
  | facets => do
    let requests ← session.lower facets
    return [("aggs", Request.level requests)]

/-- The size of a search, if it has one. -/
def sizeMembers : Option UInt32 → List (String × Json)
  | none => []
  | some size => [("size", .ofInt size.toNat)]

/-- The body of the request for a search. -/
def body (session : Session) (search : Search) : Watched Json := do
  let query ← session.queryMembers search.filter
  let facets ← session.facetMembers search.facets
  return .record (query ++ facets ++ sizeMembers search.size)

/-- The answers to facets that `read` takes from what the backend sent. -/
def decode (session : Session) (facets : List Facet)
    (read : List Request → Except Failure Outcomes) : Watched Outcomes := do
  let requests ← session.lower facets
  let outcomes ← .lift (read requests)
  .emit session.watching (.decoded (Event.capped outcomes.length))
  return outcomes

/-- The answers to a search in a whole response. -/
def decodeResponse (session : Session) (search : Search) (response : Json) : Watched Outcomes :=
  session.decode search.facets fun requests => Outcome.ofResponse requests response

/-- The answers to facets in the object of a response that holds aggregations. -/
def decodeLevel (session : Session) (facets : List Facet) (level : Json) : Watched Outcomes :=
  session.decode facets fun requests => Outcome.ofLevel requests level

end Session

end FacetQuery
