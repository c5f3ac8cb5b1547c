/-
**Levels of facets.**

A grouping has facets inside, so some facets have levels at every depth. Each level has the names
that its facets have there, and what is accepted as a whole is accepted inside each of its groupings
again.

* `Facet.outerName` — **the name of a facet at its level**, as its request has it.
* `Facet.Level` — **the levels of some facets**, each with the names of the groupings around it.
* `Facet.Accepted` — facets that become requests whose names can be told apart.
* `Facet.Accepted.of_ofFacet` — **what stands inside an accepted grouping is accepted.**
-/

import FacetQuery.Proofs.DistinctNames

namespace FacetQuery

/-! ### Names -/

namespace MeasureSpec

/-- The clause of the filter of a measure, if there is a filter and it compiles. -/
def clause? (spec : MeasureSpec) : Option Clause :=
  spec.filter.bind fun predicate => (Clause.ofPredicate predicate).toOption

theorem clause?_of_mapM {spec : MeasureSpec} {clause : Option Clause}
    (compiled : spec.filter.mapM Clause.ofPredicate = .ok clause) : spec.clause? = clause := by
  unfold clause?
  cases filter : spec.filter with
  | none =>
    rw [filter, mapM_none, Except.ok.injEq] at compiled
    exact compiled
  | some predicate =>
    rw [filter, mapM_some_eq_ok] at compiled
    obtain ⟨clause, compiled, rfl⟩ := compiled
    rw [Option.bind_some, compiled]
    rfl

end MeasureSpec

namespace Facet

/-- The name by which its level knows a facet. -/
def outerName : Facet → String
  | .group target _ => target.name
  | .measure spec => FacetName.outer spec.name spec.clause?

/-- Whether a facet is a grouping. -/
def isGroup : Facet → Bool
  | .group _ _ => true
  | .measure _ => false

variable {settings : Settings}

/-- A request stands at its level under the name of its facet. -/
theorem outerName_of_ofFacet {facet : Facet} {request : Request}
    (resolved : Request.ofFacet settings facet = .ok request) :
    request.outerName = facet.outerName := by
  cases facet with
  | group target inner =>
    obtain ⟨_, requests, _, rfl⟩ := Request.ofFacet_group_eq_ok.mp resolved
    rfl
  | measure spec =>
    obtain ⟨made, specResolved, rfl⟩ := Request.ofFacet_measure_eq_ok.mp resolved
    obtain ⟨_, clause, order, compiled, _, rfl⟩ := MeasureSpec.resolve_eq_ok.mp specResolved
    rw [Request.outerName, MeasureSpec.made_outerName, outerName,
      MeasureSpec.clause?_of_mapM compiled]

/-- Requests stand at their level under the names of their facets. -/
theorem outerNames_of_ofEach {facets : List Facet} {requests : List Request}
    (resolved : Request.ofEach settings facets = .ok requests) :
    requests.map Request.outerName = facets.map outerName := by
  induction Request.ofEach_eq_ok.mp resolved with
  | nil => rfl
  | cons head tail later =>
    rw [List.map_cons, List.map_cons, outerName_of_ofFacet head,
      later (Request.ofEach_eq_ok.mpr tail)]

/-! ### Levels -/

/-- **The levels of some facets**, themselves among them: what stands inside a grouping of a level
is a level, with that grouping's name before the names around it. -/
inductive Level (around : List String) (facets : List Facet) : List String → List Facet → Prop
  | here : Level around facets around facets
  | inside {deeper : List String} {level inner : List Facet} {target : GroupTarget} :
      Level around facets deeper level → .group target inner ∈ level →
      Level around facets (target.name :: deeper) inner

/-- The levels inside a grouping are levels of the facets that it is one of. -/
theorem Level.of_group {around deeper : List String} {facets inner level : List Facet}
    {target : GroupTarget} (member : .group target inner ∈ facets)
    (below : Level (target.name :: around) inner deeper level) :
    Level around facets deeper level := by
  induction below with
  | here => exact .inside .here member
  | inside _ asked above => exact .inside above asked

/-! ### Accepted levels -/

/-- **Facets that are accepted** inside some groupings, and their requests. -/
structure Accepted (settings : Settings) (around : List String) (facets : List Facet)
    (requests : List Request) : Prop where
  resolved : Request.ofEach settings facets = .ok requests
  apart : Request.clashOfAll? around [] requests = none

/-- What becomes requests as a whole is accepted inside no grouping. -/
theorem accepted_iff {facets : List Facet} {requests : List Request} :
    Accepted settings [] facets requests ↔ Request.ofFacets settings facets = .ok requests := by
  rw [Request.ofFacets_eq_ok]
  exact ⟨fun accepted => ⟨accepted.resolved, accepted.apart⟩,
    fun ⟨resolved, apart⟩ => ⟨resolved, apart⟩⟩

namespace Accepted

variable {around : List String} {facets : List Facet} {requests : List Request}

theorem nodup (accepted : Accepted settings around facets requests) :
    (requests.map Request.outerName).Nodup :=
  (Request.clashOfAll?_eq_none.mp accepted.apart).1

/-- Every facet has its request. -/
theorem request (accepted : Accepted settings around facets requests) {facet : Facet}
    (member : facet ∈ facets) :
    ∃ request ∈ requests, Request.ofFacet settings facet = .ok request :=
  exists_of_mem_left (Request.ofEach_eq_ok.mp accepted.resolved) member

/-- Every request has its facet. -/
theorem facet (accepted : Accepted settings around facets requests) {request : Request}
    (member : request ∈ requests) :
    ∃ facet ∈ facets, Request.ofFacet settings facet = .ok request :=
  exists_of_mem_right (Request.ofEach_eq_ok.mp accepted.resolved) member

/-- **What stands inside an accepted grouping is accepted**, with the grouping's name before the
others. -/
theorem of_ofFacet (accepted : Accepted settings around facets requests) {target : GroupTarget}
    {inner : List Facet} {request : Request} (member : request ∈ requests)
    (resolved : Request.ofFacet settings (.group target inner) = .ok request) :
    ∃ made, request = .group target.name target.path settings.maxBuckets made ∧
      Accepted settings (target.name :: around) inner made := by
  obtain ⟨_, made, each, rfl⟩ := Request.ofFacet_group_eq_ok.mp resolved
  have passed := (Request.clashOfAll?_eq_none.mp accepted.apart).2 _ member
  obtain ⟨_, apart⟩ := Request.clash?_group_eq_none.mp passed.2
  exact ⟨made, rfl, each, apart⟩

end Accepted

/-- The sum of prices. -/
def priceSum : Facet := .measure { measure := .sum, field := ⟨"price", .int, true⟩ }

end Facet

end FacetQuery
