/-
**What a body asks for.**

A body asks for the aggregations under its `aggs`, and each of these for those under its own. When
facets are accepted none of their requests is lost in writing, so what a level asks for at any depth
is what its requests are written as.

* `Json.Asks` — **the aggregations of a document**, found by entering `aggs` again and again.
* `Facet.Among`, `Request.Among` — **the facets and the requests of a level**, those of the levels
  inside with them.
* `Request.Among.facet`, `Request.exists_among` — the requests of a level are those of its facets.
* `Request.asks_level` — **a level asks for what its requests are written as.**
-/

import FacetQuery.Proofs.NameTrees

namespace FacetQuery

/-! ### Aggregations of a document -/

namespace Json

/-- **The aggregations of a document**: the members of what stands under its `aggs`, and the
aggregations of each of these. -/
inductive Asks : Json → Json → Prop
  | here {document : Json} {members : Dict Json} {pair : String × Json} :
      document.member? "aggs" = some (.object members) → pair ∈ members → Asks document pair.2
  | inside {document aggregation : Json} {members : Dict Json} {pair : String × Json} :
      document.member? "aggs" = some (.object members) → pair ∈ members → Asks pair.2 aggregation →
      Asks document aggregation

variable {document outer aggregation : Json}

theorem Asks.trans (above : document.Asks outer) (below : outer.Asks aggregation) :
    document.Asks aggregation := by
  induction above with
  | here level member => exact .inside level member below
  | inside level member _ later => exact .inside level member (later below)

/-- A document without `aggs` asks for nothing. -/
theorem not_asks (absent : document.member? "aggs" = none) : ¬ document.Asks aggregation := by
  rintro (⟨level, _⟩ | ⟨level, _, _⟩)
  · exact nomatch absent.symm.trans level
  · exact nomatch absent.symm.trans level

end Json

/-! ### Facets and requests at every depth -/

/-- **A facet of a level**, or of a level inside. -/
def Facet.Among (facets : List Facet) (facet : Facet) : Prop :=
  ∃ around level, Level [] facets around level ∧ facet ∈ level

/-- **A request of a level**, or of a level inside. -/
def Request.Among (requests : List Request) (request : Request) : Prop :=
  ∃ level, (level = requests ∨ Nested requests level) ∧ request ∈ level

namespace Request

variable {requests level inner : List Request} {request : Request} {name field : String}
  {size : UInt32}

/-- What stands inside a grouping of a level stands inside one. -/
theorem Nested.of_group (within : level = requests ∨ Nested requests level)
    (member : .group name field size inner ∈ level) : Nested requests inner := by
  rcases within with rfl | nested
  · exact .inside member
  · exact .deeper nested member

/-- What stands inside a request of a level is among those of the level. -/
theorem Among.inside (outer : Among requests (.group name field size inner))
    (member : request ∈ inner) : Among requests request := by
  obtain ⟨level, within, there⟩ := outer
  exact ⟨inner, .inr (.of_group within there), member⟩

/-- **What holds of the requests of a level**, and with a grouping of all inside it, holds at every
depth. -/
theorem Among.induction {P : Request → Prop} (here : ∀ request ∈ requests, P request)
    (inside : ∀ {name field : String} {size : UInt32} {inner : List Request},
      Among requests (.group name field size inner) → P (.group name field size inner) →
      ∀ request ∈ inner, P request)
    (among : Among requests request) : P request := by
  obtain ⟨level, rfl | nested, member⟩ := among
  · exact here request member
  · induction nested generalizing request with
    | inside outer => exact inside ⟨_, .inl rfl, outer⟩ (here _ outer) request member
    | deeper nested outer above => exact inside ⟨_, .inr nested, outer⟩ (above outer) request member

/-- What is among the requests inside a grouping is among those that it is one of. -/
theorem Among.of_group (member : .group name field size inner ∈ requests)
    (below : Among inner request) : Among requests request :=
  below.induction (fun _ there => .inside ⟨requests, .inl rfl, member⟩ there)
    fun _ above _ there => above.inside there

end Request

namespace Facet.Accepted

variable {settings : Settings} {around deeper : List String} {facets inside : List Facet}
  {requests level inner : List Request}

/-- The levels of some requests are those of their facets. -/
theorem level_of_within (accepted : Accepted settings around facets requests)
    (within : level = requests ∨ Request.Nested requests level) :
    ∃ deeper inside, Level around facets deeper inside ∧ Accepted settings deeper inside level := by
  rcases within with rfl | nested
  · exact ⟨around, facets, .here, accepted⟩
  · obtain ⟨name, deeper, inside, below, acceptedInside⟩ := accepted.level_of_nested nested
    exact ⟨name :: deeper, inside, below, acceptedInside⟩

/-- The levels of some facets have become levels of their requests. -/
theorem within_of_level (accepted : Accepted settings around facets requests)
    (below : Level around facets deeper inside) :
    ∃ level, (level = requests ∨ Request.Nested requests level) ∧
      Accepted settings deeper inside level := by
  induction below with
  | here => exact ⟨requests, .inl rfl, accepted⟩
  | inside _ asked above =>
    obtain ⟨outer, within, acceptedOutside⟩ := above
    obtain ⟨request, member, resolved⟩ := acceptedOutside.request asked
    obtain ⟨level, rfl, acceptedInside⟩ := acceptedOutside.of_ofFacet member resolved
    exact ⟨level, .inr (.of_group within member), acceptedInside⟩

/-- The names inside a grouping at any depth can be told apart. -/
theorem nodup_of_among (accepted : Accepted settings around facets requests) {name field : String}
    {size : UInt32} (among : Request.Among requests (.group name field size inner)) :
    (inner.map Request.outerName).Nodup := by
  obtain ⟨level, within, member⟩ := among
  obtain ⟨_, _, _, acceptedInside⟩ := accepted.level_of_within (.inr (.of_group within member))
  exact acceptedInside.nodup

end Facet.Accepted

namespace Request

variable {requests inner : List Request} {request : Request} {settings : Settings}
  {facets : List Facet}
  {around : List String}

/-- Every request of a level is that of a facet. -/
theorem Among.facet (accepted : Facet.Accepted settings [] facets requests)
    (among : Among requests request) :
    ∃ facet, Facet.Among facets facet ∧ ofFacet settings facet = .ok request := by
  obtain ⟨level, within, member⟩ := among
  obtain ⟨deeper, inside, below, acceptedInside⟩ := accepted.level_of_within within
  obtain ⟨facet, asked, made⟩ := acceptedInside.facet member
  exact ⟨facet, ⟨deeper, inside, below, asked⟩, made⟩

/-- Every facet of a level has its request. -/
theorem exists_among (accepted : Facet.Accepted settings [] facets requests) {facet : Facet}
    (asked : Facet.Among facets facet) :
    ∃ request, Among requests request ∧ ofFacet settings facet = .ok request := by
  obtain ⟨deeper, inside, below, there⟩ := asked
  obtain ⟨level, within, acceptedInside⟩ := accepted.within_of_level below
  obtain ⟨request, member, made⟩ := acceptedInside.request there
  exact ⟨request, ⟨level, within, member⟩, made⟩

/-! ### Written requests -/

/-- **The aggregations that a request by itself is written as**: one, and inside the filter of a
measure another, the measure alone. -/
def written : Request → List Json
  | .group name field size inner => [json (.group name field size inner)]
  | .measure request => request.json :: request.scope.toList.map fun _ => request.body

theorem json_mem_written (request : Request) : request.json ∈ request.written := by
  cases request with
  | group name field size inner => exact List.mem_singleton_self _
  | measure request =>
    rw [json]
    exact List.mem_cons_self

/-- What a measure with a filter asks for is the measure alone. -/
theorem asks_measure {request : MeasureRequest} {aggregation : Json} :
    (json (.measure request)).Asks aggregation ↔
      ∃ scope, request.scope = some scope ∧ aggregation = request.body := by
  have below : (json (.measure request)).member? "aggs" =
      request.scope.map fun _ => Json.single request.name request.body := member?_aggs_json _
  constructor
  · intro asked
    cases filtered : request.scope with
    | none =>
      rw [filtered] at below
      exact (Json.not_asks below asked).elim
    | some scope =>
      rw [filtered] at below
      refine ⟨scope, rfl, ?_⟩
      cases asked with
      | here level member =>
        cases below.symm.trans level
        obtain rfl := List.mem_singleton.mp member
        rfl
      | inside level member asked =>
        cases below.symm.trans level
        obtain rfl := List.mem_singleton.mp member
        exact (Json.not_asks (member?_aggs_body request) asked).elim
  · rintro ⟨scope, filtered, rfl⟩
    rw [filtered] at below
    exact .here below (List.mem_singleton_self (request.name, request.body))

/-- A level is under the `aggs` of a grouping if there is anything in it. -/
theorem member?_aggs_group (name field : String) (size : UInt32) (nonempty : inner ≠ []) :
    (json (.group name field size inner)).member? "aggs" = some (level inner) := by
  rw [member?_aggs_json, aggs?, if_neg (mt List.isEmpty_iff.mp nonempty)]

variable {document aggregation : Json}

/-- A level asks for its own requests. -/
theorem asks_of_mem (distinct : (requests.map outerName).Nodup)
    (there : document.member? "aggs" = some (level requests)) (member : request ∈ requests) :
    document.Asks request.json := by
  obtain ⟨members, object, order⟩ := level_eq_object distinct
  have pair : (request.outerName, request.json) ∈ members :=
    order.mem_iff.mpr (List.mem_map_of_mem member)
  exact .here (there.trans (congrArg some object)) pair

/-- Every request of a level is asked for. -/
theorem Among.asks (accepted : Facet.Accepted settings around facets requests)
    (there : document.member? "aggs" = some (level requests)) (among : Among requests request) :
    document.Asks request.json := by
  refine among.induction (fun request member => asks_of_mem accepted.nodup there member) ?_
  intro name field size inner outer above request member
  have below := member?_aggs_group name field size (List.ne_nil_of_mem member)
  exact above.trans (asks_of_mem (accepted.nodup_of_among outer) below member)

/-- **A level asks for what its requests are written as**, at every depth, and for nothing else. -/
theorem asks_level (accepted : Facet.Accepted settings around facets requests)
    (there : document.member? "aggs" = some (level requests)) :
    document.Asks aggregation ↔
      ∃ request, Among requests request ∧ aggregation ∈ request.written := by
  constructor
  · intro asked
    induction asked generalizing requests facets around with
    | here object member =>
      obtain ⟨members, same, order⟩ := level_eq_object accepted.nodup
      cases (there.symm.trans object).symm.trans (congrArg some same)
      obtain ⟨request, asked, rfl⟩ := List.mem_map.mp (order.mem_iff.mp member)
      exact ⟨request, ⟨requests, .inl rfl, asked⟩, request.json_mem_written⟩
    | inside object member asked later =>
      obtain ⟨members, same, order⟩ := level_eq_object accepted.nodup
      cases (there.symm.trans object).symm.trans (congrArg some same)
      obtain ⟨request, here, rfl⟩ := List.mem_map.mp (order.mem_iff.mp member)
      -- What is asked for further inside is a filter's measure, or in the level of a grouping.
      cases request with
      | measure request =>
        obtain ⟨scope, filtered, rfl⟩ := asks_measure.mp asked
        refine ⟨_, ⟨requests, .inl rfl, here⟩, List.mem_cons_of_mem _ ?_⟩
        exact List.mem_map.mpr ⟨scope, Option.mem_toList.mpr filtered, rfl⟩
      | group name field size inner =>
        by_cases empty : inner = []
        · subst empty
          exact (Json.not_asks (member?_aggs_json _) asked).elim
        · obtain ⟨_, _, _, acceptedInside⟩ := accepted.of_group here
          obtain ⟨request, among, written⟩ :=
            later acceptedInside (member?_aggs_group name field size empty)
          exact ⟨request, .of_group here among, written⟩
  · rintro ⟨request, among, member⟩
    have itself := among.asks accepted there
    cases request with
    | group name field size inner =>
      obtain rfl := List.mem_singleton.mp member
      exact itself
    | measure request =>
      rcases List.mem_cons.mp member with rfl | member
      · exact itself
      · obtain ⟨scope, filtered, rfl⟩ := List.mem_map.mp member
        exact itself.trans (asks_measure.mpr ⟨scope, Option.mem_toList.mp filtered, rfl⟩)

end Request

end FacetQuery
