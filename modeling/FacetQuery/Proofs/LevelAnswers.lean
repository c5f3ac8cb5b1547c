/-
**What a level of a response answers.**

`Outcome.collect` goes through the requests of a level and writes each answer over those found
before. If the names of the requests are distinct then nothing is overwritten, so every answer can
be looked up again.

* `Request.inside_induction` — what holds of measures, and of a grouping if of all inside it, holds
  of requests.
* `collect_cons_eq_ok` — what one request adds to the answers.
* `collect_of_not_mem` — **what is not requested is left alone**.
* `collect_find?` — **what is requested** is answered by the member of its name, and by nothing
  else.
* `find?_of_ofLevel` — the same for a whole level.
* `terms_of_termsOf` — the answers inside buckets are those to the items of the response, one by
  one.
* `ofMeasureRequest_eq_ok` — what a measure in a filter is answered by.
-/

import FacetQuery.Outcome.OfResponse
import FacetQuery.Proofs.Steps
import Mathlib.Data.List.Nodup

namespace FacetQuery

/-- **From the inside out**: what holds of every measure, and of a grouping if it holds of all
requests inside, holds of every request. -/
@[elab_as_elim]
theorem Request.inside_induction {motive : Request → Prop}
    (measure : ∀ request, motive (.measure request))
    (group : ∀ name field size inner, (∀ request ∈ inner, motive request) →
      motive (.group name field size inner)) (request : Request) : motive request := by
  cases request with
  | measure request => exact measure request
  | group name field size inner =>
    exact group name field size inner fun other _ => inside_induction measure group other
termination_by sizeOf request

/-- The members of a document are those of its dictionary. -/
theorem Json.member?_of_members? {document : Json} {members : Dict Json}
    (object : document.members? = some members) (name : String) :
    document.member? name = Dict.find? name members := by
  rw [member?, object, Option.bind_some]

/-- An answer that was asked for is there, with its value. -/
theorem Outcome.require_eq_ok {α : Type} {name : String} {reason : Malformation} {value : Option α}
    {result : α} : require name reason value = .ok result ↔ value = some result := by
  cases value with
  | none => simp [require]
  | some value => simp [require]

namespace Outcome

/-! ### Levels -/

section Levels

variable {requests : List Request} {members : Dict Json} {found outcomes : Outcomes}

/-- **One request of a level**: without a member of its name nothing changes, else its answer is
written. -/
theorem collect_cons_eq_ok {request : Request} :
    collect (request :: requests) members found = .ok outcomes ↔
    (Dict.find? request.outerName members = none ∧ collect requests members found = .ok outcomes) ∨
      ∃ body outcome, Dict.find? request.outerName members = some body ∧
        ofRequest request body = .ok outcome ∧
        collect requests members (Dict.insert request.outerName outcome found) = .ok outcomes := by
  rw [collect]
  cases Dict.find? request.outerName members with
  | none => simp
  | some body => simp [bind_eq_ok]

/-- A name that no request has keeps the answer that it had. -/
theorem collect_of_not_mem {name : String} (absent : name ∉ requests.map Request.outerName)
    (read : collect requests members found = .ok outcomes) :
    Dict.find? name outcomes = Dict.find? name found := by
  induction requests generalizing found with
  | nil =>
    rw [collect, Except.ok.injEq] at read
    rw [read]
  | cons request rest later =>
    rw [List.map_cons, List.mem_cons, not_or] at absent
    rcases collect_cons_eq_ok.mp read with ⟨_, behind⟩ | ⟨_, outcome, _, _, behind⟩
    · exact later absent.2 behind
    · rw [later absent.2 behind, Dict.find?_insert, if_neg (Ne.symm absent.1)]

/-- **A level answers each of its requests by the member of that name**, if the names are distinct
and none of them was answered before. -/
theorem collect_find? (distinct : (requests.map Request.outerName).Nodup)
    (fresh : ∀ request ∈ requests, Dict.find? request.outerName found = none)
    (read : collect requests members found = .ok outcomes) :
    ∀ request ∈ requests,
      (Dict.find? request.outerName members).mapM (ofRequest request) =
        .ok (Dict.find? request.outerName outcomes) := by
  induction requests generalizing found with
  | nil => exact fun _ member => by cases member
  | cons request rest later =>
    rw [List.map_cons, List.nodup_cons] at distinct
    obtain ⟨once, distinct⟩ := distinct
    intro asked member
    rcases collect_cons_eq_ok.mp read with ⟨here, behind⟩ | ⟨body, outcome, here, answered, behind⟩
    · rcases List.mem_cons.mp member with rfl | member
      · rw [here, collect_of_not_mem once behind, fresh _ List.mem_cons_self]
        rfl
      · exact later distinct
          (fun other member => fresh other (List.mem_cons_of_mem _ member)) behind
          asked member
    · rcases List.mem_cons.mp member with rfl | member
      · rw [here, collect_of_not_mem once behind, Dict.find?_insert_self, mapM_some_eq_ok]
        exact ⟨outcome, answered, rfl⟩
      · refine later distinct (fun other member => ?_) behind asked member
        have apart : request.outerName ≠ other.outerName := fun same =>
          once (List.mem_map.mpr ⟨other, member, same.symm⟩)
        rw [Dict.find?_insert, if_neg apart]
        exact fresh other (List.mem_cons_of_mem _ member)

/-- The answers of a level are collected from the members of an object. -/
theorem ofLevel_eq_ok {level : Json} :
    ofLevel requests level = .ok outcomes ↔
      ∃ members, level.members? = some members ∧ collect requests members [] = .ok outcomes := by
  simp only [ofLevel, levelMembers, bind_eq_ok, require_eq_ok]

/-- **A level answers each of its requests by the member of that name.** -/
theorem find?_of_ofLevel {level : Json} (distinct : (requests.map Request.outerName).Nodup)
    (read : ofLevel requests level = .ok outcomes) {request : Request}
    (member : request ∈ requests) :
    (level.member? request.outerName).mapM (ofRequest request) =
      .ok (Dict.find? request.outerName outcomes) := by
  obtain ⟨members, object, collected⟩ := ofLevel_eq_ok.mp read
  rw [Json.member?_of_members? object]
  exact collect_find? distinct (fun _ _ => rfl) collected request member

end Levels

/-! ### Buckets -/

section Buckets

variable {name : String} {level : Json → Except Failure Outcomes}

/-- A bucket has the key, the count and the level of an item. -/
theorem bucketOf_eq_ok {item : Json} {bucket : Bucket Outcome} :
    bucketOf name level item = .ok bucket ↔
      bucketKey name item = .ok (bucket.key, bucket.rawKey) ∧
        docCount name item = .ok bucket.docCount ∧ level item = .ok bucket.outcomes := by
  simp only [bucketOf, bind_eq_ok, pure_eq_ok, Except.ok.injEq]
  constructor
  · rintro ⟨⟨key, raw⟩, keyed, count, counted, outcomes, inside, rfl⟩
    exact ⟨keyed, counted, inside⟩
  · rintro ⟨keyed, counted, inside⟩
    exact ⟨_, keyed, _, counted, _, inside, rfl⟩

/-- **Terms have one bucket for each item of the response**, in the order of the items. -/
theorem terms_of_termsOf {body : Json} {outcome : Outcome}
    (read : termsOf name level body = .ok outcome) :
    ∃ items buckets, body.member? "buckets" = some (.array items) ∧ outcome = .terms buckets ∧
      List.Forall₂ (fun item bucket => bucketOf name level item = .ok bucket) items buckets := by
  simp only [termsOf, bucketItems, bind_eq_ok, require_eq_ok, pure_eq_ok, Except.ok.injEq] at read
  obtain ⟨items, listed, buckets, each, rfl⟩ := read
  obtain ⟨document, member, array⟩ := Option.bind_eq_some_iff.mp listed
  refine ⟨items, buckets, ?_, rfl, mapM_eq_ok.mp each⟩
  cases document with
  | array items =>
    rw [Json.items?, Option.some.injEq] at array
    rw [member, array]
  | _ => cases array

end Buckets

/-! ### Filters -/

/-- **A measure in a filter** is answered by a filter that counts its documents and holds what the
member of the measure's own name answers, if there is one. -/
theorem ofMeasureRequest_eq_ok {request : MeasureRequest} {around : Scope} {body : Json}
    {outcome : Outcome} (inside : request.scope = some around) :
    ofMeasureRequest request body = .ok outcome ↔
      ∃ count answer, docCount around.name body = .ok count ∧
        (body.member? request.name).mapM (ofMeasure request.measure request.name) = .ok answer ∧
        outcome = .filter count (answer.elim [] fun answer => [(request.name, answer)]) := by
  simp only [ofMeasureRequest, inside, bind_eq_ok]
  refine exists_congr fun count => ?_
  cases body.member? request.name with
  | none => simp [eq_comm]
  | some inner =>
    simp only [mapM_some_eq_ok, bind_eq_ok, pure_eq_ok, Except.ok.injEq]
    constructor
    · rintro ⟨counted, answer, answered, rfl⟩
      exact ⟨some answer, counted, ⟨answer, answered, rfl⟩, rfl⟩
    · rintro ⟨_, counted, ⟨answer, answered, rfl⟩, rfl⟩
      exact ⟨counted, answer, answered, rfl⟩

end Outcome

end FacetQuery
