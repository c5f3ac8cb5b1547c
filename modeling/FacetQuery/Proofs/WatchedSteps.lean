/-
**Watched steps.**

A session compiles predicates, lowers facets, writes bodies and decodes responses, and one who
watches it sees an event for each of these steps that succeeds, in the order of the steps. Nothing
else comes of it: a step has the result that it has unwatched. What the events count are trees that
a reader of the events never sees, so the counts are read here off what was asked and what was
answered.

* `Clause.Way` — **ways down a clause**; the longest is as long as the clause is deep.
* `Facet.sizeOfAll_of_ofEach` — **the requests of some facets** are as many as the facets, at all
  depths.
* `Outcome.length_of_collect` — **the answers of a level** are as many as the requested names that
  are in it.
* `Watched.Reports` — an operation with a result and some events, which nobody sees who does not
  watch.
* `Watched.Reports.bind` — the events of two steps are those of the first, and of the second if the
  first succeeds.
* `Session.steps_reported` — **what each operation of a session reports.**
-/

import FacetQuery.Proofs.Acceptance
import FacetQuery.Proofs.AtomOrder
import FacetQuery.Proofs.NameTrees
import FacetQuery.Proofs.SearchCalls

namespace FacetQuery

/-! ### Counts of what is asked -/

namespace Clause

/-- **A way down a clause** by the number of clauses on it: from the clause itself to a part of it,
to a part of that, and so on, as far as one likes. -/
inductive Way : Clause → Nat → Prop
  | here (clause : Clause) : Way clause 1
  | inside {connective : Connective} {parts : List Clause} {part : Clause} {n : Nat}
      (member : part ∈ parts)
      (below : Way part n) : Way (.joined connective parts) (n + 1)

/-- No way down is longer than a clause is deep. -/
theorem Way.le_depth {clause : Clause} {n : Nat} (way : clause.Way n) : n ≤ clause.depth := by
  induction way with
  | here clause =>
    cases clause with
    | test leaf => exact Nat.le_refl 1
    | joined connective parts =>
      rw [depth]
      exact Nat.le_add_right ..
  | inside member _ below =>
    rw [depth, Nat.add_comm]
    exact Nat.add_le_add_left (Nat.le_trans below (depth_le_depthOfAll member)) 1

mutual

/-- There is a way down as long as a clause is deep. -/
theorem way_depth (clause : Clause) : clause.Way clause.depth := by
  cases clause with
  | test leaf => exact .here _
  | joined connective parts =>
    rw [depth]
    rcases way_depthOfAll parts with bare | ⟨part, member, way⟩
    · rw [bare]
      exact .here _
    · rw [Nat.add_comm]
      exact .inside member way

theorem way_depthOfAll (parts : List Clause) :
    depthOfAll parts = 0 ∨ ∃ part ∈ parts, part.Way (depthOfAll parts) := by
  cases parts with
  | nil => exact .inl rfl
  | cons part rest =>
    right
    rw [depthOfAll]
    by_cases deeper : depthOfAll rest ≤ part.depth
    · rw [Nat.max_eq_left deeper]
      exact ⟨part, List.mem_cons_self, way_depth part⟩
    · rw [Nat.max_eq_right (Nat.le_of_not_le deeper)]
      rcases way_depthOfAll rest with bare | ⟨other, member, way⟩
      · exact absurd (bare ▸ Nat.zero_le _) deeper
      · exact ⟨other, List.mem_cons_of_mem part member, way⟩

end

end Clause

namespace Facet

variable {settings : Settings}

mutual

theorem size_of_ofFacet (around : List String) (facet : Facet) {request : Request}
    (resolved : Request.ofFacet settings facet = .ok request) :
    request.size = 1 + (placesIn around facet).length := by
  cases facet with
  | group target inner =>
    obtain ⟨_, requests, each, rfl⟩ := Request.ofFacet_group_eq_ok.mp resolved
    rw [Request.size, placesIn, sizeOfAll_of_ofEach (target.name :: around) [] inner each]
  | measure spec =>
    obtain ⟨made, _, rfl⟩ := Request.ofFacet_measure_eq_ok.mp resolved
    rw [Request.size, placesIn]
    rfl

/-- **The requests of some facets are as many as the facets**, at all depths. -/
theorem sizeOfAll_of_ofEach (around earlier : List String) (facets : List Facet)
    {requests : List Request} (each : Request.ofEach settings facets = .ok requests) :
    Request.sizeOfAll requests = (placesOfAll around earlier facets).length := by
  cases facets with
  | nil =>
    cases Request.ofEach_eq_ok.mp each
    rw [Request.sizeOfAll, placesOfAll]
    rfl
  | cons facet rest =>
    cases Request.ofEach_eq_ok.mp each with
    | cons head tail =>
      have behind :=
        sizeOfAll_of_ofEach around (facet.outerName :: earlier) rest (Request.ofEach_eq_ok.mpr tail)
      rw [Request.sizeOfAll, placesOfAll, size_of_ofFacet around facet head, behind,
        List.length_cons, List.length_append]
      omega

end

end Facet

/-! ### Counts of what is answered -/

/-- A new name comes beside those that are there. -/
theorem Dict.mem_names_insert {α : Type} {name other : String} {value : α} {members : Dict α}
    (fresh : name ∉ names members) :
    other ∈ names (insert name value members) ↔ other = name ∨ other ∈ names members :=
  ((perm_insert fresh).map Prod.fst).mem_iff.trans List.mem_cons

namespace Outcome

variable {requests : List Request} {members : Dict Json} {found outcomes : Outcomes}

/-- **The answers of a level are as many as the requested names that are in it**, beside those found
before. -/
theorem length_of_collect (distinct : (requests.map Request.outerName).Nodup)
    (fresh : ∀ request ∈ requests, request.outerName ∉ Dict.names found)
    (read : collect requests members found = .ok outcomes) :
    outcomes.length =
      found.length + (requests.map Request.outerName).countP fun name =>
        (Dict.find? name members).isSome := by
  induction requests generalizing found with
  | nil =>
    rw [collect, Except.ok.injEq] at read
    rw [read]
    rfl
  | cons request rest later =>
    obtain ⟨here, behind⟩ := List.forall_mem_cons.mp fresh
    obtain ⟨apart, distinct⟩ := List.nodup_cons.mp distinct
    rw [List.map_cons, List.countP_cons]
    rcases collect_cons_eq_ok.mp read with ⟨absent, read⟩ | ⟨body, outcome, there, _, read⟩
    · rw [later distinct behind read, absent]
      rfl
    · have still :
          ∀ other ∈ rest,
          other.outerName ∉ Dict.names (Dict.insert request.outerName outcome found) := by
        intro other member again
        rcases (Dict.mem_names_insert here).mp again with same | before
        · exact apart (same ▸ List.mem_map_of_mem member)
        · exact behind other member before
      rw [later distinct still read, (Dict.perm_insert here).length_eq, there, List.length_cons]
      exact Nat.add_right_comm ..

/-- The number of the facets of a level whose names are in what was answered, if anything was. -/
def answered (facets : List Facet) (level : Option Json) : Nat :=
  level.elim 0 fun level => facets.countP fun facet => (level.member? facet.outerName).isSome

variable {settings : Settings} {facets : List Facet} {level : Json}

theorem length_of_ofLevel (lowered : Request.ofFacets settings facets = .ok requests)
    (read : ofLevel requests level = .ok outcomes) :
    outcomes.length = answered facets (some level) := by
  have accepted := Facet.accepted_iff.mpr lowered
  obtain ⟨members, object, collected⟩ := ofLevel_eq_ok.mp read
  have counted := length_of_collect accepted.nodup (fun _ _ => List.not_mem_nil) collected
  rw [counted, Facet.outerNames_of_ofEach accepted.resolved, List.countP_map]
  simp only [answered, Option.elim_some, Json.member?_of_members? object]
  exact Nat.zero_add _

theorem length_of_ofResponse (lowered : Request.ofFacets settings facets = .ok requests)
    (read : ofResponse requests level = .ok outcomes) :
    outcomes.length = answered facets (level.member? "aggregations") := by
  unfold ofResponse at read
  cases there : level.member? "aggregations" with
  | none =>
    rw [there] at read
    cases read
    rfl
  | some inner =>
    rw [there] at read
    exact length_of_ofLevel lowered read

end Outcome

/-! ### What operations report -/

namespace Event

/-- A count in an event is the number itself, up to the largest that four bytes hold. -/
theorem toNat_capped (n : Nat) : (capped n).toNat = min n 4294967295 := by
  refine UInt32.toNat_ofNat_of_lt ?_
  rw [UInt32.size]
  omega

/-- The event of a clause that was compiled. -/
def ofClause (clause : Clause) : Event :=
  .filterCompiled clause.fingerprint (capped clause.leaves) (capped clause.depth)

/-- The event of facets that were lowered, which counts those at all depths. -/
def ofFacets (facets : List Facet) : Event := .facetsLowered (capped (Facet.places facets).length)

/-- The event of answers that were decoded. -/
def ofOutcomes (outcomes : Outcomes) : Event := .decoded (capped outcomes.length)

end Event

namespace Watched

variable {α β : Type}

/-- The events of a step that succeeds; one that fails has none. -/
def onSuccess (events : α → List Event) : Except Failure α → List Event
  | .ok value => events value
  | .error _ => []

theorem onSuccess_nothing (result : Except Failure α) : onSuccess (fun _ => []) result = [] := by
  cases result <;> rfl

theorem onSuccess_bind_ok (events : List Event) (result : Except Failure α) (f : α → β) :
    onSuccess (fun _ => events) (result >>= fun value => .ok (f value)) =
      onSuccess (fun _ => events) result := by
  cases result <;> rfl

/-- **An operation that reports some events**: its result is the same whether someone watches or
not, and who does not sees nothing. -/
structure Reports (operation : Bool → Watched α) (result : Except Failure α) (events : List Event) :
    Prop where
  unwatched : operation false = ⟨result, []⟩
  watched : operation true = ⟨result, events⟩

namespace Reports

variable {first : Bool → Watched α} {result : Except Failure α} {events : List Event}

/-- The result of an operation is that of the operation unwatched. -/
theorem of_result (reports : Reports first result events) :
    Reports first (first false).result events := by
  rw [reports.unwatched]
  exact reports

theorem pure (value : α) : Reports (fun _ => Pure.pure value) (.ok value) [] := ⟨rfl, rfl⟩

/-- **One step**: its event is reported if it succeeds. -/
theorem step (event : α → Event) (result : Except Failure α) :
    Reports
      (fun watching => do
        let value ← .lift result
        .emit watching (event value)
        return value)
      result (onSuccess (fun value => [event value]) result) := by
  cases result with
  | error failure => exact ⟨rfl, rfl⟩
  | ok value => exact ⟨rfl, rfl⟩

/-- **Two steps**: the second is taken if the first succeeds, and its events come behind. -/
theorem bind {next : α → Bool → Watched β} {second : α → Except Failure β} {later : α → List Event}
    (reports : Reports first result events)
    (each : ∀ value, result = .ok value → Reports (next value) (second value) (later value)) :
    Reports (fun watching => first watching >>= fun value => next value watching)
      (result >>= second)
      (events ++ onSuccess later result) := by
  have bound (watching : Bool) : (first watching >>= fun value => next value watching) =
      Watched.bind (first watching) fun value => next value watching := rfl
  cases result with
  | error failure =>
    constructor
    · rw [bound, reports.unwatched]
      rfl
    · rw [bound, reports.watched]
      exact congrArg _ (List.append_nil events).symm
  | ok value =>
    obtain ⟨unwatched, watched⟩ := each value rfl
    constructor
    · rw [bound, reports.unwatched, Watched.bind]
      simp only [unwatched]
      rfl
    · rw [bound, reports.watched, Watched.bind]
      simp only [watched]
      rfl

end Reports

end Watched

namespace Session

open Watched (Reports onSuccess)

variable (settings : Settings)

/-- The events of a predicate that is compiled. -/
def compilingEvents (predicate : Predicate) : List Event :=
  onSuccess (fun clause => [Event.ofClause clause]) (Clause.ofPredicate predicate)

/-- The events of facets that are lowered. -/
def loweringEvents (facets : List Facet) : List Event :=
  onSuccess (fun _ => [Event.ofFacets facets]) (Request.ofFacets settings facets)

/-- The events on the way to the body of a search: that of its filter, if it has one, and behind it
that of its facets, if it has any. The facets are not looked at if the filter does not compile. -/
def bodyEvents (search : Search) : List Event :=
  search.filter.elim [] compilingEvents ++
    onSuccess (fun _ => if search.facets.isEmpty then [] else loweringEvents settings search.facets)
      (search.filter.mapM Clause.ofPredicate)

theorem reports_compile (predicate : Predicate) :
    Reports (fun watching => (mk settings watching).compile predicate)
      (Clause.ofPredicate predicate)
      (compilingEvents predicate) := Reports.step Event.ofClause _

theorem reports_lower (facets : List Facet) :
    Reports (fun watching => (mk settings watching).lower facets) (Request.ofFacets settings facets)
      (loweringEvents settings facets) := by
  let event (requests : List Request) : Event :=
    .facetsLowered (Event.capped (Request.sizeOfAll requests))
  have counted : onSuccess (fun requests => [event requests]) (Request.ofFacets settings facets) =
      loweringEvents settings facets := by
    unfold loweringEvents
    cases lowered : Request.ofFacets settings facets with
    | error failure => rfl
    | ok requests =>
      have each := (Request.ofFacets_eq_ok.mp lowered).1
      simp only [onSuccess, event, Event.ofFacets, Facet.places,
        Facet.sizeOfAll_of_ofEach [] [] facets each]
  exact counted ▸ Reports.step event (Request.ofFacets settings facets)

/-- Decoding reports the lowering, and behind it the answers if they can be read. -/
theorem reports_decode (facets : List Facet) (read : List Request → Except Failure Outcomes) :
    Reports (fun watching => (mk settings watching).decode facets read)
      (Request.ofFacets settings facets >>= read)
      (loweringEvents settings facets ++
        onSuccess (fun outcomes => [Event.ofOutcomes outcomes])
          (Request.ofFacets settings facets >>= read)) := by
  have both :=
    (reports_lower settings facets).bind fun requests _ =>
      Reports.step Event.ofOutcomes (read requests)
  cases lowered : Request.ofFacets settings facets with
  | error failure =>
    rw [lowered] at both
    exact both
  | ok requests =>
    rw [lowered] at both
    exact both

/-- The filter of a search reports its clause, if it has one that compiles. -/
theorem reports_queryMembers (filter : Option Predicate) :
    Reports (fun watching => (mk settings watching).queryMembers filter)
      (filter.mapM Clause.ofPredicate >>= fun clause => .ok (clause.toList.map queryMember))
      (filter.elim [] compilingEvents) := by
  cases filter with
  | none => exact Reports.pure []
  | some predicate =>
    have made :=
      (reports_compile settings predicate).bind fun clause _ => Reports.pure [queryMember clause]
    rw [Watched.onSuccess_nothing, List.append_nil] at made
    cases compiled : Clause.ofPredicate predicate with
    | error failure =>
      rw [compiled] at made
      rw [Option.mapM_some, compiled]
      exact made
    | ok clause =>
      rw [compiled] at made
      rw [Option.mapM_some, compiled]
      exact made

/-- The facets of a search report that they are lowered, if there are any. -/
theorem reports_facetMembers (facets : List Facet) :
    Reports (fun watching => (mk settings watching).facetMembers facets)
      ((mk settings false).facetMembers facets).result
      (if facets.isEmpty then [] else loweringEvents settings facets) := by
  cases facets with
  | nil => exact Reports.pure []
  | cons facet rest =>
    have made :=
      (reports_lower settings (facet :: rest)).bind fun requests _ =>
        Reports.pure [facetMember requests]
    rw [Watched.onSuccess_nothing, List.append_nil] at made
    exact made.of_result

/-- A body reports the filter, and behind it the facets if the filter compiles. -/
theorem reports_body (search : Search) :
    Reports (fun watching => (mk settings watching).body search)
      ((mk settings false).body search).result
      (bodyEvents settings search) := by
  have whole := (reports_queryMembers settings search.filter).bind fun query _ =>
    (reports_facetMembers settings search.facets).bind fun facets _ =>
      Reports.pure (Json.record (query ++ facets ++ sizeMembers search.size))
  simp only [Watched.onSuccess_nothing, List.append_nil, Watched.onSuccess_bind_ok] at whole
  exact whole.of_result

/-- **What each operation of a session reports.** Every operation has the result that it has
unwatched, and unwatched it shows nothing. One who watches sees the clause of a predicate that
compiles, with the number of its tests and the length of the longest way down; the number of facets
that are lowered, at all depths; for a body the filter and then the facets, of which the first
stands when the second fails; and for a response the lowering and then, if it can be read, the
number of answers, which is that of the requested names that the level of the response has, and none
if there is no such level. Each number stands for itself, or for the largest that four bytes hold if
it is larger. -/
theorem steps_reported (settings : Settings) (predicate : Predicate) (facets : List Facet)
    (search : Search) (document : Json) :
    Reports (fun watching => (mk settings watching).compile predicate)
      (Clause.ofPredicate predicate)
        (compilingEvents predicate) ∧
      Reports (fun watching => (mk settings watching).lower facets)
        (Request.ofFacets settings facets)
        (loweringEvents settings facets) ∧
      Reports (fun watching => (mk settings watching).body search)
        ((mk settings false).body search).result
        (bodyEvents settings search) ∧
      (∃ answers : Except Failure Outcomes,
        Reports (fun watching => (mk settings watching).decodeResponse search document) answers
            (loweringEvents settings search.facets ++
              onSuccess (fun outcomes => [Event.ofOutcomes outcomes]) answers) ∧
          ∀ outcomes, answers = .ok outcomes →
            outcomes.length = Outcome.answered search.facets (document.member? "aggregations")) ∧
      (∃ answers : Except Failure Outcomes,
        Reports (fun watching => (mk settings watching).decodeLevel facets document) answers
            (loweringEvents settings facets ++
              onSuccess (fun outcomes => [Event.ofOutcomes outcomes]) answers) ∧
          ∀ outcomes, answers = .ok outcomes →
            outcomes.length = Outcome.answered facets (some document)) ∧
      (∀ clause : Clause, clause.leaves = clause.tests.length ∧
        clause.Way clause.depth ∧ ∀ n, clause.Way n → n ≤ clause.depth) ∧
      ∀ n, (Event.capped n).toNat = min n 4294967295 := by
  refine ⟨reports_compile settings predicate, reports_lower settings facets,
    reports_body settings search,
    ⟨_, reports_decode settings search.facets _, fun outcomes read => ?_⟩,
    ⟨_, reports_decode settings facets _, fun outcomes read => ?_⟩,
    fun clause => ?_, Event.toNat_capped⟩
  · obtain ⟨requests, lowered, read⟩ := bind_eq_ok.mp read
    exact Outcome.length_of_ofResponse lowered read
  · obtain ⟨requests, lowered, read⟩ := bind_eq_ok.mp read
    exact Outcome.length_of_ofLevel lowered read
  · exact ⟨clause.leaves_eq, clause.way_depth, fun _ way => way.le_depth⟩

/-- A search for sold cars that asks twice for the sum of their prices. -/
def repeatedSums : Search where
  filter := some (.flag ⟨"sold", .bool, true⟩)
  facets := [Facet.priceSum, Facet.priceSum]

/-- A search whose facets clash has reported its filter by then. Prices by kind are three facets, of
which the outer two are looked up in a level, and one of these is in it. -/
theorem steps_reported_pricesByKind :
    (∃ clause, Clause.ofPredicate (.flag ⟨"sold", .bool, true⟩) = .ok clause ∧
        (mk {} true).body repeatedSums =
          ⟨.error (.ambiguous "sum_price"), [.filterCompiled clause.fingerprint 1 1]⟩) ∧
      ∃ outcomes, outcomes.length = 1 ∧
        (mk {} true).decodeLevel Facet.pricesByKind Facet.pricesLevel =
          ⟨.ok outcomes, [.facetsLowered 3, .decoded 1]⟩ := by
  obtain ⟨_, _, body, _, ⟨answers, reports, counted⟩, _⟩ :=
    steps_reported {} (.all []) Facet.pricesByKind repeatedSums Facet.pricesLevel
  constructor
  · exact ⟨_, rfl, body.watched⟩
  · have read :
        ((mk {} false).decodeLevel Facet.pricesByKind Facet.pricesLevel).result.isOk = true := by
      decide +kernel
    rw [reports.unwatched] at read
    cases answers with
    | error failure => cases read
    | ok outcomes =>
      have one : outcomes.length = 1 := (counted outcomes rfl).trans (by decide)
      have lowered : loweringEvents {} Facet.pricesByKind = [.facetsLowered 3] := rfl
      have decoded : Event.ofOutcomes outcomes = .decoded 1 := by
        rw [Event.ofOutcomes, one]
        rfl
      refine ⟨outcomes, one, reports.watched.trans ?_⟩
      rw [lowered, onSuccess, decoded]
      rfl

end Session

end FacetQuery
