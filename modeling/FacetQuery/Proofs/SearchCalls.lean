/-
**Searches made call by call.**

A search is made by calls in any order and number. What they bring is kept in the order of the
calls, each kind by itself: predicates are joined one level deeper with every call and still become
one flat list of clauses, facets are put one behind another, and the last size counts.

* `Search.ofCalls` — **the search that some calls make**, from the empty one on.
* `Search.Restricts.restrict` — **one call more**: the filter goes on compiling as all predicates
  together.
* `Session.result_body` — the body of a search by the parts of the search.
* `Search.ofCalls_composed` — **the filter, the facets, the size and the body** by what the calls
  brought.
-/

import FacetQuery.Proofs.Regrouping
import FacetQuery.Search.Session
import Mathlib.Data.List.Induction

namespace FacetQuery

/-! ### Results of watched operations -/

namespace Watched

variable {α β : Type}

theorem result_pure (value : α) : (pure value : Watched α).result = .ok value := rfl

theorem result_lift (result : Except Failure α) : (lift result).result = result := rfl

/-- The result of two operations is that of their results. -/
theorem result_bind (first : Watched α) (next : α → Watched β) :
    (first >>= next).result = (do (next (← first.result)).result) := by
  show (bind first next).result = _
  unfold bind
  cases first.result with
  | error failure => rfl
  | ok value => rfl

end Watched

namespace Session

/-- The member of a body that restricts the documents. -/
def queryMember (clause : Clause) : String × Json :=
  ("query", .single "bool" (.single "filter" (.array [clause.json])))

/-- The member of a body that asks for aggregations. -/
def facetMember (requests : List Request) : String × Json := ("aggs", Request.level requests)

/-- The member of a body that says how many documents to see. -/
def sizeMember (size : UInt32) : String × Json := ("size", .ofInt size.toNat)

theorem result_queryMembers (session : Session) (filter : Option Predicate) :
    (session.queryMembers filter).result =
      (do return (← filter.mapM Clause.ofPredicate).toList.map queryMember) := by
  cases filter with
  | none => rfl
  | some predicate =>
    rw [queryMembers, compile, Watched.result_bind, Watched.result_bind, Watched.result_lift,
      Option.mapM_some]
    cases Clause.ofPredicate predicate with
    | error failure => rfl
    | ok clause => rfl

theorem result_facetMembers (session : Session) (facets : List Facet) :
    (session.facetMembers facets).result =
      (do
        let requests ← Request.ofFacets session.settings facets
        return if facets.isEmpty then [] else [facetMember requests]) := by
  cases facets with
  | nil => rfl
  | cons facet rest =>
    rw [facetMembers, lower, Watched.result_bind, Watched.result_bind, Watched.result_lift]
    · cases Request.ofFacets session.settings (facet :: rest) with
      | error failure => rfl
      | ok requests => rfl
    · exact List.cons_ne_nil facet rest

theorem sizeMembers_eq (size : Option UInt32) : sizeMembers size = size.toList.map sizeMember := by
  cases size <;> rfl

/-- **The members of a body**, in the order of their names. -/
def bodyMembers (clause : Option Clause) (requests : Option (List Request)) (size : Option UInt32) :
    List (String × Json) :=
  requests.toList.map facetMember ++ clause.toList.map queryMember ++ size.toList.map sizeMember

/-- An object keeps its members in the order of their names. -/
theorem record_eq_bodyMembers (clause : Option Clause) (requests : Option (List Request))
    (size : Option UInt32) :
    Json.record (clause.toList.map queryMember ++ requests.toList.map facetMember ++
      size.toList.map sizeMember) =
      .object (bodyMembers clause requests size) := by
  have aggsFirst : "query" ≠ "aggs" ∧ "aggs" < "query" := by decide
  have sizeLast : "aggs" ≠ "size" ∧ ¬ "size" < "aggs" ∧ "query" ≠ "size" ∧ ¬ "size" < "query" := by
    decide
  cases clause <;> cases requests <;> cases size <;>
    simp [bodyMembers, facetMember, queryMember, sizeMember, Json.record, Dict.ofList, Dict.insert,
      aggsFirst, sizeLast]

/-- **The body of a search** by its parts: the filter is compiled before the facets are lowered, and
both have to succeed. -/
theorem result_body (session : Session) (search : Search) :
    (session.body search).result =
      (do
        let clause ← search.filter.mapM Clause.ofPredicate
        let requests ← Request.ofFacets session.settings search.facets
        let asked := if search.facets.isEmpty then none else some requests
        return .object (bodyMembers clause asked search.size)) := by
  rw [body, Watched.result_bind, result_queryMembers]
  cases search.filter.mapM Clause.ofPredicate with
  | error failure => rfl
  | ok clause =>
    simp only [ok_bind, pure_eq_ok]
    rw [Watched.result_bind, result_facetMembers]
    cases Request.ofFacets session.settings search.facets with
    | error failure => rfl
    | ok requests =>
      simp only [ok_bind, pure_eq_ok, Watched.result_pure, ← record_eq_bodyMembers, sizeMembers_eq]
      cases search.facets.isEmpty with
      | true => rfl
      | false => rfl

end Session

/-! ### Calls -/

/-- All of some predicates, if there are any. -/
def Predicate.allOf? : List Predicate → Option Predicate
  | [] => none
  | predicates => some (.all predicates)

namespace Search

/-- A call that adds to a search. -/
inductive Call where
  | restrict (predicate : Predicate)
  | restrictWithin {t : ValueType} (field : Field t) (values : List t.Carrier)
  | request (facets : List Facet)
  | limit (size : UInt32)

namespace Call

/-- The search after a call. -/
def apply (search : Search) : Call → Search
  | restrict predicate => search.restrict predicate
  | restrictWithin field values => search.restrictWithin field values
  | request facets => search.request facets
  | limit size => search.limit size

/-- The predicate that a call brings. -/
def predicate? : Call → Option Predicate
  | restrict predicate => some predicate
  | restrictWithin field values => some (field.within values)
  | request _ => none
  | limit _ => none

/-- The facets that a call brings. -/
def facets : Call → List Facet
  | request facets => facets
  | _ => []

/-- The size that a call brings. -/
def size? : Call → Option UInt32
  | limit size => some size
  | _ => none

end Call

/-- **The search that some calls make**, from the empty one on. -/
def ofCalls (calls : List Call) : Search := calls.foldl Call.apply {}

theorem ofCalls_concat (calls : List Call) (call : Call) :
    ofCalls (calls ++ [call]) = call.apply (ofCalls calls) := List.foldl_concat ..

/-! ### One call more -/

/-- **The filter of a search is that of some predicates**: there is one if there are any, and it
compiles, or fails to, as all of them together do. -/
def Restricts (search : Search) (predicates : List Predicate) : Prop :=
  search.filter.map Clause.ofPredicate = (Predicate.allOf? predicates).map Clause.ofPredicate

variable {search : Search} {predicates : List Predicate}

/-- A further predicate joined to a group of predicates compiles as one more of them. -/
theorem ofPredicate_and {filter predicate : Predicate} (nonempty : predicates ≠ [])
    (alike : Clause.ofPredicate filter = Clause.ofPredicate (.all predicates)) :
    Clause.ofPredicate (filter.and predicate) =
      Clause.ofPredicate (.all (predicates ++ [predicate])) := by
  have spliced := Clause.ofPredicate_splice .all [] [predicate] nonempty
  rw [List.nil_append, List.nil_append] at spliced
  refine Eq.trans ?_ spliced
  show Clause.ofPredicate (Grouping.all.predicate [filter, predicate]) = _
  rw [Clause.ofPredicate_group .all (List.cons_ne_nil _ _),
    Clause.ofPredicate_group .all (List.cons_ne_nil _ _), Clause.ofPredicates, Clause.ofPredicates,
    alike]
  rfl

/-- **A further restriction** is one predicate more. -/
theorem Restricts.restrict (restricts : search.Restricts predicates) (predicate : Predicate) :
    (search.restrict predicate).Restricts (predicates ++ [predicate]) := by
  unfold Restricts at restricts ⊢
  unfold Search.restrict
  cases filter : search.filter with
  | none =>
    rw [filter] at restricts
    cases predicates with
    | nil =>
      show some (Clause.ofPredicate predicate) =
          some (Clause.ofPredicate (Grouping.all.predicate [predicate]))
      rw [Clause.ofPredicate_single]
    | cons first rest => exact nomatch restricts
  | some current =>
    rw [filter] at restricts
    cases predicates with
    | nil => exact nomatch restricts
    | cons first rest =>
      exact congrArg some
        (ofPredicate_and (List.cons_ne_nil first rest) (Option.some.inj restricts))

/-- A call restricts a search by the predicate that it brings. -/
theorem Restricts.apply (restricts : search.Restricts predicates) (call : Call) :
    (call.apply search).Restricts (predicates ++ call.predicate?.toList) := by
  cases call with
  | restrict predicate => exact restricts.restrict predicate
  | restrictWithin field values => exact restricts.restrict (field.within values)
  | request facets =>
    show search.Restricts (predicates ++ [])
    rwa [List.append_nil]
  | limit size =>
    show search.Restricts (predicates ++ [])
    rwa [List.append_nil]

theorem facets_apply (search : Search) (call : Call) :
    (call.apply search).facets = search.facets ++ call.facets := by
  cases call with
  | request facets => rfl
  | _ => exact (List.append_nil _).symm

theorem size_apply (search : Search) (call : Call) :
    (call.apply search).size = call.size?.or search.size := by
  cases call <;> rfl

/-! ### All calls -/

variable (calls : List Call)

/-- **The filter of a search** is that of the predicates in the order of the calls. -/
theorem restricts_ofCalls : (ofCalls calls).Restricts (calls.filterMap Call.predicate?) := by
  induction calls using List.reverseRecOn with
  | nil => rfl
  | append_singleton calls call earlier =>
    rw [ofCalls_concat, List.filterMap_append]
    have later := earlier.apply call
    cases brought : call.predicate? with
    | none => simpa [brought] using later
    | some predicate => simpa [brought] using later

theorem facets_ofCalls : (ofCalls calls).facets = calls.flatMap Call.facets := by
  induction calls using List.reverseRecOn with
  | nil => rfl
  | append_singleton calls call earlier =>
    rw [ofCalls_concat, facets_apply, earlier, List.flatMap_append, List.flatMap_singleton]

theorem size_ofCalls : (ofCalls calls).size = (calls.filterMap Call.size?).getLast? := by
  induction calls using List.reverseRecOn with
  | nil => rfl
  | append_singleton calls call earlier =>
    rw [ofCalls_concat, size_apply, earlier, List.filterMap_append, List.getLast?_append]
    cases brought : call.size? with
    | none => simp [brought]
    | some size => simp [brought]

/-- What a filter compiles to depends on nothing but what its predicate does. -/
theorem Restricts.mapM (restricts : search.Restricts predicates) :
    search.filter.mapM Clause.ofPredicate =
      (Predicate.allOf? predicates).mapM Clause.ofPredicate := by
  unfold Restricts at restricts
  cases filter : search.filter with
  | none =>
    rw [filter, Option.map_none] at restricts
    rw [Option.map_eq_none_iff.mp restricts.symm]
  | some current =>
    rw [filter, Option.map_some] at restricts
    obtain ⟨together, same, compiled⟩ := Option.map_eq_some_iff.mp restricts.symm
    rw [same, Option.mapM_some, Option.mapM_some, compiled]

/-- **Searches compose.** Whatever calls made a search, in whatever order: its filter compiles to
the clause of all their predicates together, or fails as that does, and there is none if they
brought none; its facets are all of theirs one behind another; its size is the last. The body is an
object of exactly the members that these make, if the filter compiles and the facets become
requests; if neither does, the filter says why. -/
theorem ofCalls_composed (session : Session) :
    (ofCalls calls).filter.map Clause.ofPredicate =
        (Predicate.allOf? (calls.filterMap Call.predicate?)).map Clause.ofPredicate ∧
      (ofCalls calls).facets = calls.flatMap Call.facets ∧
      (ofCalls calls).size = (calls.filterMap Call.size?).getLast? ∧
      (session.body (ofCalls calls)).result =
        (do
          let clause ← (Predicate.allOf? (calls.filterMap Call.predicate?)).mapM Clause.ofPredicate
          let requests ← Request.ofFacets session.settings (calls.flatMap Call.facets)
          let asked := if (calls.flatMap Call.facets).isEmpty then none else some requests
          return .object
            (Session.bodyMembers clause asked (calls.filterMap Call.size?).getLast?)) := by
  have restricts := restricts_ofCalls calls
  refine ⟨restricts, facets_ofCalls calls, size_ofCalls calls, ?_⟩
  rw [Session.result_body, restricts.mapM, facets_ofCalls, size_ofCalls]

end Search

end FacetQuery
