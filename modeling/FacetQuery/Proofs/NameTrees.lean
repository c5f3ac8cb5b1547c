/-
**Where an aggregation lives.**

An aggregation is written under its name, and what it has inside is written under its `aggs`. Its
answer stands under the same name, and what it has inside is answered in each of its buckets or in
its filter. So the names form one tree, and the request and the response have it in common.

* `Dict.perm_ofList` — **members of distinct names are all kept**, each with its value.
* `Json.namesOf` — **the names of a written level**, found by entering `aggs` of each member.
* `Request.names` — **the names that are looked up** in a response.
* `Request.namesOf_level` — the two are one tree.
* `NameTree.Reads` — a level of a response is answered name by name along a tree, at every depth.
* `Facet.written_tree_is_read` — **nothing is lost in writing, and answers are where names were
  written.**
-/

import FacetQuery.Facet.Render
import FacetQuery.Proofs.BucketMembers
import FacetQuery.Proofs.FacetReading
import FacetQuery.Proofs.Unrequested
import Mathlib.Data.List.Induction

namespace FacetQuery

/-! ### Dictionaries of distinct names -/

namespace Dict

variable {α β : Type}

theorem ofList_concat (pairs : List (String × α)) (pair : String × α) :
    ofList (pairs ++ [pair]) = insert pair.1 pair.2 (ofList pairs) := by
  unfold ofList
  rw [List.foldl_append]
  rfl

theorem insert_ne_nil (name : String) (value : α) (members : Dict α) :
    insert name value members ≠ [] := by
  cases members with
  | nil => exact List.cons_ne_nil _ _
  | cons head rest =>
    rw [insert]
    split
    · exact List.cons_ne_nil _ _
    · split
      · exact List.cons_ne_nil _ _
      · exact List.cons_ne_nil _ _

theorem ofList_eq_nil {pairs : List (String × α)} : ofList pairs = [] ↔ pairs = [] := by
  constructor
  · intro empty
    rcases pairs.eq_nil_or_concat with rfl | ⟨earlier, pair, rfl⟩
    · rfl
    · rw [List.concat_eq_append, ofList_concat] at empty
      exact (insert_ne_nil _ _ _ empty).elim
  · rintro rfl
    rfl

/-- A new name comes beside the members that are there. -/
theorem perm_insert {name : String} {value : α} {members : Dict α} (fresh : name ∉ names members) :
    (insert name value members).Perm ((name, value) :: members) := by
  induction members with
  | nil => exact List.Perm.refl _
  | cons head rest later =>
    obtain ⟨first, old⟩ := head
    have apart : first ≠ name := fun same => fresh (List.mem_map.mpr ⟨_, List.mem_cons_self, same⟩)
    have behind : name ∉ names rest := fun again => fresh (List.mem_cons_of_mem _ again)
    rw [insert, if_neg apart]
    by_cases before : name < first
    · rw [if_pos before]
    · rw [if_neg before]
      exact ((later behind).cons _).trans (List.Perm.swap ..)

/-- **Members of distinct names are all kept**, each with its value. -/
theorem perm_ofList {pairs : List (String × α)} (distinct : (pairs.map Prod.fst).Nodup) :
    (ofList pairs).Perm pairs := by
  induction pairs using List.reverseRecOn with
  | nil => exact List.Perm.refl _
  | append_singleton pairs pair earlier =>
    rw [List.map_append, List.map_singleton, List.nodup_append_comm, List.singleton_append,
      List.nodup_cons] at distinct
    have kept := earlier distinct.2
    have fresh : pair.1 ∉ names (ofList pairs) :=
      fun again => distinct.1 ((kept.map _).mem_iff.mp again)
    rw [ofList_concat]
    calc (insert pair.1 pair.2 (ofList pairs)).Perm (pair :: ofList pairs) := perm_insert fresh
      _ |>.Perm (pair :: pairs) := kept.cons pair
      _ |>.Perm (pairs ++ [pair]) := (List.perm_append_singleton pair pairs).symm

/-- Members keep their places when their values change. -/
theorem insert_map (f : α → β) (name : String) (value : α) (members : Dict α) :
    insert name (f value) (members.map (Prod.map id f)) =
      (insert name value members).map (Prod.map id f) := by
  induction members with
  | nil => rfl
  | cons head rest later =>
    obtain ⟨first, old⟩ := head
    rw [List.map_cons, Prod.map_apply, id_eq, insert, insert, later]
    by_cases same : first = name
    · rw [if_pos same, if_pos same]
      rfl
    · rw [if_neg same, if_neg same]
      by_cases before : name < first
      · rw [if_pos before, if_pos before]
        rfl
      · rw [if_neg before, if_neg before]
        rfl

theorem ofList_map (f : α → β) (pairs : List (String × α)) :
    ofList (pairs.map (Prod.map id f)) = (ofList pairs).map (Prod.map id f) := by
  induction pairs using List.reverseRecOn with
  | nil => rfl
  | append_singleton pairs pair earlier =>
    rw [List.map_append, List.map_singleton, ofList_concat, ofList_concat, earlier]
    exact insert_map f pair.1 pair.2 _

end Dict

/-! ### Trees of names -/

/-- A tree of names: those of a level in their order, each with the tree inside it. -/
inductive NameTree where
  | level (members : List (String × NameTree))

namespace NameTree

/-- Nothing inside. -/
def bare : NameTree := .level []

end NameTree

namespace Json

mutual

/-- **The names of a written level**, each with the names written inside it. -/
def namesOf : Json → NameTree
  | .object members => .level (namesOfAll members)
  | _ => .bare

/-- The names of some written members, each with the names written inside it. -/
def namesOfAll : List (String × Json) → List (String × NameTree)
  | [] => []
  | (name, body) :: rest => (name, namesInside body) :: namesOfAll rest

/-- The names written inside an aggregation: those of the level under its `aggs`. -/
def namesInside : Json → NameTree
  | .object members => namesUnder members
  | _ => .bare

/-- The names of the level under the `aggs` of some members. -/
def namesUnder : List (String × Json) → NameTree
  | [] => .bare
  | (name, value) :: rest => if name = "aggs" then namesOf value else namesUnder rest

end

theorem namesOfAll_eq (members : List (String × Json)) :
    namesOfAll members = members.map (Prod.map id namesInside) := by
  induction members with
  | nil => rw [namesOfAll, List.map_nil]
  | cons head rest later =>
    rw [namesOfAll, later]
    rfl

theorem namesUnder_eq (members : Dict Json) :
    namesUnder members = (Dict.find? "aggs" members).elim .bare namesOf := by
  induction members with
  | nil =>
    rw [namesUnder]
    rfl
  | cons head rest later =>
    obtain ⟨first, value⟩ := head
    rw [namesUnder, Dict.find?]
    by_cases here : first = "aggs"
    · rw [if_pos here, if_pos here]
      rfl
    · rw [if_neg here, if_neg here, later]

/-- What is written inside an aggregation is the level under its `aggs`. -/
theorem namesInside_eq (body : Json) :
    body.namesInside = (body.member? "aggs").elim .bare namesOf := by
  cases body with
  | object members =>
    rw [namesInside, namesUnder_eq]
    rfl
  | _ => simp [namesInside, member?, members?]

end Json

/-! ### The names of requests -/

namespace Request

mutual

/-- The names that are looked up inside the answer to a request: in each bucket of a grouping those
of the requests inside it, and in a filter that of its measure. -/
def namesInside : Request → NameTree
  | .group _ _ _ inner => .level (Dict.ofList (namesOfAll inner))
  | .measure request => request.scope.elim .bare fun _ => .level [(request.name, .bare)]

/-- The names under which some requests are looked up, each with those looked up inside it. -/
def namesOfAll : List Request → List (String × NameTree)
  | [] => []
  | request :: rest => (request.outerName, namesInside request) :: namesOfAll rest

end

/-- **The names that are looked up in a level of a response.** -/
def names (requests : List Request) : NameTree := .level (Dict.ofList (namesOfAll requests))

theorem namesOfAll_eq (requests : List Request) :
    namesOfAll requests = requests.map fun request => (request.outerName, request.namesInside) := by
  induction requests with
  | nil => rw [namesOfAll, List.map_nil]
  | cons request rest later => rw [namesOfAll, later, List.map_cons]

/-- What a request has under `aggs`: a grouping its level, if there is anything in it, and a filter
its measure. -/
def aggs? : Request → Option Json
  | .group _ _ _ inner => if inner.isEmpty then none else some (level inner)
  | .measure request => request.scope.map fun _ => .single request.name request.body

/-- No measure by itself has anything under `aggs`. -/
theorem member?_aggs_body (request : MeasureRequest) : request.body.member? "aggs" = none := by
  unfold MeasureRequest.body
  cases request.measure <;> rfl

/-- **A request is written with its own level under `aggs`.** -/
theorem member?_aggs_json (request : Request) : request.json.member? "aggs" = request.aggs? := by
  cases request with
  | group name field size inner =>
    cases inner with
    | nil =>
      rw [json]
      rfl
    | cons first rest =>
      rw [json]
      exact Dict.find?_insert_self "aggs" _ _
  | measure request =>
    rw [json, MeasureRequest.json, aggs?]
    cases request.scope with
    | none => exact member?_aggs_body request
    | some scope => exact Dict.find?_insert_self "aggs" _ _

/-- What a grouping is written as. -/
theorem json_group (name field : String) (size : UInt32) (inner : List Request) :
    json (.group name field size inner) =
      .record (terms field size :: (aggs? (.group name field size inner)).toList.map fun level =>
        ("aggs", level)) := by
  cases inner <;> rw [json] <;> rfl

/-- **Nothing is written under `aggs` exactly if nothing is looked up inside.** -/
theorem aggs?_eq_none {request : Request} : request.aggs? = none ↔ request.namesInside = .bare := by
  cases request with
  | group name field size inner =>
    have empty : namesInside (.group name field size inner) = .bare ↔ inner = [] := by
      rw [namesInside, namesOfAll_eq, NameTree.bare, NameTree.level.injEq, Dict.ofList_eq_nil,
        List.map_eq_nil_iff]
    rw [aggs?, empty]
    cases inner with
    | nil => exact ⟨fun _ => rfl, fun _ => rfl⟩
    | cons first rest => exact ⟨nofun, nofun⟩
  | measure request =>
    rw [aggs?, namesInside]
    cases request.scope with
    | none => exact ⟨fun _ => rfl, fun _ => rfl⟩
    | some scope => exact ⟨nofun, nofun⟩

/-- The names of a written object are those of its members. -/
theorem namesOf_record (pairs : List (String × Json)) :
    (Json.record pairs).namesOf =
      .level (Dict.ofList (pairs.map (Prod.map id Json.namesInside))) := by
  rw [Json.record, Json.namesOf, Json.namesOfAll_eq, Dict.ofList_map]

mutual

/-- The names written inside a request are those looked up inside its answer. -/
theorem namesInside_json (request : Request) : request.json.namesInside = request.namesInside := by
  rw [Json.namesInside_eq, member?_aggs_json]
  cases request with
  | group name field size inner =>
    rw [aggs?, namesInside]
    cases inner with
    | nil =>
      rw [namesOfAll]
      rfl
    | cons first rest =>
      show (Json.record (members (first :: rest))).namesOf = _
      rw [namesOf_record, map_members (first :: rest)]
  | measure request =>
    rw [aggs?, namesInside]
    cases request.scope with
    | none => rfl
    | some scope =>
      have plain : request.body.namesInside = .bare := by
        rw [Json.namesInside_eq, member?_aggs_body]
        rfl
      show (Json.record [(request.name, request.body)]).namesOf = _
      rw [namesOf_record, List.map_singleton, Prod.map_apply, plain]
      rfl

/-- The names of some written requests are those under which they are looked up. -/
theorem map_members (requests : List Request) :
    (members requests).map (Prod.map id Json.namesInside) = namesOfAll requests := by
  cases requests with
  | nil =>
    rw [members, namesOfAll]
    rfl
  | cons request rest =>
    rw [members, namesOfAll, List.map_cons, map_members rest, Prod.map_apply, id_eq,
      namesInside_json request]

end

/-- **What is written and what is looked up is one tree of names.** -/
theorem namesOf_level (requests : List Request) : (level requests).namesOf = names requests := by
  rw [level, namesOf_record, map_members, names]

/-- **A level is written without loss**: each request of it has one member, under its name and with
its own rendering. -/
theorem level_eq_object {requests : List Request} (distinct : (requests.map outerName).Nodup) :
    ∃ written, level requests = .object written ∧
      written.Perm (requests.map fun request => (request.outerName, request.json)) := by
  refine ⟨_, rfl, ?_⟩
  rw [members_eq]
  apply Dict.perm_ofList
  rw [List.map_map]
  exact distinct

end Request

/-! ### Responses along a tree -/

/-- What an answer has inside, level by level: in each bucket of terms what the item of the bucket
answers, and in a filter what the document of the filter answers. Other answers have nothing
inside. -/
def Outcome.InsideRead (reads : Json → Outcomes → Prop) (nothing : Prop) (body : Json) :
    Outcome → Prop
  | .terms buckets => ∃ items, body.member? "buckets" = some (.array items) ∧
      List.Forall₂ (fun item bucket => reads item bucket.outcomes) items buckets
  | .filter _ inside => reads body inside
  | _ => nothing

/-- A name is answered exactly if there is a member of that name. -/
def Outcome.ReadAt (reads : Json → Outcomes → Prop) (nothing : Prop) :
    Option Json → Option Outcome → Prop
  | none, answer => answer = none
  | some body, answer => ∃ outcome, answer = some outcome ∧ outcome.InsideRead reads nothing body

namespace NameTree

mutual

/-- **A level of a response is answered name by name along a tree**: there are answers under the
names of the tree alone, under each of these exactly if the level has a member of that name, and
what an answer has inside is answered along the tree inside. -/
def Reads : NameTree → Json → Outcomes → Prop
  | .level members, document, outcomes =>
    (∀ name, name ∉ Dict.names members → Dict.find? name outcomes = none) ∧
      AllRead members document outcomes

/-- The names of some members of a tree are answered. -/
def AllRead : List (String × NameTree) → Json → Outcomes → Prop
  | [], _, _ => True
  | (name, inside) :: rest, document, outcomes =>
    Outcome.ReadAt (Reads inside) (inside = .bare) (document.member? name)
      (Dict.find? name outcomes) ∧
      AllRead rest document outcomes

end

theorem allRead_iff {members : List (String × NameTree)} {document : Json} {outcomes : Outcomes} :
    AllRead members document outcomes ↔
      ∀ pair ∈ members, Outcome.ReadAt pair.2.Reads (pair.2 = .bare) (document.member? pair.1)
        (Dict.find? pair.1 outcomes) := by
  induction members with
  | nil =>
    rw [AllRead]
    exact ⟨fun _ => nofun, fun _ => trivial⟩
  | cons head rest later => rw [AllRead, later, List.forall_mem_cons]

/-- Where nothing is looked up there are no answers. -/
theorem bare_reads (document : Json) : bare.Reads document [] := by
  rw [bare, Reads, AllRead]
  exact ⟨fun _ _ => rfl, trivial⟩

end NameTree

namespace Request

/-- What is inside an answer to a request is answered along the names that are looked up there. -/
def ReadsInside (request : Request) : Prop :=
  ∀ body outcome, Outcome.ofRequest request body = .ok outcome →
    outcome.InsideRead request.namesInside.Reads (request.namesInside = .bare) body

/-- **A level is answered along the names of its requests**, if the inside of each answer is. -/
theorem reads_of_ofLevel {requests : List Request} {document : Json} {outcomes : Outcomes}
    (distinct : (requests.map outerName).Nodup) (each : ∀ request ∈ requests, request.ReadsInside)
    (read : Outcome.ofLevel requests document = .ok outcomes) :
    (names requests).Reads document outcomes := by
  have listed : (namesOfAll requests).map Prod.fst = requests.map outerName := by
    rw [namesOfAll_eq, List.map_map]
    rfl
  have kept : (Dict.ofList (namesOfAll requests)).Perm (namesOfAll requests) :=
    Dict.perm_ofList (listed.symm ▸ distinct)
  rw [names, NameTree.Reads, NameTree.allRead_iff]
  constructor
  · intro name absent
    have unasked : name ∉ requests.map outerName := by
      rw [← listed]
      exact fun asked => absent ((kept.map Prod.fst).mem_iff.mpr asked)
    obtain ⟨members, _, collected⟩ := Outcome.ofLevel_eq_ok.mp read
    exact Outcome.collect_of_not_mem unasked collected
  · intro pair member
    rw [kept.mem_iff, namesOfAll_eq] at member
    obtain ⟨request, asked, rfl⟩ := List.mem_map.mp member
    have answered := Outcome.find?_of_ofLevel distinct read asked
    show Outcome.ReadAt _ _ (document.member? request.outerName)
        (Dict.find? request.outerName outcomes)
    cases held : document.member? request.outerName with
    | none =>
      rw [held, mapM_none, Except.ok.injEq] at answered
      exact answered.symm
    | some body =>
      rw [held, mapM_some_eq_ok] at answered
      obtain ⟨outcome, decoded, found⟩ := answered
      exact ⟨outcome, found, each request asked body outcome decoded⟩

/-- A measure by itself has nothing inside its answer, also not in the buckets of different
values. -/
theorem readsInside_plain {request : MeasureRequest} (plain : request.scope = none) :
    (measure request).ReadsInside := by
  intro body outcome read
  rw [Outcome.ofRequest, Outcome.ofMeasureRequest, plain] at read
  rw [namesInside, plain]
  cases outcome with
  | terms buckets =>
    cases kind : request.measure with
    | distinct =>
      rw [kind] at read
      obtain ⟨items, found, listed, same, paired⟩ := Outcome.terms_of_termsOf read
      cases same
      refine ⟨items, listed, paired.imp fun item bucket made => ?_⟩
      obtain ⟨_, _, empty⟩ := map_eq_ok.mp (Outcome.bucketOf_eq_ok.mp made).2.2
      rw [← empty]
      exact NameTree.bare_reads item
    | _ =>
      rw [kind] at read
      obtain ⟨_, _, same⟩ := map_eq_ok.mp read
      cases same
  | filter docCount inside => exact (Outcome.ofMeasure_ne_filter read).elim
  | _ => rfl

/-- A measure with a filter has the measure by itself inside. -/
theorem readsInside_measure (request : MeasureRequest) : (measure request).ReadsInside := by
  cases filtered : request.scope with
  | none => exact readsInside_plain filtered
  | some scope =>
    intro body outcome read
    rw [Outcome.ofRequest] at read
    obtain ⟨docCount, inside, rfl, _⟩ := MeasureSpec.filter_of_ofMeasureRequest filtered read
    have within := Outcome.ofLevel_of_filter filtered read
    have each : ∀ other ∈ [measure { request with scope := none }], other.ReadsInside := by
      intro other member
      cases List.mem_singleton.mp member
      exact readsInside_plain rfl
    have single :
        names [measure { request with scope := none }] = namesInside (measure request) := by
      rw [names, namesInside, filtered, namesOfAll_eq, List.map_singleton, namesInside]
      rfl
    rw [← single]
    exact reads_of_ofLevel (List.nodup_singleton _) each within

/-- **The inside of every answer is answered along the names that are looked up there**, at any
depth. -/
theorem readsInside {around : List String} (request : Request)
    (apart : clash? around request = none) : request.ReadsInside := by
  induction request using inside_induction generalizing around with
  | measure request => exact readsInside_measure request
  | group name field size inner each =>
    obtain ⟨_, apartInside⟩ := clash?_group_eq_none.mp apart
    obtain ⟨distinct, passed⟩ := clashOfAll?_eq_none.mp apartInside
    intro body outcome read
    rw [Outcome.ofRequest] at read
    obtain ⟨items, buckets, listed, rfl, paired⟩ := Outcome.terms_of_termsOf read
    refine ⟨items, listed, paired.imp fun item bucket made => ?_⟩
    have inside := (Outcome.bucketOf_eq_ok.mp made).2.2
    rw [namesInside]
    exact reads_of_ofLevel distinct
      (fun other member => each other member (passed other member).2) inside

end Request

namespace Facet

/-- **Nothing is lost in writing, and answers stand where names were written.** In what is written
for accepted facets every level, at any depth, has exactly one member for each of its requests,
under its name and with its own rendering, and a request has something under `aggs` exactly if
something is looked up inside it. The names written, found by entering `aggs`, are those that are
looked up, and every response that can be read is answered along them, level by level. -/
theorem written_tree_is_read {settings : Settings} {facets : List Facet} {requests : List Request}
    (accepted : Request.ofFacets settings facets = .ok requests) :
    (∀ level, level = requests ∨ Request.Nested requests level →
      (level.map Request.outerName).Nodup ∧
        (∃ written, Request.level level = .object written ∧
          written.Perm (level.map fun request => (request.outerName, request.json))) ∧
        ∀ request ∈ level, request.json.member? "aggs" = request.aggs? ∧
          (request.aggs? = none ↔ request.namesInside = .bare)) ∧
      (Request.level requests).namesOf = Request.names requests ∧
      ∀ document outcomes, Outcome.ofLevel requests document = .ok outcomes →
        (Request.level requests).namesOf.Reads document outcomes := by
  have whole := accepted_iff.mpr accepted
  refine ⟨fun level within => ?_, Request.namesOf_level requests, fun document outcomes read => ?_⟩
  · have distinct : (level.map Request.outerName).Nodup := by
      rcases within with rfl | nested
      · exact whole.nodup
      · obtain ⟨_, _, _, _, acceptedInside⟩ := whole.level_of_nested nested
        exact acceptedInside.nodup
    exact ⟨distinct, Request.level_eq_object distinct, fun request _ =>
      ⟨request.member?_aggs_json, Request.aggs?_eq_none⟩⟩
  · obtain ⟨distinct, passed⟩ := Request.clashOfAll?_eq_none.mp whole.apart
    rw [Request.namesOf_level]
    exact Request.reads_of_ofLevel distinct
      (fun request member => request.readsInside (passed request member).2)
      read

/-- Prices by kind are written inside the filter of sold cars, and that inside the grouping; there
they are looked up in every bucket. -/
theorem written_tree_is_read_pricesByKind :
    ∃ requests outcomes clause, Request.ofFacets {} pricesByKind = .ok requests ∧
      Outcome.ofLevel requests pricesLevel = .ok outcomes ∧
      Clause.ofPredicate (.flag ⟨"sold", .bool, true⟩) = .ok clause ∧
      (Request.level requests).namesOf = .level [("count_price", .bare), ("kind", .level
        [(FacetName.scope "sum_price" clause.fingerprint, .level [("sum_price", .bare)])])] ∧
      (Request.level requests).namesOf.Reads pricesLevel outcomes := by
  have found : ∃ requests clause, Request.ofFacets {} pricesByKind = .ok requests ∧
      Clause.ofPredicate (.flag ⟨"sold", .bool, true⟩) = .ok clause ∧
      Request.names requests = .level [("count_price", .bare), ("kind", .level
        [(FacetName.scope "sum_price" clause.fingerprint, .level [("sum_price", .bare)])])] :=
    ⟨_, _, rfl, rfl, rfl⟩
  obtain ⟨requests, clause, accepted, compiled, tree⟩ := found
  have read : (Request.ofFacets {} pricesByKind >>= fun requests =>
      Outcome.ofLevel requests pricesLevel).isOk = true := by decide +kernel
  rw [accepted, ok_bind] at read
  obtain ⟨_, names, reads⟩ := written_tree_is_read accepted
  cases level : Outcome.ofLevel requests pricesLevel with
  | error failure =>
    rw [level] at read
    cases read
  | ok outcomes =>
    exact ⟨requests, outcomes, clause, accepted, level, compiled, names.trans tree, reads _ _ level⟩

end Facet

end FacetQuery
