/-
**What is read of a response.**

A response may hold more than was asked for: other aggregations beside the requested ones, and other
members in the bodies, the buckets and the filters that answer these. Reading follows the requests
and looks at none of it, so two responses that differ in no more than that are read as the same
answers, or refused for the same reason.

* `Json.SameUpTo` — **documents that are the same up to some members**; `Json.SameTerms`, the same
  for bodies with buckets.
* `Request.SameFor`, `Request.SameForAll` — **documents that are the same for what was requested**,
  whatever else their objects hold, at every depth.
* `Outcome.bucketOf_eq`, `Outcome.termsOf_eq`, `Measure.SameFor.ofMeasure_eq`,
  `Request.SameFor.ofRequest_eq` — each reader reads alike what is the same for it.
* `Request.unrequested_unread` — **what was not requested is not read.**
-/

import FacetQuery.Proofs.SiblingOrder

namespace FacetQuery

/-! ### Members side by side -/

section Members

variable {α β γ δ : Type}

theorem rel_mono {R S : α → β → Prop} {first : Option α} {second : Option β}
    (same : Option.Rel R first second) (wide : ∀ a b, R a b → S a b) :
    Option.Rel S first second := by
  cases same with
  | none => exact .none
  | some here => exact .some (wide _ _ here)

theorem rel_bind {R : α → β → Prop} {S : γ → δ → Prop} {first : Option α} {second : Option β}
    {f : α → Option γ} {g : β → Option δ} (same : Option.Rel R first second)
    (alike : ∀ a b, R a b → Option.Rel S (f a) (g b)) :
    Option.Rel S (first.bind f) (second.bind g) := by
  cases same with
  | none => exact .none
  | some here => exact alike _ _ here

theorem eq_of_rel {first second : Option α} (same : Option.Rel Eq first second) :
    first = second := by
  cases same with
  | none => rfl
  | some here => exact congrArg some here

theorem rel_refl {R : α → α → Prop} (refl : ∀ a, R a a) (value : Option α) :
    Option.Rel R value value := by
  cases value with
  | none => exact .none
  | some value => exact .some (refl value)

end Members

namespace Json

/-! ### Documents up to some members -/

/-- **Two documents that are the same up to some members**: they are one document, or they are
objects, whose members are related. -/
inductive SameUpTo (related : Dict Json → Dict Json → Prop) : Json → Json → Prop
  | refl (document : Json) : SameUpTo related document document
  | objects {members others : Dict Json} (alike : related members others) :
      SameUpTo related (.object members) (.object others)

/-- Two documents that are the same up to the items of an array, which are related one by one. -/
inductive SameItems (related : Json → Json → Prop) : Json → Json → Prop
  | refl (document : Json) : SameItems related document document
  | arrays {items others : List Json} (each : List.Forall₂ related items others) :
      SameItems related (.array items) (.array others)

/-- Two objects that are the same for a reader: under names of its own each has the other's members,
unless a request has such a name, and what is read for requests is related. -/
structure SameBeside (own asked : List String) (related : Dict Json → Dict Json → Prop)
    (members others : Dict Json) : Prop where
  own : ∀ name ∈ own, name ∉ asked → Dict.find? name members = Dict.find? name others
  asked : related members others

/-- **Two bodies with buckets** that are the same up to members other than the buckets, and these up
to members that are neither of the bucket's own nor requested. -/
def SameTerms (asked : List String) (related : Dict Json → Dict Json → Prop) : Json → Json → Prop :=
  SameUpTo fun members others =>
    Option.Rel (SameItems (SameUpTo (SameBeside Outcome.ownMembers asked related)))
      (Dict.find? "buckets" members) (Dict.find? "buckets" others)

/-- Two documents that are one, or are objects both. -/
abbrev SameShape : Json → Json → Prop := SameUpTo fun _ _ => True

variable {related : Dict Json → Dict Json → Prop} {document other : Json}

theorem SameUpTo.sameShape (same : SameUpTo related document other) : SameShape document other := by
  cases same with
  | refl => exact .refl document
  | objects _ => exact .objects trivial

theorem SameItems.items? {R : Json → Json → Prop} (refl : ∀ item, R item item)
    (same : SameItems R document other) :
    Option.Rel (List.Forall₂ R) document.items? other.items? := by
  cases same with
  | refl => exact rel_refl (fun _ => List.forall₂_same.mpr fun item _ => refl item) document.items?
  | arrays each => exact .some each

/-- The members under a reader's own names have the same shape, also those that a request reads. -/
theorem SameBeside.sameShape {own asked : List String} {members others : Dict Json}
    (same : SameBeside own asked related members others)
    (shapes : ∀ name ∈ asked,
      Option.Rel SameShape (Dict.find? name members) (Dict.find? name others)) {name : String}
    (member : name ∈ own) :
    Option.Rel SameShape (Dict.find? name members) (Dict.find? name others) := by
  by_cases read : name ∈ asked
  · exact shapes name read
  · rw [same.own name member read]
    exact rel_refl SameUpTo.refl _

end Json

/-! ### Documents for requests -/

/-- The members that are read of the body of a measure, if it has no buckets. -/
def Measure.ownMembers : Measure → List String
  | .sum | .average | .min | .max | .count | .cardinality => ["value"]
  | .percentiles => ["values"]
  | .stats => ["count", "min", "max", "avg", "sum", "sum_of_squares", "variance", "std_deviation"]
  | .firstBy => ["hits"]
  | .distinct => []

/-- Two documents that are the same for a measure. -/
def Measure.SameFor : Measure → Json → Json → Prop
  | .distinct => Json.SameTerms [] fun _ _ => True
  | measure => Json.SameUpTo fun members others =>
      ∀ name ∈ measure.ownMembers, Dict.find? name members = Dict.find? name others

/-- Two documents that are the same for a measure inside its filter, if it has one. -/
def MeasureRequest.SameFor (request : MeasureRequest) (document other : Json) : Prop :=
  match request.scope with
  | none => request.measure.SameFor document other
  | some _ => Json.SameUpTo (Json.SameBeside ["doc_count"] [request.name] fun members others =>
      Option.Rel request.measure.SameFor (Dict.find? request.name members)
        (Dict.find? request.name others))
      document other

namespace Request

mutual

/-- **Two documents that are the same for a request**, whatever else their objects hold, at every
depth. -/
def SameFor : Request → Json → Json → Prop
  | .group _ _ _ inner, document, other =>
    Json.SameTerms (inner.map outerName) (SameForAll inner) document other
  | .measure request, document, other => request.SameFor document other

/-- Two objects whose members under the names of some requests are the same for these. -/
def SameForAll : List Request → Dict Json → Dict Json → Prop
  | [], _, _ => True
  | request :: rest, members, others =>
    Option.Rel (SameFor request) (Dict.find? request.outerName members)
      (Dict.find? request.outerName others) ∧
      SameForAll rest members others

end

theorem sameForAll_iff {requests : List Request} {members others : Dict Json} :
    SameForAll requests members others ↔ ∀ request ∈ requests,
      Option.Rel request.SameFor (Dict.find? request.outerName members)
        (Dict.find? request.outerName others) := by
  induction requests with
  | nil =>
    rw [SameForAll]
    exact iff_of_true trivial nofun
  | cons request rest later => rw [SameForAll, List.forall_mem_cons, later]

end Request

/-! ### Buckets -/

namespace Outcome

open Json

variable {name : String} {a b : Json} {related : Dict Json → Dict Json → Prop} {asked : List String}
  {level : Json → Except Failure Outcomes}

/-- What is read of a member that is no object is read alike. -/
theorem bind_eq_of_sameShape {α : Type} {read : Json → Option α} {first second : Option Json}
    (noObject : ∀ members others, read (.object members) = read (.object others))
    (same : Option.Rel SameShape first second) : first.bind read = second.bind read := by
  refine eq_of_rel (rel_bind same fun a b shape => ?_)
  cases shape with
  | refl => exact rel_refl (fun _ => rfl) _
  | objects _ => exact noObject _ _ ▸ rel_refl (fun _ => rfl) _

theorem docCount_eq_of_sameShape
    (same : Option.Rel SameShape (a.member? "doc_count") (b.member? "doc_count")) :
    docCount name a = docCount name b := by
  have counted : (a.member? "doc_count").bind count? = (b.member? "doc_count").bind count? :=
    bind_eq_of_sameShape (fun _ _ => rfl) same
  unfold docCount countAt
  rw [counted]

theorem rawKey?_eq_of_sameShape (same : Option.Rel SameShape (a.member? "key") (b.member? "key")) :
    rawKey? a = rawKey? b := by
  unfold rawKey?
  generalize a.member? "key" = first at same
  generalize b.member? "key" = second at same
  cases same with
  | none => rfl
  | some shape => cases shape <;> rfl

theorem bucketKey_eq_of_sameShape (key : Option.Rel SameShape (a.member? "key") (b.member? "key"))
    (formatted : Option.Rel SameShape (a.member? "key_as_string") (b.member? "key_as_string")) :
    bucketKey name a = bucketKey name b := by
  have text : (a.member? "key_as_string").bind string? = (b.member? "key_as_string").bind string? :=
    bind_eq_of_sameShape (fun _ _ => rfl) formatted
  unfold bucketKey
  rw [rawKey?_eq_of_sameShape key, text]

section Levels

variable
  (shapes : ∀ members others, related members others → ∀ name ∈ asked,
    Option.Rel SameShape (Dict.find? name members) (Dict.find? name others))
  (inside : ∀ members others, related members others →
    level (.object members) = level (.object others))

include shapes inside

/-- **Buckets are read alike** if they are the same up to members that are neither read as their own
nor as answers. -/
theorem bucketOf_eq (same : SameUpTo (SameBeside ownMembers asked related) a b) :
    bucketOf name level a = bucketOf name level b := by
  cases same with
  | refl => rfl
  | @objects members others alike =>
    have own : ∀ member ∈ ownMembers,
        Option.Rel SameShape ((object members).member? member) ((object others).member? member) :=
      fun member there => alike.sameShape (shapes members others alike.asked) there
    have keys : bucketKey name (.object members) = bucketKey name (.object others) :=
      bucketKey_eq_of_sameShape (own _ (by decide)) (own _ (by decide))
    have counts : docCount name (.object members) = docCount name (.object others) :=
      docCount_eq_of_sameShape (own _ (by decide))
    unfold bucketOf
    rw [keys, counts, inside members others alike.asked]

/-- **Terms are read alike** if their buckets are. -/
theorem termsOf_eq (same : SameTerms asked related a b) :
    termsOf name level a = termsOf name level b := by
  cases same with
  | refl => rfl
  | @objects members others alike =>
    have listed : Option.Rel _ (((object members).member? "buckets").bind items?)
        (((object others).member? "buckets").bind items?) :=
      rel_bind alike fun _ _ items => items.items? .refl
    unfold termsOf bucketItems
    generalize ((object members).member? "buckets").bind items? = first at listed
    generalize ((object others).member? "buckets").bind items? = second at listed
    cases listed with
    | none => rfl
    | some each =>
      simp only [require, ok_bind]
      rw [mapM_eq_of_forall₂ each fun _ _ same => bucketOf_eq shapes inside same]

end Levels

/-- A measure without buckets is read from the members of its own. -/
theorem ofMeasure_eq_of_own {measure : Measure} {members others : Dict Json}
    (plain : measure ≠ .distinct)
    (same : ∀ name ∈ measure.ownMembers, Dict.find? name members = Dict.find? name others) :
    ofMeasure measure name (.object members) = ofMeasure measure name (.object others) := by
  have own : ∀ name ∈ measure.ownMembers,
      (object members).member? name = (object others).member? name := same
  cases measure with
  | distinct => exact absurd rfl plain
  | sum | average | min | max =>
    simp (disch := decide) only [ofMeasure, metricValue, members?, same]
  | count | cardinality => simp (disch := decide) only [ofMeasure, countAt, own]
  | percentiles => simp (disch := decide) only [ofMeasure, percentilesOf, own]
  | stats => simp (disch := decide) only [ofMeasure, statisticsOf, countAt, own]
  | firstBy =>
    have hits : (object members).descend? ["hits", "hits"] =
        (object others).descend? ["hits", "hits"] := by
      unfold descend?
      rw [List.foldlM_cons, List.foldlM_cons, own "hits" (by decide)]
    simp only [ofMeasure, hitSources, hits]

end Outcome

namespace Measure

variable {measure : Measure} {a b : Json}

/-- What is the same for a measure without buckets has the members of its own in common. -/
theorem SameFor.own (plain : measure ≠ .distinct) (same : measure.SameFor a b) :
    Json.SameUpTo (fun members others =>
      ∀ name ∈ measure.ownMembers, Dict.find? name members = Dict.find? name others) a b := by
  cases measure with
  | distinct => exact absurd rfl plain
  | _ => exact same

theorem SameFor.sameShape (same : measure.SameFor a b) : Json.SameShape a b := by
  by_cases buckets : measure = .distinct
  · subst buckets
    exact Json.SameUpTo.sameShape same
  · exact (SameFor.own buckets same).sameShape

/-- **A measure is answered alike** by documents that are the same for it. -/
theorem SameFor.ofMeasure_eq (same : measure.SameFor a b) (name : String) :
    Outcome.ofMeasure measure name a = Outcome.ofMeasure measure name b := by
  by_cases buckets : measure = .distinct
  · subst buckets
    exact Outcome.termsOf_eq nofun (fun _ _ _ => rfl) same
  · cases SameFor.own buckets same with
    | refl => rfl
    | objects own => exact Outcome.ofMeasure_eq_of_own buckets own

end Measure

namespace MeasureRequest

variable {request : MeasureRequest} {a b : Json}

theorem SameFor.sameShape (same : request.SameFor a b) : Json.SameShape a b := by
  unfold SameFor at same
  split at same
  · exact same.sameShape
  · exact Json.SameUpTo.sameShape same

/-- **A measure in a filter is answered alike** by documents that are the same for it. -/
theorem SameFor.ofMeasureRequest_eq (same : request.SameFor a b) :
    Outcome.ofMeasureRequest request a = Outcome.ofMeasureRequest request b := by
  unfold SameFor at same
  unfold Outcome.ofMeasureRequest
  cases around : request.scope with
  | none =>
    simp only [around] at same
    exact same.ofMeasure_eq request.name
  | some scope =>
    simp only [around] at same
    cases same with
    | refl => rfl
    | @objects members others alike =>
      have inside : Option.Rel request.measure.SameFor ((Json.object members).member? request.name)
          ((Json.object others).member? request.name) := alike.asked
      have shapes : ∀ name ∈ [request.name],
          Option.Rel Json.SameShape (Dict.find? name members) (Dict.find? name others) := by
        rw [List.forall_mem_singleton]
        exact rel_mono inside fun _ _ => Measure.SameFor.sameShape
      have counts :
          Outcome.docCount scope.name (.object members) =
          Outcome.docCount scope.name (.object others) :=
        Outcome.docCount_eq_of_sameShape (alike.sameShape shapes (by decide))
      simp only [counts]
      generalize (Json.object members).member? request.name = first at inside
      generalize (Json.object others).member? request.name = second at inside
      cases inside with
      | none => rfl
      | some here => simp only [here.ofMeasure_eq request.name]

end MeasureRequest

/-! ### Requests -/

namespace Request

variable {requests : List Request} {request : Request} {members others : Dict Json} {a b : Json}

theorem SameFor.sameShape (same : request.SameFor a b) : Json.SameShape a b := by
  cases request with
  | group =>
    rw [SameFor] at same
    exact Json.SameUpTo.sameShape same
  | measure request =>
    rw [SameFor] at same
    exact MeasureRequest.SameFor.sameShape same

theorem SameForAll.sameShape (same : SameForAll requests members others) :
    ∀ name ∈ requests.map outerName,
      Option.Rel Json.SameShape (Dict.find? name members) (Dict.find? name others) := by
  intro name asked
  obtain ⟨request, member, rfl⟩ := List.mem_map.mp asked
  exact rel_mono (sameForAll_iff.mp same request member) fun _ _ => SameFor.sameShape

/-- A level is answered alike by objects that are the same for its requests, if each of these is. -/
theorem SameForAll.collect_eq (same : SameForAll requests members others)
    (each : ∀ request ∈ requests, ∀ {a b}, request.SameFor a b →
      Outcome.ofRequest request a = Outcome.ofRequest request b) (found : Outcomes) :
    Outcome.collect requests members found = Outcome.collect requests others found := by
  induction requests generalizing found with
  | nil => rw [Outcome.collect, Outcome.collect]
  | cons request rest later =>
    rw [SameForAll] at same
    obtain ⟨here, behind⟩ := same
    obtain ⟨first, each⟩ := List.forall_mem_cons.mp each
    rw [Outcome.collect, Outcome.collect]
    generalize Dict.find? request.outerName members = body at here
    generalize Dict.find? request.outerName others = other at here
    cases here with
    | none => exact later behind each found
    | some alike =>
      simp only [first alike]
      exact congrArg _ (funext fun outcome => later behind each _)

/-- **A request is answered alike** by documents that are the same for it. -/
theorem SameFor.ofRequest_eq (same : request.SameFor a b) :
    Outcome.ofRequest request a = Outcome.ofRequest request b := by
  induction request using inside_induction generalizing a b with
  | measure request =>
    rw [SameFor] at same
    rw [Outcome.ofRequest, Outcome.ofRequest]
    exact MeasureRequest.SameFor.ofMeasureRequest_eq same
  | group name field size inner each =>
    rw [SameFor] at same
    rw [Outcome.ofRequest, Outcome.ofRequest]
    refine Outcome.termsOf_eq (fun _ _ => SameForAll.sameShape)
      (fun members others alike => ?_) same
    exact alike.collect_eq (fun request member _ _ => each request member) []

/-- **What was not requested is not read.** Two responses that are the same for some requests,
whatever else their objects hold beside the members that are read, are read as the same answers or
refused for the same reason. -/
theorem unrequested_unread (same : Json.SameUpTo (SameForAll requests) a b) :
    Outcome.ofLevel requests a = Outcome.ofLevel requests b := by
  cases same with
  | refl => rfl
  | objects alike => exact alike.collect_eq (fun _ _ _ _ => SameFor.ofRequest_eq) []

/-- The number of the prices of what was sold, for each kind. -/
def soldByKind : List Request :=
  [.group "kind" "kind" 10 [.measure ⟨"count_price", .count, "price",
    some ⟨"filter_count_price_sold", .test ⟨"sold", .eq, .bool true⟩⟩, [], none, none⟩]]

/-- An answer to this with something more in each of its objects. -/
def soldTrucks (more : List (String × Json)) : Json :=
  .record <| more ++ [("kind", .record <| more ++ [("buckets", .array [.record <| more ++
    [("key", .string "truck"), ("doc_count", .ofInt 2),
      ("filter_count_price_sold", .record <| more ++
        [("doc_count", .ofInt 1), ("count_price", .record <| more ++ [("value", .ofInt 1)])])]])])]

/-- That the search took a while, said in every object, changes nothing. -/
theorem unrequested_unread_soldTrucks :
    ∃ outcomes, Outcome.ofLevel soldByKind (soldTrucks []) = .ok outcomes ∧
      Outcome.ofLevel soldByKind (soldTrucks [("took", .ofInt 3)]) = .ok outcomes := by
  have answered : ∃ outcomes, Outcome.ofLevel soldByKind (soldTrucks []) = .ok outcomes := ⟨_, rfl⟩
  have same :
      Json.SameUpTo (SameForAll soldByKind) (soldTrucks []) (soldTrucks [("took", .ofInt 3)]) := by
    -- From the response down to the number, each object has one member more, under a name that
    -- nobody asked for.
    refine .objects ⟨.some (.objects (.some (.arrays (.cons (.objects ⟨?_, ?_⟩) .nil)))), trivial⟩
    · simp [Outcome.ownMembers, Dict.find?_ofList, Dict.find?]
    · refine ⟨.some (.objects ⟨?_, .some (.objects ?_)⟩), trivial⟩
      · simp [Dict.find?_ofList, Dict.find?]
      · simp [Measure.ownMembers, Dict.find?_ofList, Dict.find?]
  obtain ⟨outcomes, read⟩ := answered
  exact ⟨outcomes, read, (unrequested_unread same).symm.trans read⟩

end Request

end FacetQuery
