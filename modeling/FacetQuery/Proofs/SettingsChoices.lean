/-
**What settings choose.**

A session's settings give sizes to groupings and to distinct values, and percents to percentiles
that name none. They choose nothing else, so facets that are accepted under some settings are
accepted under all, and what was asked for under one choice can be read under another.

* `Facet.Alike`, `Facet.AlikeAll` — **requests of the same facets that differ in these choices
  alone.**
* `Facet.endAlike_ofEach` — under any two settings facets resolve to such requests, or fail in one
  way.
* `Facet.AlikeAll.clashOfAll?_eq` — **their names clash alike.**
* `Facet.AlikeAll.collect_eq` — **they read the same answers**, or fail to in the same way.
* `Facet.ofFacets_apart` — the whole way from facets to answers under two settings.
-/

import FacetQuery.Facet.OfFacets
import FacetQuery.Outcome.OfResponse
import FacetQuery.Proofs.Steps

namespace FacetQuery

namespace Facet

mutual

/-- **Requests of a facet that differ in what settings choose**: in sizes, and in the percents of
percentiles that name none. -/
inductive Alike : Facet → Request → Request → Prop
  | group {target : GroupTarget} {inner : List Facet} {first second : List Request}
      (name field : String)
      (size other : UInt32) (levels : AlikeAll inner first second) :
      Alike (.group target inner) (.group name field size first) (.group name field other second)
  | measure {spec : MeasureSpec} (request : MeasureRequest) (percents : List Double)
      (size : Option UInt32)
      (sized : size.isSome = request.size.isSome)
      (named : ¬ (spec.measure = .percentiles ∧ spec.percents = []) → percents = request.percents) :
      Alike (.measure spec) (.measure request)
        (.measure { request with percents := percents, size := size })

/-- Requests of some facets that differ, one by one, in what settings choose. -/
inductive AlikeAll : List Facet → List Request → List Request → Prop
  | nil : AlikeAll [] [] []
  | cons {facet : Facet} {request other : Request} {facets : List Facet}
      {requests others : List Request}
      (head : Alike facet request other) (tail : AlikeAll facets requests others) :
      AlikeAll (facet :: facets) (request :: requests) (other :: others)

end

/-! ### Resolution -/

/-- A measure under two settings. -/
theorem endAlike_resolve (settings other : Settings) (spec : MeasureSpec) :
    EndAlike (fun first second => Alike (.measure spec) (.measure first) (.measure second))
      (spec.resolve settings) (spec.resolve other) := by
  unfold MeasureSpec.resolve
  refine (EndAlike.refl _).bind fun name _ same => ?_
  subst same
  refine (EndAlike.refl _).bind fun scope _ same => ?_
  subst same
  refine (EndAlike.refl _).bind fun order _ same => ?_
  subst same
  refine .ok (.measure _ _ _ ?_ fun named => ?_)
  · split <;> rfl
  · have named : ¬ (spec.measure = .percentiles ∧ spec.percents.isEmpty = true) := by
      rwa [List.isEmpty_iff]
    rw [if_neg named, if_neg named]

mutual

/-- **A facet under two settings** resolves to requests that differ in what settings choose, or to
none, for the same reason. -/
theorem endAlike_ofFacet (settings other : Settings) (facet : Facet) :
    EndAlike (Alike facet) (Request.ofFacet settings facet) (Request.ofFacet other facet) := by
  cases facet with
  | group target inner =>
    rw [Request.ofFacet, Request.ofFacet]
    refine (EndAlike.refl target.resolve).bind fun resolved _ same => ?_
    subst same
    refine (endAlike_ofEach settings other inner).bind fun first second levels => ?_
    exact .ok (.group _ _ _ _ levels)
  | measure spec =>
    rw [Request.ofFacet, Request.ofFacet]
    exact (endAlike_resolve settings other spec).bind fun first second alike => .ok alike

theorem endAlike_ofEach (settings other : Settings) (facets : List Facet) :
    EndAlike (AlikeAll facets) (Request.ofEach settings facets) (Request.ofEach other facets) := by
  cases facets with
  | nil =>
    rw [Request.ofEach, Request.ofEach]
    exact .ok .nil
  | cons facet rest =>
    rw [Request.ofEach, Request.ofEach]
    refine (endAlike_ofFacet settings other facet).bind fun first second head => ?_
    refine (endAlike_ofEach settings other rest).bind fun later others tail => ?_
    exact .ok (.cons head tail)

end

/-! ### Names -/

variable {facet : Facet} {request other : Request} {facets : List Facet}
  {requests others : List Request}

theorem Alike.outerName_eq (alike : Alike facet request other) :
    other.outerName = request.outerName := by
  cases alike with
  | group => rfl
  | measure => rfl

mutual

theorem Alike.clash?_eq (around : List String) {facet : Facet} {request other : Request}
    (alike : Alike facet request other) :
    Request.clash? around other = Request.clash? around request := by
  cases alike with
  | group name field size other levels =>
    rw [Request.clash?, Request.clash?, levels.clashOfAll?_eq]
  | measure request percents size => rw [Request.clash?, Request.clash?]

/-- **Names clash alike** in requests that differ in what settings choose. -/
theorem AlikeAll.clashOfAll?_eq (around seen : List String) {facets : List Facet}
    {requests others : List Request} (alike : AlikeAll facets requests others) :
    Request.clashOfAll? around seen others = Request.clashOfAll? around seen requests := by
  cases alike with
  | nil => rfl
  | cons head tail =>
    rw [Request.clashOfAll?, Request.clashOfAll?, head.outerName_eq, head.clash?_eq around,
      tail.clashOfAll?_eq around]

end

/-- Some facets under two settings: what is accepted under one is accepted under the other. -/
theorem endAlike_ofFacets (settings other : Settings) (facets : List Facet) :
    EndAlike (AlikeAll facets) (Request.ofFacets settings facets)
      (Request.ofFacets other facets) := by
  unfold Request.ofFacets
  refine (endAlike_ofEach settings other facets).bind fun requests others alike => ?_
  have checked : Request.checkNames others = Request.checkNames requests := by
    unfold Request.checkNames
    rw [alike.clashOfAll?_eq]
  rw [checked]
  exact (EndAlike.refl _).bind fun _ _ _ => .ok alike

/-! ### Answers -/

mutual

theorem Alike.ofRequest_eq {facet : Facet} {request other : Request}
    (alike : Alike facet request other) (body : Json) :
    Outcome.ofRequest other body = Outcome.ofRequest request body := by
  cases alike with
  | @group _ _ first second name field size other levels =>
    have same : ∀ members, Outcome.collect second members [] = Outcome.collect first members [] :=
      fun members => levels.collect_eq members []
    simp only [Outcome.ofRequest, same]
  | measure request percents size =>
    rw [Outcome.ofRequest, Outcome.ofRequest]
    rfl

/-- **Answers are read alike** for requests that differ in what settings choose. -/
theorem AlikeAll.collect_eq {facets : List Facet} {requests others : List Request}
    (alike : AlikeAll facets requests others) (members : Dict Json) (found : Outcomes) :
    Outcome.collect others members found = Outcome.collect requests members found := by
  cases alike with
  | nil => rfl
  | cons head tail =>
    rw [Outcome.collect, Outcome.collect, head.outerName_eq]
    split
    · exact tail.collect_eq members found
    · simp only [head.ofRequest_eq, tail.collect_eq members]

end

/-- **Settings choose sizes and percents and nothing else.** Under any two settings some facets are
refused for the same reason, or they become requests that differ in no more than sizes and the
percents of percentiles that name none; and then whatever the backend sends is read as the same
answers, or not read for the same reason. -/
theorem ofFacets_apart (facets : List Facet) (settings other : Settings) :
    (∃ failure, Request.ofFacets settings facets = .error failure ∧
      Request.ofFacets other facets = .error failure) ∨
    ∃ requests others, Request.ofFacets settings facets = .ok requests ∧
      Request.ofFacets other facets = .ok others ∧ AlikeAll facets requests others ∧
      ∀ body, Outcome.ofLevel others body = Outcome.ofLevel requests body := by
  rcases (endAlike_ofFacets settings other facets).cases with refused | ⟨requests, others,
      first, second, alike⟩
  · exact .inl refused
  · refine .inr ⟨requests, others, first, second, alike, fun body => ?_⟩
    unfold Outcome.ofLevel
    simp only [alike.collect_eq]

end Facet

end FacetQuery
