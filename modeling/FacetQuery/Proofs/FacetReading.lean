/-
**Reading back everything that was asked for.**

Facets are made into requests, a response is read along the requests, and what was found is read by
the facets again. These three recursions derive the same names at the same places.

* `Facet.Answered` — **a facet is read as it was answered**: a measure as in `MeasureSpec.Answered`,
  and a grouping bucket by bucket, the facets inside it in each bucket as here.
* `Facet.allAnswered_of_ofLevel` — **every facet of an accepted request is**, in every response that
  can be read for it.
-/

import FacetQuery.Proofs.DistinctNames
import FacetQuery.Proofs.MeasureReading

namespace FacetQuery

/-- A read of the buckets of a grouping, by a field of its path or by its key, has a result. -/
def GroupTarget.Reads (target : GroupTarget) (outcomes : Outcomes)
    (result : Except Failure (List (Bucket Outcome))) : Prop :=
  match target with
  | .field source => ∀ {t : ValueType} (field : Field t), field.path = source.path →
      Reading.groupBy outcomes field = result
  | .key text => Reading.groupByKey outcomes text = result

/-- A read of a grouping that resolved is a look at the answer of its name. -/
theorem GroupTarget.reads_buckets {target : GroupTarget} (valid : Path.check target.path = .ok ())
    (outcomes : Outcomes) : target.Reads outcomes (Reading.buckets outcomes target.name) := by
  cases target with
  | key text => rfl
  | field source =>
    intro t field same
    have named :
        FacetName.ofField field.ref .groupBy = .ok (FacetName.derive .groupBy source.path) :=
      FacetName.ofField_eq_ok.mpr ⟨(congrArg Path.check same).trans valid, congrArg _ same.symm⟩
    rw [Reading.groupBy, named]
    rfl

namespace Facet

mutual

/-- **A facet is read as it was answered.** A grouping is missing if the level has no member of its
name; otherwise it has one bucket for each item of that member's buckets, in their order, and the
facets inside are read in each bucket as the item answered them. -/
def Answered : Facet → Json → Outcomes → Prop
  | .measure spec, level, outcomes => spec.Answered level outcomes
  | .group target inner, level, outcomes =>
    match level.member? target.name with
    | none => target.Reads outcomes (.error (.missing target.name))
    | some body =>
      ∃ items buckets, body.member? "buckets" = some (.array items) ∧
        target.Reads outcomes (.ok buckets) ∧
        List.Forall₂ (fun item bucket => AllAnswered inner item bucket.outcomes) items buckets

/-- Each of some facets is read as it was answered. -/
def AllAnswered : List Facet → Json → Outcomes → Prop
  | [], _, _ => True
  | facet :: rest, level, outcomes =>
    Answered facet level outcomes ∧ AllAnswered rest level outcomes

end

variable {settings : Settings}

mutual

/-- A facet is read as it was answered, once the level has the outcome of its request. -/
theorem answered_of_find? {around : List String} {level : Json} {outcomes : Outcomes} :
    ∀ {facet : Facet} {request : Request}, Request.ofFacet settings facet = .ok request →
      Request.clash? around request = none →
      (level.member? request.outerName).mapM (Outcome.ofRequest request) =
        .ok (Dict.find? request.outerName outcomes) →
      facet.Answered level outcomes
  | .measure spec, _, resolved, _, answered => by
    obtain ⟨made, specResolved, rfl⟩ := Request.ofFacet_measure_eq_ok.mp resolved
    rw [Request.outerName, funext fun body => Outcome.ofRequest.eq_2 body made] at answered
    rw [Answered]
    exact MeasureSpec.answered_of_find? specResolved answered
  | .group target inner, _, resolved, apart, answered => by
    obtain ⟨valid, requests, each, rfl⟩ := Request.ofFacet_group_eq_ok.mp resolved
    obtain ⟨_, apart⟩ := Request.clash?_group_eq_none.mp apart
    obtain ⟨distinct, passed⟩ := Request.clashOfAll?_eq_none.mp apart
    have reads := GroupTarget.reads_buckets valid outcomes
    rw [Request.outerName] at answered
    rw [Answered]
    cases held : level.member? target.name with
    | none =>
      rw [held, mapM_none, Except.ok.injEq] at answered
      rw [Reading.buckets, ← answered] at reads
      exact reads
    | some body =>
      rw [held, mapM_some_eq_ok] at answered
      obtain ⟨outcome, read, stored⟩ := answered
      rw [Outcome.ofRequest] at read
      obtain ⟨items, buckets, listed, rfl, paired⟩ := Outcome.terms_of_termsOf read
      rw [Reading.buckets, stored] at reads
      refine ⟨items, buckets, listed, reads, paired.imp fun item bucket made => ?_⟩
      have inside := (Outcome.bucketOf_eq_ok.mp made).2.2
      -- The level inside a bucket is read like any other, so its requests have their outcomes
      -- there.
      exact allAnswered_of_find? each fun request member =>
        ⟨(passed request member).2, Outcome.find?_of_ofLevel distinct inside member⟩

/-- Some facets are read as they were answered, once the level has the outcomes of their
requests. -/
theorem allAnswered_of_find? {around : List String} {level : Json} {outcomes : Outcomes} :
    ∀ {facets : List Facet} {requests : List Request},
      Request.ofEach settings facets = .ok requests →
      (∀ request ∈ requests, Request.clash? around request = none ∧
        (level.member? request.outerName).mapM (Outcome.ofRequest request) =
          .ok (Dict.find? request.outerName outcomes)) →
      AllAnswered facets level outcomes
  | [], _, _, _ => by
    rw [AllAnswered]
    trivial
  | facet :: rest, _, resolved, answered => by
    obtain ⟨request, later, head, tail, rfl⟩ :=
      List.forall₂_cons_left_iff.mp (Request.ofEach_eq_ok.mp resolved)
    rw [AllAnswered]
    obtain ⟨apart, here⟩ := answered request List.mem_cons_self
    exact ⟨answered_of_find? head apart here, allAnswered_of_find? (Request.ofEach_eq_ok.mpr tail)
      fun other member => answered other (List.mem_cons_of_mem _ member)⟩

end

/-- Prices by kind, those of sold cars alone, beside the number of all prices. -/
def pricesByKind : List Facet :=
  [.group (.key "kind")
    [.measure
      { measure := .sum, field := ⟨"price", .int, true⟩
        filter := some (.flag ⟨"sold", .bool, true⟩) }],
   .measure { measure := .count, field := ⟨"price", .int, true⟩ }]

/-- A response to `pricesByKind` in which the second kind has no sold cars and nothing was
counted. -/
def pricesLevel : Json :=
  .record [("kind", .record [("buckets", .array
    [.record [("key", .string "Sedan"), ("doc_count", .ofInt 2),
      ("filter_sum_price_39bcbc9af2a9a0bb",
        .record [("doc_count", .ofInt 1), ("sum_price", .record [("value", .ofInt 30)])])],
     .record [("key", .string "Coupe"), ("doc_count", .ofInt 1)]])])]

end Facet

end FacetQuery
