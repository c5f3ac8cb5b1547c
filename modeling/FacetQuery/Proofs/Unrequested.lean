/-
**What was not asked for.**

Every level of what was read from a response answers a level of the facets, also inside buckets and
filters, and it has answers only under the names that these facets have there. A read derives its
name from a field, a kind and a filter, so it finds nothing where that was not asked for. One thing
can come between: the key of a grouping is a name as it stands, and may be any name that a read
derives.

* `Facet.LevelRead` — **the levels of what was read**, each with the facets that it answers.
* `Facet.Answers`, `Facet.LevelRead.answers` — each of them is read for its facets.
* `Facet.missing_of_unrequested` — **what was not asked for is missing**, unless a key has its name.
-/

import FacetQuery.Proofs.FacetLevels
import FacetQuery.Proofs.LookupNames
import FacetQuery.Proofs.MeasureReading

namespace FacetQuery

/-! ### Outcomes with levels inside -/

namespace Outcome

/-- The buckets that answer a measure have nothing inside but are levels. -/
theorem bucket_of_ofMeasure {measure : Measure} {name : String} {body : Json}
    {buckets : List (Bucket Outcome)} (read : ofMeasure measure name body = .ok (.terms buckets)) :
    ∀ bucket ∈ buckets, bucket.outcomes = [] ∧ ∃ item, ofLevel [] item = .ok [] := by
  cases measure with
  | distinct =>
    obtain ⟨items, found, _, same, paired⟩ := terms_of_termsOf read
    cases same
    intro bucket member
    obtain ⟨item, _, made⟩ := exists_of_mem_right paired member
    obtain ⟨members, object, empty⟩ := map_eq_ok.mp (bucketOf_eq_ok.mp made).2.2
    refine ⟨empty.symm, item, ofLevel_eq_ok.mpr ⟨members, require_eq_ok.mp object, ?_⟩⟩
    rw [collect]
  | _ =>
    obtain ⟨_, _, same⟩ := map_eq_ok.mp read
    cases same

/-- No measure by itself is answered by a filter. -/
theorem ofMeasure_ne_filter {measure : Measure} {name : String} {body : Json} {docCount : UInt64}
    {inner : Outcomes} : ofMeasure measure name body ≠ .ok (.filter docCount inner) := by
  intro read
  cases measure with
  | distinct =>
    obtain ⟨_, _, _, same, _⟩ := terms_of_termsOf read
    cases same
  | _ =>
    obtain ⟨_, _, same⟩ := map_eq_ok.mp read
    cases same

/-- A level with one request has at most one answer. -/
theorem ofLevel_singleton {request : Request} {body : Json} {members : Dict Json}
    (object : body.members? = some members) :
    ofLevel [request] body =
      ((body.member? request.outerName).mapM (ofRequest request)).map fun answer =>
        answer.toList.map fun outcome => (request.outerName, outcome) := by
  have held := Json.member?_of_members? object request.outerName
  have opened : ofLevel [request] body = collect [request] members [] := by
    rw [ofLevel, levelMembers, object]
    rfl
  rw [opened, collect, held]
  cases Dict.find? request.outerName members with
  | none =>
    rw [collect]
    rfl
  | some document =>
    rw [Option.mapM_some]
    simp only [collect]
    cases ofRequest request document <;> rfl

/-- A measure with a filter has a level inside, in which it is answered as if it had none. -/
theorem ofLevel_of_filter {request : MeasureRequest} {around : Scope} {body : Json}
    {docCount : UInt64} {inner : Outcomes} (filtered : request.scope = some around)
    (read : ofMeasureRequest request body = .ok (.filter docCount inner)) :
    ofLevel [.measure { request with scope := none }] body = .ok inner := by
  obtain ⟨count, answer, counted, decoded, same⟩ := (ofMeasureRequest_eq_ok filtered).mp read
  cases same
  -- A filter has a count, so what answers it is an object.
  obtain ⟨value, held, _⟩ := Option.bind_eq_some_iff.mp (require_eq_ok.mp counted)
  obtain ⟨members, object, _⟩ := Option.bind_eq_some_iff.mp held
  have named : Request.outerName (.measure { request with scope := none }) = request.name := rfl
  have same : ofRequest (.measure { request with scope := none }) =
      ofMeasure request.measure request.name := by
    funext document
    rw [ofRequest]
    rfl
  rw [ofLevel_singleton object, named, same, decoded]
  cases answer <;> rfl

end Outcome

namespace Facet

/-! ### The levels of what was read -/

/-- **The levels of what was read for some facets**, each with the facets that it answers: the
whole, the buckets of a grouping, the inside of a filter, where the measure stands without it, and
the buckets of a measure, for which nothing was asked. -/
inductive LevelRead (facets : List Facet) (outcomes : Outcomes) : List Facet → Outcomes → Prop
  | whole : LevelRead facets outcomes facets outcomes
  | bucket {level inner : List Facet} {here : Outcomes} {target : GroupTarget}
      {buckets : List (Bucket Outcome)} {bucket : Bucket Outcome} :
      LevelRead facets outcomes level here → .group target inner ∈ level →
      Dict.find? target.name here = some (.terms buckets) → bucket ∈ buckets →
      LevelRead facets outcomes inner bucket.outcomes
  | filter {level : List Facet} {here inside : Outcomes} {spec : MeasureSpec} {docCount : UInt64} :
      LevelRead facets outcomes level here → .measure spec ∈ level →
      Dict.find? (outerName (.measure spec)) here = some (.filter docCount inside) →
      LevelRead facets outcomes [.measure { spec with filter := none }] inside
  | item {level : List Facet} {here : Outcomes} {spec : MeasureSpec}
      {buckets : List (Bucket Outcome)}
      {bucket : Bucket Outcome} :
      LevelRead facets outcomes level here → .measure spec ∈ level →
      Dict.find? (outerName (.measure spec)) here = some (.terms buckets) → bucket ∈ buckets →
      LevelRead facets outcomes [] bucket.outcomes

/-- Some outcomes were read for accepted facets from some document. -/
def Answers (settings : Settings) (level : List Facet) (here : Outcomes) : Prop :=
  ∃ around requests document, Accepted settings around level requests ∧
    Outcome.ofLevel requests document = .ok here

variable {settings : Settings}

namespace Answers

variable {level : List Facet} {here : Outcomes}

/-- An outcome under the name of a facet was read for the request of that facet. -/
theorem exists_request (answers : Answers settings level here) {facet : Facet}
    (member : facet ∈ level) {outcome : Outcome}
    (found : Dict.find? facet.outerName here = some outcome) :
    ∃ around requests request body, Accepted settings around level requests ∧ request ∈ requests ∧
      Request.ofFacet settings facet = .ok request ∧
      Outcome.ofRequest request body = .ok outcome := by
  obtain ⟨around, requests, document, accepted, read⟩ := answers
  obtain ⟨request, asked, resolved⟩ := accepted.request member
  have answered := Outcome.find?_of_ofLevel accepted.nodup read asked
  rw [outerName_of_ofFacet resolved, found] at answered
  obtain ⟨body, _, decoded⟩ := mapM_eq_ok_some.mp answered
  exact ⟨around, requests, request, body, accepted, asked, resolved, decoded⟩

/-- The buckets of a grouping answer the facets inside it. -/
theorem bucket (answers : Answers settings level here) {target : GroupTarget} {inner : List Facet}
    {buckets : List (Bucket Outcome)} {bucket : Bucket Outcome}
    (member : .group target inner ∈ level)
    (found : Dict.find? target.name here = some (.terms buckets)) (inside : bucket ∈ buckets) :
    Answers settings inner bucket.outcomes := by
  obtain ⟨around, requests, request, body, accepted, asked, resolved, decoded⟩ :=
    answers.exists_request member found
  obtain ⟨made, rfl, acceptedInside⟩ := accepted.of_ofFacet asked resolved
  rw [Outcome.ofRequest] at decoded
  obtain ⟨items, _, _, same, paired⟩ := Outcome.terms_of_termsOf decoded
  cases same
  obtain ⟨item, _, bucketMade⟩ := exists_of_mem_right paired inside
  exact ⟨target.name :: around, made, item, acceptedInside,
    (Outcome.bucketOf_eq_ok.mp bucketMade).2.2⟩

/-- An outcome of a measure was read for its request, which is made from it and its clause. -/
theorem exists_made (answers : Answers settings level here) {spec : MeasureSpec}
    (member : .measure spec ∈ level) {outcome : Outcome}
    (found : Dict.find? (outerName (.measure spec)) here = some outcome) :
    ∃ clause order body, Path.check spec.field.path = .ok () ∧
      MeasureSpec.sorting spec.order = .ok order ∧
      Outcome.ofMeasureRequest (spec.made settings clause order) body = .ok outcome := by
  obtain ⟨_, _, _, body, _, _, resolved, decoded⟩ := answers.exists_request member found
  obtain ⟨made, specResolved, rfl⟩ := Request.ofFacet_measure_eq_ok.mp resolved
  obtain ⟨valid, clause, order, _, sorted, rfl⟩ := MeasureSpec.resolve_eq_ok.mp specResolved
  rw [Outcome.ofRequest] at decoded
  exact ⟨clause, order, body, valid, sorted, decoded⟩

/-- The inside of a filter answers the measure without it. -/
theorem filter (answers : Answers settings level here) {spec : MeasureSpec} {docCount : UInt64}
    {inside : Outcomes} (member : .measure spec ∈ level)
    (found : Dict.find? (outerName (.measure spec)) here = some (.filter docCount inside)) :
    Answers settings [.measure { spec with filter := none }] inside := by
  obtain ⟨clause, order, body, valid, sorted, decoded⟩ := answers.exists_made member found
  cases clause with
  | none => exact (Outcome.ofMeasure_ne_filter decoded).elim
  | some clause =>
    have plain : MeasureSpec.resolve settings { spec with filter := none } =
        .ok (MeasureSpec.made settings { spec with filter := none } none order) :=
      MeasureSpec.resolve_eq_ok.mpr ⟨valid, none, order, rfl, sorted, rfl⟩
    have resolved := Request.ofFacet_measure_eq_ok.mpr ⟨_, plain, rfl⟩
    refine ⟨[], _, body, ⟨Request.ofEach_eq_ok.mpr (.cons resolved .nil), rfl⟩, ?_⟩
    exact Outcome.ofLevel_of_filter rfl decoded

/-- The buckets of a measure answer no facets. -/
theorem item (answers : Answers settings level here) {spec : MeasureSpec}
    {buckets : List (Bucket Outcome)} {bucket : Bucket Outcome} (member : .measure spec ∈ level)
    (found : Dict.find? (outerName (.measure spec)) here = some (.terms buckets))
    (inside : bucket ∈ buckets) : Answers settings [] bucket.outcomes := by
  obtain ⟨clause, order, body, _, _, decoded⟩ := answers.exists_made member found
  cases clause with
  | none =>
    obtain ⟨empty, document, read⟩ := Outcome.bucket_of_ofMeasure decoded bucket inside
    rw [empty]
    exact ⟨[], [], document, ⟨Request.ofEach_eq_ok.mpr .nil, rfl⟩, read⟩
  | some clause =>
    obtain ⟨_, _, same, _⟩ := MeasureSpec.filter_of_ofMeasureRequest rfl decoded
    cases same

/-- **A name that no facet of a level has, has no answer there.** -/
theorem find?_eq_none (answers : Answers settings level here) {name : String}
    (absent : name ∉ level.map outerName) : Dict.find? name here = none := by
  obtain ⟨around, requests, document, accepted, read⟩ := answers
  obtain ⟨members, _, collected⟩ := Outcome.ofLevel_eq_ok.mp read
  rw [← outerNames_of_ofEach accepted.resolved] at absent
  exact Outcome.collect_of_not_mem absent collected

/-- The filters of an accepted level compile. -/
theorem compiled (answers : Answers settings level here) {spec : MeasureSpec}
    (member : .measure spec ∈ level) : spec.filter.mapM Clause.ofPredicate = .ok spec.clause? := by
  obtain ⟨around, requests, document, accepted, _⟩ := answers
  obtain ⟨request, _, resolved⟩ := accepted.request member
  obtain ⟨made, specResolved, _⟩ := Request.ofFacet_measure_eq_ok.mp resolved
  obtain ⟨_, clause, _, compiled, _⟩ := MeasureSpec.resolve_eq_ok.mp specResolved
  rw [MeasureSpec.clause?_of_mapM compiled]
  exact compiled

end Answers

/-- **Each level of what was read for accepted facets was read for its own facets**, which are
accepted. -/
theorem LevelRead.answers {facets level : List Facet} {outcomes here : Outcomes}
    (read : Answers settings facets outcomes) (within : LevelRead facets outcomes level here) :
    Answers settings level here := by
  induction within with
  | whole => exact read
  | bucket _ member found inside above => exact above.bucket member found inside
  | filter _ member found above => exact above.filter member found
  | item _ member found inside above => exact above.item member found inside

end Facet

/-! ### Reads of what was not asked for -/

theorem Measure.kind_inj {a b : Measure} (same : a.kind = b.kind) : a = b := by
  cases a <;> cases b <;> first | rfl | cases same

theorem Measure.kind_ne_groupBy (measure : Measure) : measure.kind ≠ .groupBy := by
  cases measure <;> nofun

theorem Measure.kind_ne_filter (measure : Measure) : measure.kind ≠ .filter := by
  cases measure <;> nofun

namespace Reading

variable {t : ValueType} {here : Outcomes} {field : Field t} {filter : Option Predicate}
  {name : String}

/-- A read whose name has no answer finds nothing under it. -/
theorem locate_of_find?_none {kind : FacetKind} (named : lookupName field kind filter = .ok name)
    (absent : Dict.find? name here = none) : locate here field kind filter = .ok ⟨name, none⟩ := by
  obtain ⟨inner, derived, named⟩ := bind_eq_ok.mp named
  rw [locate, derived, ok_bind]
  cases filter with
  | none =>
    obtain rfl : inner = name := Except.ok.inj named
    rw [← absent]
    rfl
  | some predicate =>
    obtain ⟨clause, compiled, named⟩ := bind_eq_ok.mp named
    obtain rfl := Except.ok.inj named
    simp only [compiled, ok_bind, absent]
    rfl

/-- Buckets are found under a name exactly if they answer it. -/
theorem buckets_eq_ok {buckets : List (Bucket Outcome)} :
    Reading.buckets here name = .ok buckets ↔ Dict.find? name here = some (.terms buckets) := by
  unfold Reading.buckets Found.expect Found.outcome
  cases found : Dict.find? name here with
  | none => simp
  | some outcome => cases outcome <;> simp

end Reading

namespace Facet

variable {settings : Settings} {level : List Facet} {here : Outcomes}

/-- A measure has the name of a read only if it is what the read asks for, up to filters of the same
digits. -/
theorem outerName_measure_eq_iff {spec : MeasureSpec} {measure : Measure} {path : String}
    {clause : Option Clause} :
    outerName (.measure spec) = FacetName.outer (FacetName.derive measure.kind path) clause ↔
      spec.field.path = path ∧ spec.measure = measure ∧
        spec.clause?.map (fun clause => clause.fingerprint.short) =
          clause.map fun clause => clause.fingerprint.short := by
  unfold outerName MeasureSpec.name
  rw [FacetName.outer_derive_eq_iff spec.measure.kind_ne_filter measure.kind_ne_filter]
  exact and_congr_right fun _ => and_congr_left fun _ => ⟨Measure.kind_inj, congrArg Measure.kind⟩

/-- No facet of a level has the name of a measure that was not asked for there. -/
theorem measureName_notMem {measure : Measure} {path : String} {clause : Option Clause}
    (answers : Answers settings level here)
    (unasked : ∀ spec, .measure spec ∈ level → spec.field.path = path → spec.measure = measure →
      spec.filter.mapM Clause.ofPredicate ≠ .ok clause)
    (apart : ∀ spec other own, .measure spec ∈ level →
      spec.filter.mapM Clause.ofPredicate = .ok (some other) → clause = some own →
      other.fingerprint.short = own.fingerprint.short → other = own)
    (unkeyed : ∀ inner,
      .group (.key (FacetName.outer (FacetName.derive measure.kind path) clause)) inner ∉ level) :
    FacetName.outer (FacetName.derive measure.kind path) clause ∉ level.map outerName := by
  intro named
  obtain ⟨facet, member, same⟩ := List.mem_map.mp named
  cases facet with
  | group target inner =>
    cases target with
    | key text =>
      obtain rfl : text = _ := same
      exact unkeyed inner member
    | field source =>
      have grouped : FacetName.outer (FacetName.derive .groupBy source.path) none =
          FacetName.outer (FacetName.derive measure.kind path) clause := same
      have kinds :=
        ((FacetName.outer_derive_eq_iff (by decide) measure.kind_ne_filter).mp grouped).2.1
      exact measure.kind_ne_groupBy kinds.symm
  | measure spec =>
    obtain ⟨samePath, sameMeasure, digits⟩ := outerName_measure_eq_iff.mp same
    have compiled := answers.compiled member
    refine unasked spec member samePath sameMeasure (compiled.trans (congrArg Except.ok ?_))
    cases clause with
    | none => exact Option.map_eq_none_iff.mp digits
    | some own =>
      obtain ⟨other, held, digits⟩ := Option.map_eq_some_iff.mp digits
      rw [held] at compiled ⊢
      rw [apart spec other own member compiled rfl digits]

/-- No facet of a level has the name of a grouping that was not asked for there. -/
theorem groupName_notMem {path : String}
    (unasked : ∀ source inner, .group (.field source) inner ∈ level → source.path ≠ path)
    (unkeyed : ∀ inner, .group (.key (FacetName.derive .groupBy path)) inner ∉ level) :
    FacetName.derive .groupBy path ∉ level.map outerName := by
  intro named
  obtain ⟨facet, member, same⟩ := List.mem_map.mp named
  cases facet with
  | group target inner =>
    cases target with
    | key text =>
      obtain rfl : text = _ := same
      exact unkeyed inner member
    | field source => exact unasked source inner member (FacetName.derive_eq_iff.mp same).1
  | measure spec =>
    have measured : FacetName.outer spec.name spec.clause? =
        FacetName.outer (FacetName.derive .groupBy path) none := same
    have kinds :=
      ((FacetName.outer_derive_eq_iff spec.measure.kind_ne_filter (by decide)).mp measured).2.1
    exact spec.measure.kind_ne_groupBy kinds

/-- **What was not asked for is missing**, at every level of what was read for accepted facets, also
inside buckets and filters. A read of a measure finds nothing if its level has no measure of that
path, kind and clause, and a read of a grouping if its level has no grouping by that path; provided
that no grouping by a key has the very name of the read, and that no two filters in question share
their digits. -/
theorem missing_of_unrequested {facets : List Facet} {requests : List Request} {document : Json}
    {outcomes : Outcomes} (accepted : Request.ofFacets settings facets = .ok requests)
    (read : Outcome.ofLevel requests document = .ok outcomes)
    (within : LevelRead facets outcomes level here) {t : ValueType} (field : Field t)
    (valid : Path.check field.path = .ok ()) :
    (∀ measure filter clause name, filter.mapM Clause.ofPredicate = .ok clause →
      Reading.lookupName field measure.kind filter = .ok name →
      (∀ spec, .measure spec ∈ level → spec.field.path = field.path → spec.measure = measure →
        spec.filter.mapM Clause.ofPredicate ≠ .ok clause) →
      (∀ spec other own, .measure spec ∈ level →
        spec.filter.mapM Clause.ofPredicate = .ok (some other) →
        clause = some own → other.fingerprint.short = own.fingerprint.short → other = own) →
      (∀ inner, .group (.key name) inner ∉ level) →
      ∀ target source,
        Reading.present measure target source here field filter = measure.absence name) ∧
    ((∀ source inner, .group (.field source) inner ∈ level → source.path ≠ field.path) →
      (∀ inner, .group (.key (FacetName.derive .groupBy field.path)) inner ∉ level) →
      Reading.groupBy here field = .error (.missing (FacetName.derive .groupBy field.path))) := by
  have answers : Answers settings level here :=
    within.answers ⟨[], requests, document, accepted_iff.mpr accepted, read⟩
  constructor
  · intro measure filter clause name compiled named unasked apart unkeyed target source
    obtain ⟨_, own, compiledOwn, rfl⟩ := Reading.lookupName_eq_ok.mp named
    obtain rfl : clause = own := Except.ok.inj (compiled.symm.trans compiledOwn)
    have absent := answers.find?_eq_none (measureName_notMem answers unasked apart unkeyed)
    exact Reading.present_of_none target source (Reading.locate_of_find?_none named absent)
  · intro unasked unkeyed
    have named :
        FacetName.ofField field.ref .groupBy = .ok (FacetName.derive .groupBy field.path) :=
      FacetName.ofField_eq_ok.mpr ⟨valid, rfl⟩
    have absent := answers.find?_eq_none (groupName_notMem unasked unkeyed)
    rw [Reading.groupBy, named, ok_bind, Reading.buckets, absent]
    rfl

/-- The field of prices. -/
def priceField : Field .text := ⟨"price", true⟩

/-- The number of prices. -/
def countOfPrice : MeasureSpec where
  measure := .count
  field := priceField.ref

/-- A response to the number of prices by kind, which also tells the different prices. -/
def countLevel : Json :=
  .record [("kind", .record [("buckets", .array
    [.record [("key", .string "Sedan"), ("doc_count", .ofInt 2),
      ("count_price", .record [("value", .ofInt 2)]),
      ("distinct_price", .record [("buckets", .array [])])]])])]

/-- The different prices, told without being asked for, are missing in the bucket, and so is a
grouping. -/
theorem missing_of_unrequested_countByKind :
    ∃ requests outcomes bucket,
      Request.ofFacets {} [.group (.key "kind") [.measure countOfPrice]] = .ok requests ∧
      Outcome.ofLevel requests countLevel = .ok outcomes ∧
      Reading.groupByKey outcomes "kind" = .ok [bucket] ∧
      Reading.present .distinct .double .anything bucket.outcomes priceField none =
        .error (.missing "distinct_price") ∧
      Reading.groupBy bucket.outcomes priceField = .error (.missing "groupby_price") := by
  have single : (do
      let requests ← Request.ofFacets {} [.group (.key "kind") [.measure countOfPrice]]
      let outcomes ← Outcome.ofLevel requests countLevel
      Reading.groupByKey outcomes "kind").map List.length = .ok 1 := by decide +kernel
  obtain ⟨buckets, found, one⟩ := map_eq_ok.mp single
  obtain ⟨requests, accepted, found⟩ := bind_eq_ok.mp found
  obtain ⟨outcomes, read, found⟩ := bind_eq_ok.mp found
  obtain ⟨bucket, rfl⟩ := List.length_eq_one_iff.mp one
  have within : LevelRead [.group (.key "kind") [.measure countOfPrice]] outcomes
      [.measure countOfPrice] bucket.outcomes :=
    .bucket .whole List.mem_cons_self (Reading.buckets_eq_ok.mp found) List.mem_cons_self
  have named : Reading.lookupName priceField Measure.distinct.kind none = .ok "distinct_price" := by
    decide +kernel
  have derived : FacetName.derive .groupBy priceField.path = "groupby_price" := by decide +kernel
  obtain ⟨measures, groupings⟩ := missing_of_unrequested accepted read within priceField rfl
  rw [derived] at groupings
  refine ⟨requests, outcomes, bucket, accepted, read, found, ?_, groupings ?_ ?_⟩
  · refine measures .distinct none none "distinct_price" rfl named ?_ ?_ ?_ .double .anything
    · intro spec member _ told
      cases List.mem_singleton.mp member
      cases told
    · intro _ _ _ _ _ unfiltered
      cases unfiltered
    · intro inner member
      cases List.mem_singleton.mp member
  · intro source inner member
    cases List.mem_singleton.mp member
  · intro inner member
    cases List.mem_singleton.mp member

/-- A grouping by a key that is the name of a read answers that read, though no measure was asked
for. -/
theorem distinct_of_key :
    ∃ requests outcomes, Request.ofFacets {} [.group (.key "distinct_price") []] = .ok requests ∧
      Outcome.ofLevel requests
        (.record [("distinct_price", .record [("buckets", .array
          [.record [("key", .string "low"), ("doc_count", .ofInt 1)]])])]) = .ok outcomes ∧
      Reading.distinct outcomes priceField none = .ok [.ok "low"] :=
  ⟨_, _, rfl, rfl, rfl⟩

end Facet

end FacetQuery
