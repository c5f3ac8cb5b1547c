/-
**Counts are read as they are told.**

A count is told by a number of the response: the value of a count or a cardinality, the count of
statistics, the number of documents of a bucket or of a filter. Reading follows the requests, so a
count that is read is the one told at its place, and a number at such a place that is no natural
number stops the reading.

* `Outcome.Counted` — **every count of an answer is the one told** in its document, at every depth.
* `Request.TellsCount` — **the places at which a count is told** to a request.
* `Outcome.onlyMalformed_ofLevel` — **a level that cannot be read is malformed.**
* `Outcome.counts_kept` — **counts are not altered**, unless they are too large for eight bytes.
-/

import FacetQuery.Proofs.NumberValues
import FacetQuery.Proofs.Unrequested

namespace FacetQuery

/-! ### Counts of answers -/

namespace Outcome

/-- A count is told by a number: it is that natural number, or the largest count if the number is
larger. -/
def CountTold (document : Option Json) (count : UInt64) : Prop :=
  ∃ number, document = some (.number number) ∧ ∃ n : Nat, number.Is n ∧
    count.toNat = min n largestCount

mutual

/-- **Every count of an answer is the one told** in the document of the answer. -/
def Counted : Outcome → Json → Prop
  | .valueCount count, body => CountTold (body.member? "value") count
  | .cardinality count, body => CountTold (body.member? "value") count
  | .stats statistics, body => CountTold (body.member? "count") statistics.count
  | .terms buckets, body =>
    ∃ items, body.member? "buckets" = some (.array items) ∧ AllCounted buckets items
  | .filter count inside, body =>
    CountTold (body.member? "doc_count") count ∧ LevelCounted inside body
  | .metric _, _ | .percentiles _, _ | .topHits _, _ => True

/-- Every count of some buckets is the one told in the item of its bucket. -/
def AllCounted : List (Bucket Outcome) → List Json → Prop
  | [], items => items = []
  | ⟨_, _, count, inside⟩ :: rest, items => ∃ item others, items = item :: others ∧
      CountTold (item.member? "doc_count") count ∧ LevelCounted inside item ∧ AllCounted rest others

/-- Every count of a level is the one told in the document of its name. -/
def LevelCounted : List (String × Outcome) → Json → Prop
  | [], _ => True
  | (name, outcome) :: rest, level =>
    (∃ body, level.member? name = some body ∧ Counted outcome body) ∧ LevelCounted rest level

end

theorem levelCounted_nil (level : Json) : LevelCounted [] level := by
  rw [LevelCounted]
  trivial

theorem levelCounted_iff {outcomes : Outcomes} {level : Json} :
    LevelCounted outcomes level ↔
      ∀ answer ∈ outcomes, ∃ body, level.member? answer.1 = some body ∧ Counted answer.2 body := by
  induction outcomes with
  | nil =>
    rw [LevelCounted]
    exact ⟨fun _ => nofun, fun _ => trivial⟩
  | cons head rest later => rw [LevelCounted, later, List.forall_mem_cons]

theorem levelCounted_insert {name : String} {outcome : Outcome} {found : Outcomes}
    {level body : Json} (told : level.member? name = some body) (counted : Counted outcome body)
    (before : LevelCounted found level) : LevelCounted (Dict.insert name outcome found) level := by
  rw [levelCounted_iff] at before ⊢
  intro answer member
  rcases Dict.mem_insert member with rfl | old
  · exact ⟨body, told, counted⟩
  · exact before answer old

theorem allCounted_iff {buckets : List (Bucket Outcome)} {items : List Json} :
    AllCounted buckets items ↔ List.Forall₂ (fun item bucket =>
      CountTold (item.member? "doc_count") bucket.docCount ∧
      LevelCounted bucket.outcomes item) items buckets := by
  induction buckets generalizing items with
  | nil => rw [AllCounted, List.forall₂_nil_right_iff]
  | cons bucket rest later =>
    rw [AllCounted, List.forall₂_cons_right_iff]
    constructor
    · rintro ⟨item, others, rfl, told, inside, behind⟩
      exact ⟨item, others, ⟨told, inside⟩, later.mp behind, rfl⟩
    · rintro ⟨item, others, ⟨told, inside⟩, behind, rfl⟩
      exact ⟨item, others, rfl, told, inside, later.mpr behind⟩

/-! ### Reading counts -/

/-- **A count is read exactly if it is told.** -/
theorem countAt_eq_ok {name member : String} {reason : Malformation} {body : Json}
    {count : UInt64} :
    countAt name member reason body = .ok count ↔ CountTold (body.member? member) count := by
  rw [countAt, require_eq_ok, Option.bind_eq_some_iff]
  simp only [count?_eq_some]
  constructor
  · rintro ⟨document, here, number, rfl, told⟩
    exact ⟨number, here, told⟩
  · rintro ⟨number, here, told⟩
    exact ⟨_, here, number, rfl, told⟩

theorem counted_of_termsOf {name : String} {level : Json → Except Failure Outcomes} {body : Json}
    {outcome : Outcome}
    (inside : ∀ item outcomes, level item = .ok outcomes → LevelCounted outcomes item)
    (read : termsOf name level body = .ok outcome) : Counted outcome body := by
  obtain ⟨items, buckets, listed, rfl, each⟩ := terms_of_termsOf read
  rw [Counted]
  refine ⟨items, listed, allCounted_iff.mpr (each.imp fun item bucket made => ?_)⟩
  obtain ⟨_, counted, answered⟩ := bucketOf_eq_ok.mp made
  exact ⟨countAt_eq_ok.mp counted, inside item _ answered⟩

theorem counted_of_ofMeasure {measure : Measure} {name : String} {body : Json} {outcome : Outcome}
    (read : ofMeasure measure name body = .ok outcome) : Counted outcome body := by
  cases measure with
  | sum | average | min | max | percentiles | firstBy =>
    obtain ⟨value, _, rfl⟩ := map_eq_ok.mp read
    rw [Counted]
    trivial
  | count | cardinality =>
    obtain ⟨count, told, rfl⟩ := map_eq_ok.mp read
    rw [Counted]
    exact countAt_eq_ok.mp told
  | stats =>
    obtain ⟨statistics, made, rfl⟩ := map_eq_ok.mp read
    simp only [statisticsOf, bind_eq_ok, pure_eq_ok, Except.ok.injEq] at made
    obtain ⟨count, told, rfl⟩ := made
    rw [Counted]
    exact countAt_eq_ok.mp told
  | distinct =>
    refine counted_of_termsOf ?_ read
    intro item outcomes empty
    obtain ⟨_, _, rfl⟩ := map_eq_ok.mp empty
    exact levelCounted_nil item

theorem counted_of_ofMeasureRequest {request : MeasureRequest} {body : Json} {outcome : Outcome}
    (read : ofMeasureRequest request body = .ok outcome) : Counted outcome body := by
  cases around : request.scope with
  | none =>
    rw [ofMeasureRequest, around] at read
    exact counted_of_ofMeasure read
  | some scope =>
    obtain ⟨count, answer, told, decoded, rfl⟩ := (ofMeasureRequest_eq_ok around).mp read
    rw [Counted]
    refine ⟨countAt_eq_ok.mp told, ?_⟩
    cases answer with
    | none => exact levelCounted_nil body
    | some answer =>
      obtain ⟨inner, here, answered⟩ := mapM_eq_ok_some.mp decoded
      rw [Option.elim_some, LevelCounted]
      exact ⟨⟨inner, here, counted_of_ofMeasure answered⟩, levelCounted_nil body⟩

/-- Collecting answers keeps what is told, if each of the requests does. -/
theorem levelCounted_collect {requests : List Request} {level : Json} {members : Dict Json}
    {found outcomes : Outcomes} (object : level.members? = some members)
    (each : ∀ request ∈ requests, ∀ body outcome, ofRequest request body = .ok outcome →
      Counted outcome body) (before : LevelCounted found level)
    (read : collect requests members found = .ok outcomes) : LevelCounted outcomes level := by
  induction requests generalizing found with
  | nil =>
    rw [collect, Except.ok.injEq] at read
    exact read ▸ before
  | cons request rest later =>
    have others := fun other member => each other (List.mem_cons_of_mem _ member)
    rcases collect_cons_eq_ok.mp read with ⟨_, behind⟩ | ⟨body, outcome, here, answered, behind⟩
    · exact later others before behind
    · have told : level.member? request.outerName = some body :=
        (Json.member?_of_members? object _).trans here
      have counted := each request List.mem_cons_self body outcome answered
      exact later others (levelCounted_insert told counted before) behind

/-- **Every count of an answer to a request is the one told.** -/
theorem counted_of_ofRequest (request : Request) (body : Json) (outcome : Outcome)
    (read : ofRequest request body = .ok outcome) : Counted outcome body := by
  induction request using Request.inside_induction generalizing body outcome with
  | measure request =>
    rw [ofRequest] at read
    exact counted_of_ofMeasureRequest read
  | group name field size inner each =>
    rw [ofRequest] at read
    refine counted_of_termsOf ?_ read
    intro item outcomes answered
    obtain ⟨members, object, answered⟩ := bind_eq_ok.mp answered
    exact levelCounted_collect (require_eq_ok.mp object) each (levelCounted_nil item) answered

/-- **Every count of a level is the one told.** -/
theorem levelCounted_of_ofLevel {requests : List Request} {level : Json} {outcomes : Outcomes}
    (read : ofLevel requests level = .ok outcomes) : LevelCounted outcomes level := by
  obtain ⟨members, object, read⟩ := ofLevel_eq_ok.mp read
  exact levelCounted_collect object (fun request _ => counted_of_ofRequest request)
    (levelCounted_nil level) read

end Outcome

/-! ### Places of counts -/

/-- **The places at which a count is told to a measure** by the document that answers it. -/
inductive Measure.TellsCount : Measure → Json → Json → Prop
  | count {body told} : body.member? "value" = some told → TellsCount .count body told
  | cardinality {body told} : body.member? "value" = some told → TellsCount .cardinality body told
  | stats {body told} : body.member? "count" = some told → TellsCount .stats body told
  | bucket {body items item told} : body.member? "buckets" = some (.array items) → item ∈ items →
      item.member? "doc_count" = some told → TellsCount .distinct body told

/-- **The places at which a count is told to a request** by the document that answers it, at every
depth. -/
inductive Request.TellsCount : Request → Json → Json → Prop
  | plain {request body told} : request.scope = none → request.measure.TellsCount body told →
      TellsCount (.measure request) body told
  | filter {request scope body told} : request.scope = some scope →
      body.member? "doc_count" = some told →
      TellsCount (.measure request) body told
  | filtered {request scope body inner told} : request.scope = some scope →
      body.member? request.name = some inner → request.measure.TellsCount inner told →
      TellsCount (.measure request) body told
  | bucket {name field size inner body items item told} :
      body.member? "buckets" = some (.array items) →
      item ∈ items → item.member? "doc_count" = some told →
      TellsCount (.group name field size inner) body told
  | inside {name field size inner body items item request answer told} :
      body.member? "buckets" = some (.array items) → item ∈ items → request ∈ inner →
      item.member? request.outerName = some answer → TellsCount request answer told →
      TellsCount (.group name field size inner) body told

namespace Outcome

/-- What was read as a count can be read as one. -/
theorem count?_of_countAt {name member : String} {reason : Malformation} {body told : Json}
    {count : UInt64} (here : body.member? member = some told)
    (read : countAt name member reason body = .ok count) : count? told = some count := by
  rw [countAt, require_eq_ok, here, Option.bind_some] at read
  exact read

/-- Terms read each of their items. -/
theorem bucketOf_of_termsOf {name : String} {level : Json → Except Failure Outcomes}
    {body item : Json} {items : List Json} {outcome : Outcome}
    (listed : body.member? "buckets" = some (.array items)) (member : item ∈ items)
    (read : termsOf name level body = .ok outcome) :
    ∃ bucket, bucketOf name level item = .ok bucket := by
  obtain ⟨others, buckets, own, _, each⟩ := terms_of_termsOf read
  cases listed.symm.trans own
  obtain ⟨bucket, _, here⟩ := exists_of_mem_left each member
  exact ⟨bucket, here⟩

/-- A level reads the member of each of its requests. -/
theorem ofRequest_of_collect {requests : List Request} {members : Dict Json}
    {found outcomes : Outcomes} {request : Request} {body : Json}
    (read : collect requests members found = .ok outcomes) (member : request ∈ requests)
    (here : Dict.find? request.outerName members = some body) :
    ∃ outcome, ofRequest request body = .ok outcome := by
  induction requests generalizing found with
  | nil => cases member
  | cons first rest later =>
    rcases collect_cons_eq_ok.mp read with ⟨absent, behind⟩ | ⟨own, outcome, there,
        answered, behind⟩
    · rcases List.mem_cons.mp member with rfl | member
      · cases absent.symm.trans here
      · exact later behind member
    · rcases List.mem_cons.mp member with rfl | member
      · cases there.symm.trans here
        exact ⟨outcome, answered⟩
      · exact later behind member

theorem count?_of_ofMeasure {measure : Measure} {name : String} {body told : Json}
    {outcome : Outcome} (place : measure.TellsCount body told)
    (read : ofMeasure measure name body = .ok outcome) : ∃ count, count? told = some count := by
  cases place with
  | count here | cardinality here =>
    obtain ⟨count, counted, _⟩ := map_eq_ok.mp read
    exact ⟨count, count?_of_countAt here counted⟩
  | stats here =>
    obtain ⟨_, counted, _⟩ := map_eq_ok.mp read
    obtain ⟨count, counted, _⟩ := bind_eq_ok.mp counted
    exact ⟨count, count?_of_countAt here counted⟩
  | bucket listed member here =>
    obtain ⟨bucket, made⟩ := bucketOf_of_termsOf listed member read
    exact ⟨bucket.docCount, count?_of_countAt here (bucketOf_eq_ok.mp made).2.1⟩

/-- **What stands at the place of a count is read as a count**, if the document is read at all. -/
theorem count?_of_ofRequest {request : Request} {body told : Json}
    (place : request.TellsCount body told) {outcome : Outcome}
    (read : ofRequest request body = .ok outcome) : ∃ count, count? told = some count := by
  induction place generalizing outcome with
  | plain unscoped inside =>
    rw [ofRequest, ofMeasureRequest, unscoped] at read
    exact count?_of_ofMeasure inside read
  | filter around here =>
    rw [ofRequest] at read
    obtain ⟨count, _, counted, _⟩ := (ofMeasureRequest_eq_ok around).mp read
    exact ⟨count, count?_of_countAt here counted⟩
  | filtered around here inside =>
    rw [ofRequest] at read
    obtain ⟨_, _, _, decoded, _⟩ := (ofMeasureRequest_eq_ok around).mp read
    rw [here, mapM_some_eq_ok] at decoded
    obtain ⟨_, answered, _⟩ := decoded
    exact count?_of_ofMeasure inside answered
  | bucket listed member here =>
    rw [ofRequest] at read
    obtain ⟨bucket, made⟩ := bucketOf_of_termsOf listed member read
    exact ⟨bucket.docCount, count?_of_countAt here (bucketOf_eq_ok.mp made).2.1⟩
  | inside listed member asked here _ later =>
    -- The bucket was made, so its level was collected, and with it the answer to the request asked
    -- for.
    rw [ofRequest] at read
    obtain ⟨bucket, made⟩ := bucketOf_of_termsOf listed member read
    obtain ⟨members, object, answered⟩ := bind_eq_ok.mp (bucketOf_eq_ok.mp made).2.2
    rw [Json.member?_of_members? (require_eq_ok.mp object)] at here
    obtain ⟨outcome, answered⟩ := ofRequest_of_collect answered asked here
    exact later answered

end Outcome

/-! ### Failures of reading -/

namespace Outcome

/-- A step fails, if at all, because the response has not the expected shape. -/
abbrev OnlyMalformed {α : Type} (step : Except Failure α) : Prop :=
  OnlyFails (fun failure : Failure => failure.kind = .malformed) step

variable {name : String}

theorem onlyMalformed_require {α : Type} {reason : Malformation} {value : Option α} :
    OnlyMalformed (require name reason value) := by
  cases value with
  | none => exact .error rfl
  | some value => exact .ok value

theorem onlyMalformed_metricValue {body : Json} : OnlyMalformed (metricValue name body) := by
  unfold metricValue
  split
  · exact .error rfl
  · split
    · exact .ok none
    · split
      · exact .ok none
      · exact onlyMalformed_require.map

theorem onlyMalformed_percentilesOf {body : Json} : OnlyMalformed (percentilesOf name body) := by
  unfold percentilesOf
  dsimp only
  split
  · exact OnlyFails.bind (.mapM fun _ _ => onlyMalformed_require.bind fun _ => .ok _) fun _ => .ok _
  · exact OnlyFails.bind (.mapM fun _ _ => onlyMalformed_require.bind fun _ => .ok _) fun _ => .ok _
  · exact .error rfl

theorem onlyMalformed_bucketKey {bucket : Json} : OnlyMalformed (bucketKey name bucket) := by
  unfold bucketKey
  split
  · exact .ok _
  · exact onlyMalformed_require.map

theorem onlyMalformed_termsOf {level : Json → Except Failure Outcomes} {body : Json}
    (inside : ∀ item, OnlyMalformed (level item)) : OnlyMalformed (termsOf name level body) := by
  refine onlyMalformed_require.bind fun items =>
    OnlyFails.bind (.mapM fun item _ => ?_) fun _ => .ok _
  exact onlyMalformed_bucketKey.bind fun _ => onlyMalformed_require.bind fun _ =>
    (inside item).bind fun _ => .ok _

theorem onlyMalformed_ofMeasure {measure : Measure} {body : Json} :
    OnlyMalformed (ofMeasure measure name body) := by
  cases measure with
  | sum | average | min | max => exact onlyMalformed_metricValue.map
  | count | cardinality => exact onlyMalformed_require.map
  | percentiles => exact onlyMalformed_percentilesOf.map
  | stats => exact OnlyFails.map (onlyMalformed_require.bind fun _ => .ok _)
  | firstBy => exact OnlyFails.map (onlyMalformed_require.bind fun _ => .ok _)
  | distinct => exact onlyMalformed_termsOf fun _ => onlyMalformed_require.map

theorem onlyMalformed_ofMeasureRequest {request : MeasureRequest} {body : Json} :
    OnlyMalformed (ofMeasureRequest request body) := by
  unfold ofMeasureRequest
  split
  · exact onlyMalformed_ofMeasure
  · refine onlyMalformed_require.bind fun _ => ?_
    split
    · exact .ok _
    · exact onlyMalformed_ofMeasure.bind fun _ => .ok _

theorem onlyMalformed_collect {requests : List Request} {members : Dict Json} {found : Outcomes}
    (each : ∀ request ∈ requests, ∀ body, OnlyMalformed (ofRequest request body)) :
    OnlyMalformed (collect requests members found) := by
  induction requests generalizing found with
  | nil =>
    rw [collect]
    exact .ok found
  | cons request rest later =>
    have others := fun other member => each other (List.mem_cons_of_mem _ member)
    rw [collect]
    split
    · exact later others
    · exact (each request List.mem_cons_self _).bind fun _ => later others

theorem onlyMalformed_ofRequest (request : Request) (body : Json) :
    OnlyMalformed (ofRequest request body) := by
  induction request using Request.inside_induction generalizing body with
  | measure request =>
    rw [ofRequest]
    exact onlyMalformed_ofMeasureRequest
  | group name field size inner each =>
    rw [ofRequest]
    exact onlyMalformed_termsOf fun _ => onlyMalformed_require.bind fun _ =>
      onlyMalformed_collect each

/-- **A level that cannot be read is malformed.** -/
theorem onlyMalformed_ofLevel {requests : List Request} {level : Json} :
    OnlyMalformed (ofLevel requests level) :=
  onlyMalformed_require.bind fun _ => onlyMalformed_collect fun request _ =>
    onlyMalformed_ofRequest request

/-! ### Levels -/

/-- **Counts are not altered**: every count of a level that is read is the natural number told at
its place, or the largest count if that number is larger, and any other number at the place of a
count is malformed. -/
theorem counts_kept (requests : List Request) (level : Json) :
    (∀ outcomes, ofLevel requests level = .ok outcomes → LevelCounted outcomes level) ∧
      ∀ request ∈ requests, ∀ answer number, level.member? request.outerName = some answer →
        request.TellsCount answer (.number number) → (∀ n : Nat, ¬ number.Is n) →
        ∃ failure, ofLevel requests level = .error failure ∧ failure.kind = .malformed := by
  refine ⟨fun outcomes read => levelCounted_of_ofLevel read, ?_⟩
  intro request member answer number here place other
  cases read : ofLevel requests level with
  | error failure => exact ⟨failure, rfl, onlyMalformed_ofLevel failure read⟩
  | ok outcomes =>
    obtain ⟨members, object, collected⟩ := ofLevel_eq_ok.mp read
    rw [Json.member?_of_members? object] at here
    obtain ⟨outcome, answered⟩ := ofRequest_of_collect collected member here
    obtain ⟨count, counted⟩ := count?_of_ofRequest place answered
    obtain ⟨own, same, n, value, _⟩ := count?_eq_some.mp counted
    cases same
    exact (other n value).elim

/-- A response to the number of prices by kind, in which a number tells how many prices there
are. -/
def priceCounts (number : Json.Number) : Json :=
  .record [("kind", .record [("buckets", .array
    [.record [("key", .string "Sedan"), ("doc_count", .ofInt 2),
      ("count_price", .record [("value", .number number)])]])])]

/-- Two prices are counted, and a price less than none is malformed. -/
theorem counts_kept_priceCounts :
    ∃ requests outcomes failure,
      Request.ofFacets {} [.group (.key "kind") [.measure Facet.countOfPrice]] = .ok requests ∧
      ofLevel requests (priceCounts (.ofUnsigned 2)) = .ok outcomes ∧
      LevelCounted outcomes (priceCounts (.ofUnsigned 2)) ∧
      ofLevel requests (priceCounts (.ofSigned (-1))) = .error failure ∧
      failure.kind = .malformed := by
  obtain ⟨requests, outcomes, accepted, read⟩ : ∃ requests outcomes,
      Request.ofFacets {} [.group (.key "kind") [.measure Facet.countOfPrice]] = .ok requests ∧
        ofLevel requests (priceCounts (.ofUnsigned 2)) = .ok outcomes := ⟨_, _, rfl, rfl⟩
  have negative : ∀ n : Nat, ¬ (Json.Number.ofSigned (-1)).Is n := by
    intro n same
    have below : (-1 : Int) = n := same
    omega
  have refusal := (counts_kept requests (priceCounts (.ofSigned (-1)))).2
  cases accepted
  specialize refusal _ List.mem_cons_self _ (.ofSigned (-1)) rfl
  obtain ⟨failure, refused, malformed⟩ := refusal (by
    refine .inside rfl List.mem_cons_self List.mem_cons_self rfl ?_
    exact .plain rfl (.count rfl)) negative
  exact ⟨_, outcomes, failure, rfl, read, (counts_kept _ _).1 outcomes read, refused, malformed⟩

/-- One price more than the largest count is read as the largest count. -/
theorem count_above_largest :
    ∃ requests outcomes number, Request.ofFacets {} [.measure Facet.countOfPrice] = .ok requests ∧
      Json.Number.ofInt? 18446744073709551616 = some number ∧ number.Is 18446744073709551616 ∧
      ofLevel requests (.record [("count_price", .record [("value", .number number)])]) =
        .ok outcomes ∧
      Reading.count outcomes Facet.priceField none = .ok (some 18446744073709551615) := by
  have large : Json.Number.ofInt? 18446744073709551616 =
      some (.real (.ofInt 18446744073709551616) (by decide +kernel)) := by decide +kernel
  have value : (Binary.ofInt 18446744073709551616 : Double).scaled =
      18446744073709551616 * FloatFormat.double.one := by decide +kernel
  have told : (do
      let requests ← Request.ofFacets {} [.measure Facet.countOfPrice]
      let outcomes ← ofLevel requests
        (.record [("count_price", .record [("value", .ofInt 18446744073709551616)])])
      Reading.count outcomes Facet.priceField none) =
        .ok (some 18446744073709551615) := by decide +kernel
  obtain ⟨requests, accepted, told⟩ := bind_eq_ok.mp told
  obtain ⟨outcomes, read, counted⟩ := bind_eq_ok.mp told
  rw [Json.ofInt, large] at read
  exact ⟨requests, outcomes, _, accepted, large, value, read, counted⟩

end Outcome

end FacetQuery
