/-
**Stored answers.**

A level of answers is stored as a document. What was stored is read back as the same level: absent
numbers and raw keys as absent, empty levels as empty, and documents of hits as they are. A floating
number that is not finite has no number in a document, so it is lost where a number may be absent,
and where there has to be one the document cannot be read.

* `Outcome.Sound` — **answers as they can be made**: every level a dictionary, its numbers and
  percents of some kind.
* `Outcome.Storable` — the same with finite numbers and percents alone.
* `Outcome.outcomes?_eq`, `Outcome.buckets?_eq`, `Outcome.inner?_eq` — reading takes items one by
  one, and a level by its name.
* `Outcome.outcome?_json` — **an answer is read back**, and `Outcome.Sound.finite_of_read`, a
  percent that is not finite keeps all from being read.
* `Outcome.level?_levelJson` — **what is stored is read back.**
-/

import FacetQuery.Outcome.Stored
import FacetQuery.Proofs.Magnitudes
import FacetQuery.Proofs.SiblingOrder
import Mathlib.Data.List.ReduceOption

namespace FacetQuery

/-! ### Answers as they can be made -/

/-- The floating numbers of statistics, those that are there. -/
def Statistics.numbers (s : Statistics) : List Double :=
  [s.min, s.max, s.avg, some s.sum, s.sumOfSquares, s.variance, s.stdDeviation].reduceOption

namespace Outcome

/-- **An answer as it can be made**: at every depth levels are dictionaries, numbers are as `number`
says, and percents as `percent` says. -/
inductive Sound (number percent : Double → Prop) : Outcome → Prop
  | metric {value : Option Double} (each : ∀ x ∈ value, number x) :
      Sound number percent (.metric value)
  | valueCount (count : UInt64) : Sound number percent (.valueCount count)
  | cardinality (count : UInt64) : Sound number percent (.cardinality count)
  | percentiles {items : List PercentileValue} (percents : ∀ item ∈ items, percent item.percent)
      (each : ∀ item ∈ items, ∀ x ∈ item.value, number x) :
        Sound number percent (.percentiles items)
  | stats {statistics : Statistics} (each : ∀ x ∈ statistics.numbers, number x) :
      Sound number percent (.stats statistics)
  | topHits (sources : List Json) : Sound number percent (.topHits sources)
  | terms {buckets : List (Bucket Outcome)}
      (ordered : ∀ bucket ∈ buckets, Dict.Ordered bucket.outcomes)
      (each : ∀ bucket ∈ buckets, ∀ answer ∈ bucket.outcomes, Sound number percent answer.2) :
      Sound number percent (.terms buckets)
  | filter (count : UInt64) {inside : List (String × Outcome)} (ordered : Dict.Ordered inside)
      (each : ∀ answer ∈ inside, Sound number percent answer.2) :
        Sound number percent (.filter count inside)

/-- A level as it can be made. -/
structure LevelSound (number percent : Double → Prop) (outcomes : Outcomes) : Prop where
  ordered : outcomes.Ordered
  each : ∀ answer ∈ outcomes, Sound number percent answer.2

/-- **A level that can be stored**: a dictionary, and inside it dictionaries, of answers whose
floating numbers are all finite. -/
abbrev Storable (outcomes : Outcomes) : Prop :=
  LevelSound (·.isFinite = true) (·.isFinite = true) outcomes

end Outcome

/-! ### Dictionaries that are written -/

namespace Dict

variable {α β : Type} {members : Dict α}

theorem Ordered.nodup_names (ordered : members.Ordered) : (members.map Prod.fst).Nodup :=
  List.pairwise_map.mpr (ordered.imp fun below => String.ne_of_lt below)

/-- A dictionary is made of its members. -/
theorem Ordered.ofList_eq (ordered : members.Ordered) : ofList members = members :=
  (ordered_ofList members).eq_of_perm ordered (perm_ofList ordered.nodup_names)

theorem Ordered.map (ordered : members.Ordered) (f : α → β) :
    Ordered (members.map (Prod.map id f)) :=
  List.pairwise_map.mpr ordered

end Dict

/-! ### Traversals that may find nothing -/

theorem mapM_eq_some {α β : Type} {f : α → Option β} {items : List α} {results : List β} :
    items.mapM f = some results ↔
      List.Forall₂ (fun item result => f item = some result) items results := by
  induction items generalizing results with
  | nil => cases results <;> simp
  | cons item rest later =>
    simp only [List.mapM_cons, Option.bind_eq_bind, Option.bind_eq_some_iff, Option.pure_def,
      Option.some.injEq, later]
    constructor
    · rintro ⟨first, head, others, tail, rfl⟩
      exact .cons head tail
    · rintro (_ | ⟨head, tail⟩)
      exact ⟨_, head, _, tail, rfl⟩

/-- What is written item by item is read back item by item. -/
theorem mapM_map_eq_self {α β : Type} {write : α → β} {read : β → Option α} {items : List α}
    (back : ∀ item ∈ items, read (write item) = some item) :
    (items.map write).mapM read = some items := by
  rw [mapM_eq_some, List.forall₂_map_left_iff]
  exact List.forall₂_same.mpr back

/-- What is read item by item is read of each item. -/
theorem exists_of_mapM_map {α β γ : Type} {write : α → β} {read : β → Option γ} {items : List α}
    {results : List γ} (made : (items.map write).mapM read = some results) {item : α}
    (member : item ∈ items) : ∃ result, read (write item) = some result := by
  rw [mapM_eq_some, List.forall₂_map_left_iff] at made
  obtain ⟨result, _, here⟩ := exists_of_mem_left made member
  exact ⟨result, here⟩

/-! ### Numbers -/

/-- A floating number is read back exactly if it is finite. -/
theorem Json.double?_ofDouble {x y : Double} :
    (Json.ofDouble x).double? = some y ↔ x.isFinite = true ∧ x = y := by
  unfold ofDouble Number.ofDouble?
  by_cases finite : x.isFinite = true
  · rw [dif_pos finite]
    show some x = some y ↔ _
    rw [Option.some.injEq, and_iff_right finite]
  · rw [dif_neg finite]
    exact iff_of_false nofun fun ⟨also, _⟩ => finite also

/-- An integer with few enough bits is in range. -/
theorem Binary.isFinite_ofInt {f : FloatFormat} {n : Int} (bits : Nat)
    (few : n.natAbs < Nat.pow 2 bits) (room : bits + f.quantum - 1 - f.fraction + 2 < f.top) :
    (ofInt n : Binary f).isFinite = true := by
  refine decide_eq_true (FloatFormat.nearest_lt_infinity (bits + f.quantum) ?_ room)
  have places : Nat.pow 2 (bits + f.quantum) = Nat.pow 2 bits * f.one := Nat.pow_add ..
  rw [Nat.div_one, places]
  exact Nat.mul_lt_mul_of_pos_right few (Nat.two_pow_pos _)

/-- A number of a document has a finite value. -/
theorem Json.Number.isFinite_toDouble (n : Number) : n.toDouble.isFinite = true := by
  cases n with
  | whole n fits =>
    have few : n.natAbs < 18446744073709551616 := by
      unfold FitsEight at fits
      omega
    exact Binary.isFinite_ofInt 64 few (by decide)
  | real x finite => exact finite

theorem Json.unsigned?_ofUnsigned (n : UInt64) : (Json.ofUnsigned n).unsigned? = some n := by
  show (if 0 ≤ (n.toNat : Int) then some (UInt64.ofNat (n.toNat : Int).toNat) else none) = some n
  rw [if_pos (Int.natCast_nonneg _), Int.toNat_natCast, UInt64.ofNat_toNat]

namespace Outcome

theorem numberJson_some {x : Double} (finite : x.isFinite = true) :
    numberJson (some x) = .number (.real x finite) := by
  show Json.ofDouble x = _
  rw [Json.ofDouble, Json.Number.ofDouble?, dif_pos finite]
  rfl

/-- A number that may be absent is read back, absent or not. -/
theorem numberAt?_eq {name : String} {members : Dict Json} {value : Option Double}
    (here : Dict.find? name members = some (numberJson value))
    (finite : ∀ x ∈ value, x.isFinite = true) : numberAt? name members = some value := by
  unfold numberAt?
  rw [here]
  cases value with
  | none => rfl
  | some x =>
    rw [numberJson_some (finite x rfl)]
    rfl

theorem countAt?_eq {name : String} {members : Dict Json} {count : UInt64}
    (here : Dict.find? name members = some (.ofUnsigned count)) :
    countAt? name members = some count := by
  rw [countAt?, here, Option.bind_some, Json.unsigned?_ofUnsigned]

theorem percentile?_percentileJson {item : PercentileValue} (percent : item.percent.isFinite = true)
    (value : ∀ x ∈ item.value, x.isFinite = true) :
    percentile? (percentileJson item) = some item := by
  unfold percentile? percentileJson Json.record
  -- Members are looked up in the list that they were made of, wherever the dictionary has them.
  generalize made : Dict.ofList _ = members
  have found := Dict.find?_of_ofList made
  have percent : (Dict.find? "percent" members).bind Json.double? = some item.percent := by
    rw [found "percent"]
    exact Json.double?_ofDouble.mpr ⟨percent, rfl⟩
  have value : numberAt? "value" members = some item.value := numberAt?_eq (found "value") value
  simp only [Json.members?, Option.bind_eq_bind, Option.bind_some, percent, value]
  rfl

/-- A percent that is not finite keeps the value at it from being read. -/
theorem finite_of_percentile? {item other : PercentileValue}
    (read : percentile? (percentileJson item) = some other) : item.percent.isFinite = true := by
  unfold percentile? percentileJson Json.record at read
  generalize made : Dict.ofList _ = members at read
  have found := Dict.find?_of_ofList made
  obtain ⟨_, same, read⟩ := Option.bind_eq_some_iff.mp read
  cases same
  obtain ⟨percent, here, _⟩ := Option.bind_eq_some_iff.mp read
  rw [found "percent"] at here
  exact (Json.double?_ofDouble.mp here).1

theorem statistics?_statisticsJson {s : Statistics} (finite : ∀ x ∈ s.numbers, x.isFinite = true) :
    statistics? (statisticsJson s) = some s := by
  have each : ∀ value ∈ [s.min, s.max, s.avg, some s.sum, s.sumOfSquares, s.variance,
      s.stdDeviation], ∀ x ∈ value, x.isFinite = true :=
    fun value member x held => finite x (List.reduceOption_mem_iff.mpr (held ▸ member))
  unfold statistics? statisticsJson Json.record
  generalize made : Dict.ofList _ = members
  have found := Dict.find?_of_ofList made
  have count : countAt? "count" members = some s.count := countAt?_eq (found "count")
  have min : numberAt? "min" members = some s.min := numberAt?_eq (found "min") (each _ (by simp))
  have max : numberAt? "max" members = some s.max := numberAt?_eq (found "max") (each _ (by simp))
  have avg : numberAt? "avg" members = some s.avg := numberAt?_eq (found "avg") (each _ (by simp))
  have sum : (Dict.find? "sum" members).bind Json.double? = some s.sum := by
    rw [found "sum"]
    exact Json.double?_ofDouble.mpr ⟨each (some s.sum) (by simp) _ rfl, rfl⟩
  have squares : numberAt? "sum_of_squares" members = some s.sumOfSquares :=
    numberAt?_eq (found "sum_of_squares") (each _ (by simp))
  have variance : numberAt? "variance" members = some s.variance :=
    numberAt?_eq (found "variance") (each _ (by simp))
  have deviation : numberAt? "std_deviation" members = some s.stdDeviation :=
    numberAt?_eq (found "std_deviation") (each _ (by simp))
  simp only [Json.members?, Option.bind_eq_bind, Option.bind_some, count, min, max, avg, sum,
    squares, variance, deviation]
  rfl

/-! ### Items and levels -/

theorem memberJsons_eq (outcomes : Outcomes) :
    memberJsons outcomes = outcomes.map (Prod.map id json) := by
  induction outcomes with
  | nil => rw [memberJsons, List.map_nil]
  | cons head rest later =>
    rw [memberJsons, later]
    rfl

theorem bucketJsons_eq (buckets : List (Bucket Outcome)) :
    bucketJsons buckets = buckets.map bucketJson := by
  induction buckets with
  | nil => rw [bucketJsons, List.map_nil]
  | cons bucket rest later => rw [bucketJsons, later, List.map_cons]

/-- A bucket, read from its object. -/
def bucket? (body : Json) : Option (Bucket Outcome) := do
  let members ← body.members?
  let (key, raw, docCount) ← bucketHead? members
  let outcomes ← inner? members
  return ⟨key, raw, docCount, outcomes⟩

theorem buckets?_eq (items : List Json) : buckets? items = items.mapM bucket? := by
  induction items with
  | nil =>
    rw [buckets?]
    rfl
  | cons item rest later =>
    rw [List.mapM_cons, ← later]
    cases item with
    | object members =>
      rw [buckets?, bucket?]
      simp only [Json.members?, Option.bind_eq_bind, Option.bind_some, Option.bind_assoc]
      rfl
    | _ => rfl

theorem outcomes?_eq (members : Dict Json) :
    outcomes? members = members.mapM fun member => (outcome? member.2).map (member.1, ·) := by
  induction members with
  | nil =>
    rw [outcomes?]
    rfl
  | cons head rest later =>
    rw [outcomes?, later, List.mapM_cons]
    cases outcome? head.2 <;> rfl

theorem inner?_eq (members : Dict Json) :
    inner? members = (Dict.find? "aggregations" members).elim (some []) level? := by
  induction members with
  | nil =>
    rw [inner?]
    rfl
  | cons head rest later =>
    obtain ⟨first, value⟩ := head
    rw [inner?, Dict.find?]
    by_cases here : first = "aggregations"
    · rw [if_pos here, if_pos here]
      rfl
    · rw [if_neg here, if_neg here, later]

/-! ### Reading back -/

/-- A level is read back if its answers are. -/
theorem level?_of_each {outcomes : Outcomes} (ordered : outcomes.Ordered)
    (back : ∀ answer ∈ outcomes, outcome? answer.2.json = some answer.2) :
    level? (.record (memberJsons outcomes)) = some outcomes := by
  rw [memberJsons_eq, Json.record, (ordered.map json).ofList_eq, level?, outcomes?_eq]
  refine mapM_map_eq_self fun answer member => ?_
  show (outcome? answer.2.json).map (answer.1, ·) = some answer
  rw [back answer member]
  rfl

/-- A bucket is read back if its answers are. -/
theorem bucket?_of_each {bucket : Bucket Outcome} (ordered : Dict.Ordered bucket.outcomes)
    (back : ∀ answer ∈ bucket.outcomes, outcome? answer.2.json = some answer.2) :
    bucket? (bucketJson bucket) = some bucket := by
  obtain ⟨key, raw, count, outcomes⟩ := bucket
  have level := level?_of_each ordered back
  unfold bucket? bucketJson Json.record
  generalize made : Dict.ofList _ = members
  have found := Dict.find?_of_ofList made
  have inside : inner? members = some outcomes := by
    rw [inner?_eq, found "aggregations"]
    cases raw <;> exact level
  have head : bucketHead? members = some (key, raw, count) := by
    have counted : countAt? "doc_count" members = some count := by
      cases raw <;> exact countAt?_eq (found "doc_count")
    unfold bucketHead?
    rw [counted, found "key", found "raw_key"]
    cases raw <;> rfl
  simp only [Json.members?, Option.bind_eq_bind, Option.bind_some, head, inside]
  rfl

/-! ### Answers that hold others -/

theorem outcome?_percentiles (items : List PercentileValue) : outcome? (json (.percentiles items)) =
    ((items.map percentileJson).mapM percentile?).map .percentiles := by
  rw [json]
  rfl

theorem outcome?_terms (buckets : List (Bucket Outcome)) : outcome? (json (.terms buckets)) =
    ((buckets.map bucketJson).mapM bucket?).map .terms := by
  rw [json, ← bucketJsons_eq, ← buckets?_eq]
  rfl

theorem outcome?_filter (count : UInt64) (outcomes : Outcomes) :
    outcome? (json (.filter count outcomes)) =
    (level? (.record (memberJsons outcomes))).map (.filter count) := by
  rw [json]
  show shaped? "filter" (.object (Dict.ofList _)) = _
  generalize made : Dict.ofList _ = members
  have found := Dict.find?_of_ofList made
  have counted : countAt? "doc_count" members = some count := countAt?_eq (found "doc_count")
  have inside : inner? members = level? (.record (memberJsons outcomes)) := by
    rw [inner?_eq, found "aggregations"]
    rfl
  rw [shaped?, if_pos rfl, counted, inside]
  cases level? (.record (memberJsons outcomes)) <;> rfl

/-- **An answer of finite numbers is read back.** -/
theorem outcome?_json {outcome : Outcome}
    (sound : Sound (·.isFinite = true) (·.isFinite = true) outcome) :
    outcome? outcome.json = some outcome := by
  induction sound with
  | @metric value each =>
    rw [json]
    cases value with
    | none => rfl
    | some x =>
      rw [numberJson_some (each x rfl)]
      rfl
  | valueCount count =>
    rw [json]
    exact congrArg (Option.map valueCount) (Json.unsigned?_ofUnsigned count)
  | cardinality count =>
    rw [json]
    exact congrArg (Option.map cardinality) (Json.unsigned?_ofUnsigned count)
  | percentiles percents each =>
    rw [outcome?_percentiles,
      mapM_map_eq_self fun item member =>
        percentile?_percentileJson (percents item member) (each item member)]
    rfl
  | stats each =>
    rw [json]
    exact congrArg (Option.map stats) (statistics?_statisticsJson each)
  | topHits sources =>
    rw [json]
    rfl
  | terms ordered each inside =>
    rw [outcome?_terms,
      mapM_map_eq_self fun bucket member =>
        bucket?_of_each (ordered bucket member) (inside bucket member)]
    rfl
  | filter count ordered each inside =>
    rw [outcome?_filter, level?_of_each ordered inside]
    rfl

/-- A level that is read at all has answers that are. -/
theorem exists_of_level? {outcomes others : Outcomes} (ordered : outcomes.Ordered)
    (read : level? (.record (memberJsons outcomes)) = some others) {answer : String × Outcome}
    (member : answer ∈ outcomes) : ∃ other, outcome? answer.2.json = some other := by
  rw [memberJsons_eq, Json.record, (ordered.map json).ofList_eq, level?, outcomes?_eq] at read
  obtain ⟨_, here⟩ := exists_of_mapM_map read member
  obtain ⟨other, here, _⟩ := Option.map_eq_some_iff.mp here
  exact ⟨other, here⟩

theorem exists_of_bucket? {bucket other : Bucket Outcome} (ordered : Dict.Ordered bucket.outcomes)
    (read : bucket? (bucketJson bucket) = some other) {answer : String × Outcome}
    (member : answer ∈ bucket.outcomes) : ∃ other, outcome? answer.2.json = some other := by
  obtain ⟨key, raw, count, outcomes⟩ := bucket
  suffices level : level? (.record (memberJsons outcomes)) = some other.outcomes from
    exists_of_level? ordered level member
  unfold bucket? bucketJson Json.record at read
  generalize made : Dict.ofList _ = members at read
  have found := Dict.find?_of_ofList made
  obtain ⟨_, same, read⟩ := Option.bind_eq_some_iff.mp read
  cases same
  obtain ⟨head, _, read⟩ := Option.bind_eq_some_iff.mp read
  obtain ⟨inside, there, same⟩ := Option.bind_eq_some_iff.mp read
  cases same
  rw [inner?_eq, found "aggregations"] at there
  cases raw <;> exact there

/-- **A percent that is not finite keeps an answer from being read back.** -/
theorem Sound.finite_of_read {number percent : Double → Prop} {outcome other : Outcome}
    (sound : Sound number percent outcome) (read : outcome? outcome.json = some other) :
    Sound number (·.isFinite = true) outcome := by
  -- Only percents are in question: all that is read of an answer is read of what is inside it.
  induction sound generalizing other with
  | metric each => exact .metric each
  | valueCount count => exact .valueCount count
  | cardinality count => exact .cardinality count
  | percentiles percents each =>
    rw [outcome?_percentiles] at read
    obtain ⟨_, made, _⟩ := Option.map_eq_some_iff.mp read
    refine .percentiles (fun item member => ?_) each
    obtain ⟨_, here⟩ := exists_of_mapM_map made member
    exact finite_of_percentile? here
  | stats each => exact .stats each
  | topHits sources => exact .topHits sources
  | terms ordered each inside =>
    rw [outcome?_terms] at read
    obtain ⟨_, made, _⟩ := Option.map_eq_some_iff.mp read
    refine .terms ordered fun bucket member answer within => ?_
    obtain ⟨_, here⟩ := exists_of_mapM_map made member
    obtain ⟨_, here⟩ := exists_of_bucket? (ordered bucket member) here within
    exact inside bucket member answer within here
  | filter count ordered each inside =>
    rw [outcome?_filter] at read
    obtain ⟨_, made, _⟩ := Option.map_eq_some_iff.mp read
    refine .filter count ordered fun answer within => ?_
    obtain ⟨_, here⟩ := exists_of_level? ordered made within
    exact inside answer within here

/-! ### Levels -/

/-- **What is stored is read back**: a level of any depth, if all its floating numbers are
finite. -/
theorem level?_levelJson {outcomes : Outcomes} (storable : Storable outcomes) :
    level? (levelJson outcomes) = some outcomes :=
  level?_of_each storable.ordered fun answer member => outcome?_json (storable.each answer member)

/-- What is known of cars by year: something of the first year, nothing of the second. -/
def carsByYear : Outcomes :=
  [("groupby_year", .terms [
    ⟨"2018", some "1514764800000", 2, [
      ("avg_price", .metric none),
      ("filter_stats_price_sold",
        .filter 1 [("stats_price", .stats { count := 1, sum := .ofInt 9000 })]),
      ("first_price", .topHits [.null]),
      ("percentiles_price", .percentiles [⟨.ofInt 50, some (.ofInt 9000)⟩, ⟨.ofInt 99, none⟩])]⟩,
    ⟨"2019", none, 0, []⟩])]

/-- The missing prices, the key without a raw one and the year without cars are read back as they
were. -/
theorem level?_levelJson_carsByYear :
    Storable carsByYear ∧ level? (levelJson carsByYear) = some carsByYear := by
  have fifty : (Binary.ofInt 50 : Double).isFinite = true :=
    Binary.isFinite_ofInt 64 (by decide) (by decide)
  have almost : (Binary.ofInt 99 : Double).isFinite = true :=
    Binary.isFinite_ofInt 64 (by decide) (by decide)
  have price : (Binary.ofInt 9000 : Double).isFinite = true :=
    Binary.isFinite_ofInt 64 (by decide) (by decide)
  have percentiles : Sound (·.isFinite = true) (·.isFinite = true)
      (.percentiles [⟨.ofInt 50, some (.ofInt 9000)⟩, ⟨.ofInt 99, none⟩]) := by
    refine .percentiles ?_ ?_ <;> simp [fifty, almost, price]
  have statistics :
      Sound (·.isFinite = true) (·.isFinite = true)
      (.stats { count := 1, sum := .ofInt 9000 }) := by
    refine .stats ?_
    simp [Statistics.numbers, List.reduceOption, price]
  have storable : Storable carsByYear := by
    refine ⟨List.pairwise_singleton .., List.forall_mem_singleton.mpr (.terms ?_ ?_)⟩
    · simp only [List.forall_mem_cons]
      refine ⟨?_, List.Pairwise.nil, nofun⟩
      unfold Dict.Ordered
      decide
    · simp only [List.forall_mem_cons]
      refine ⟨⟨.metric nofun, .filter 1 (List.pairwise_singleton ..) ?_, .topHits _, percentiles,
        nofun⟩, nofun, nofun⟩
      exact List.forall_mem_singleton.mpr statistics
  exact ⟨storable, level?_levelJson storable⟩

end Outcome

end FacetQuery
