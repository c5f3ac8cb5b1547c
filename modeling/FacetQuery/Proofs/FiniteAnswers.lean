/-
**Finite answers.**

The floating numbers of an answer are numbers of the response, which are finite, with one exception:
percents may be written as keys, the names of members, and a key is read as any text of a floating
number, also as that of infinity or of the non-number, or as one that is too large. An answer with
such a percent is stored without it, and what is stored cannot be read.

* `Json.isFinite_of_double?` — a number of a document is finite.
* `Request.KeyedPercent`, `Request.LevelKeyedPercent` — **the percents written as keys** in what
  answers some requests, at every depth.
* `Outcome.sound_of_ofRequest` — **where the numbers of an answer come from.**
* `Outcome.percent_of_ofRequest` — **every percent written as a key is read**, if the names of
  requests are apart.
* `Outcome.finite_unless_keyed` — **answers are finite and can be stored, but for percents written
  as keys.**
-/

import FacetQuery.Proofs.StoredAnswers

namespace FacetQuery

/-! ### Numbers of a response -/

/-- **A number of a document is finite.** -/
theorem Json.isFinite_of_double? {document : Json} {x : Double} (read : document.double? = some x) :
    x.isFinite = true := by
  obtain ⟨number, _, rfl⟩ := Option.map_eq_some_iff.mp read
  exact number.isFinite_toDouble

theorem Json.isFinite_of_bind_double? {document : Option Json} {x : Double}
    (read : document.bind Json.double? = some x) : x.isFinite = true := by
  obtain ⟨_, _, read⟩ := Option.bind_eq_some_iff.mp read
  exact isFinite_of_double? read

/-! ### Percents written as keys -/

/-- A percent that percentiles write as a key, the name of a member. -/
def Json.KeyedPercent (body : Json) (percent : Double) : Prop :=
  ∃ values text value, body.member? "values" = some (.object values) ∧ (text, value) ∈ values ∧
    "_as_string".toList.isSuffixOf text.toList = false ∧ Scan.real? text.toList = some percent

namespace Request

/-- **A percent that is written as a key** in what answers a request, at any depth. -/
inductive KeyedPercent : Request → Json → Double → Prop
  | plain {request body percent} : request.scope = none → request.measure = .percentiles →
      body.KeyedPercent percent → KeyedPercent (.measure request) body percent
  | filtered {request scope body inner percent} : request.scope = some scope →
      request.measure = .percentiles →
      body.member? request.name = some inner → inner.KeyedPercent percent →
      KeyedPercent (.measure request) body percent
  | inside {name field size inner body items item request answer percent} :
      body.member? "buckets" = some (.array items) → item ∈ items → request ∈ inner →
      item.member? request.outerName = some answer → KeyedPercent request answer percent →
      KeyedPercent (.group name field size inner) body percent

/-- A percent that is written as a key in what answers one of some requests. -/
def LevelKeyedPercent (requests : List Request) (level : Json) (percent : Double) : Prop :=
  ∃ request ∈ requests, ∃ answer, level.member? request.outerName = some answer ∧
    request.KeyedPercent answer percent

end Request

namespace Outcome

variable {percent : Double → Prop} {name : String} {body : Json} {outcome : Outcome}
  {requests : List Request}
  {members : Dict Json} {found outcomes : Outcomes}

/-! ### Where numbers come from -/

/-- Every answer of a level was found before or is that to one of the requests. -/
theorem origin_of_collect (read : collect requests members found = .ok outcomes)
    {answer : String × Outcome} (member : answer ∈ outcomes) :
    answer ∈ found ∨ ∃ request ∈ requests, ∃ body,
      Dict.find? request.outerName members = some body ∧ ofRequest request body = .ok answer.2 := by
  induction requests generalizing found with
  | nil =>
    rw [collect, Except.ok.injEq] at read
    exact .inl (read ▸ member)
  | cons request rest later =>
    rcases collect_cons_eq_ok.mp read with ⟨_, behind⟩ | ⟨body, outcome, here, answered, behind⟩
    · refine (later behind).imp_right ?_
      rintro ⟨other, there, origin⟩
      exact ⟨other, List.mem_cons_of_mem _ there, origin⟩
    · rcases later behind with held | ⟨other, there, origin⟩
      · rcases Dict.mem_insert held with rfl | before
        · exact .inr ⟨request, List.mem_cons_self, body, here, answered⟩
        · exact .inl before
      · exact .inr ⟨other, List.mem_cons_of_mem _ there, origin⟩

theorem finite_of_metricValue {value : Option Double} (read : metricValue name body = .ok value) :
    ∀ x ∈ value, x.isFinite = true := by
  rintro x rfl
  unfold metricValue at read
  split at read
  · cases read
  · split at read
    · cases read
    · split at read
      · cases read
      · obtain ⟨y, number, same⟩ := map_eq_ok.mp read
        cases same
        exact Json.isFinite_of_double? (require_eq_ok.mp number)

theorem finite_of_statisticsOf {statistics : Statistics}
    (read : statisticsOf name body = .ok statistics) :
    ∀ x ∈ statistics.numbers, x.isFinite = true := by
  obtain ⟨count, _, same⟩ := bind_eq_ok.mp read
  cases same
  intro x member
  have sum : ((body.member? "sum").bind Json.double?).getD (.zero false) = x →
      x.isFinite = true := by
    rintro rfl
    cases here : (body.member? "sum").bind Json.double? with
    | none => rfl
    | some sum => exact Json.isFinite_of_bind_double? here
  simp only [Statistics.numbers, List.reduceOption_mem_iff, List.mem_cons, List.not_mem_nil,
    or_false] at member
  rcases member with min | max | avg | total | squares | variance | deviation
  · exact Json.isFinite_of_bind_double? min.symm
  · exact Json.isFinite_of_bind_double? max.symm
  · exact Json.isFinite_of_bind_double? avg.symm
  · exact sum (Option.some.inj total).symm
  · exact Json.isFinite_of_bind_double? squares.symm
  · exact Json.isFinite_of_bind_double? variance.symm
  · exact Json.isFinite_of_bind_double? deviation.symm

/-- Percentiles are read from one of two forms, and put in order. -/
theorem percentilesOf_eq_ok {items : List PercentileValue} : percentilesOf name body = .ok items ↔
    ∃ read, sorted read = items ∧
      ((∃ values, body.member? "values" = some (.object values) ∧
        keyedPercentiles name values = .ok read) ∨
        ∃ values, body.member? "values" = some (.array values) ∧
          listedPercentiles name values = .ok read) := by
  unfold percentilesOf
  dsimp only
  split
  next values here => simp [here, bind_eq_ok, and_comm]
  next values here => simp [here, bind_eq_ok, and_comm]
  next keyed listed =>
    refine iff_of_false nofun ?_
    rintro ⟨_, _, ⟨values, here, _⟩ | ⟨values, here, _⟩⟩
    · exact keyed values here
    · exact listed values here

theorem keyedPercentiles_eq_ok {values : Dict Json} {items : List PercentileValue} :
    keyedPercentiles name values = .ok items ↔
      List.Forall₂ (fun member item => Scan.real? member.1.toList = some item.percent ∧
        member.2.double? = item.value)
        (values.filter fun (key, _) => !("_as_string".toList.isSuffixOf key.toList)) items := by
  rw [keyedPercentiles, mapM_eq_ok]
  refine iff_of_eq
    (congrArg (List.Forall₂ · _ items) (funext fun member => funext fun item => propext ?_))
  simp only [bind_eq_ok, require_eq_ok, pure_eq_ok, Except.ok.injEq]
  constructor
  · rintro ⟨percent, number, rfl⟩
    exact ⟨number, rfl⟩
  · rintro ⟨number, value⟩
    exact ⟨item.percent, number, value ▸ rfl⟩

/-- Terms are as they can be made if the levels inside their buckets are. -/
theorem sound_of_termsOf {level : Json → Except Failure Outcomes}
    (inside : ∀ items, body.member? "buckets" = some (.array items) → ∀ item ∈ items, ∀ outcomes,
      level item = .ok outcomes → LevelSound (·.isFinite = true) percent outcomes)
    (read : termsOf name level body = .ok outcome) : Sound (·.isFinite = true) percent outcome := by
  obtain ⟨items, buckets, listed, rfl, made⟩ := terms_of_termsOf read
  have sound : ∀ bucket ∈ buckets, LevelSound (·.isFinite = true) percent bucket.outcomes := by
    intro bucket member
    obtain ⟨item, there, here⟩ := exists_of_mem_right made member
    exact inside items listed item there _ (bucketOf_eq_ok.mp here).2.2
  exact .terms (fun bucket member => (sound bucket member).ordered) fun bucket member =>
    (sound bucket member).each

/-- A level is as it can be made if the answers to its requests are. -/
theorem levelSound_of_collect {number : Double → Prop}
    (each : ∀ request ∈ requests, ∀ body, Dict.find? request.outerName members = some body →
      ∀ outcome, ofRequest request body = .ok outcome → Sound number percent outcome)
    (read : collect requests members [] = .ok outcomes) : LevelSound number percent outcomes := by
  refine ⟨ordered_collect List.Pairwise.nil read, fun answer member => ?_⟩
  rcases origin_of_collect read member with empty | ⟨request, asked, body, here, answered⟩
  · cases empty
  · exact each request asked body here answer.2 answered

section Percents

variable (wide : ∀ x : Double, x.isFinite = true → percent x)

include wide

theorem sound_of_percentilesOf {items : List PercentileValue}
    (named : ∀ x, body.KeyedPercent x → percent x) (read : percentilesOf name body = .ok items) :
    Sound (·.isFinite = true) percent (.percentiles items) := by
  suffices each : ∀ item ∈ items, percent item.percent ∧ ∀ x ∈ item.value, x.isFinite = true from
    .percentiles (fun item member => (each item member).1) fun item member => (each item member).2
  intro item member
  obtain ⟨unsorted, rfl, ⟨values, here, keyed⟩ | ⟨values, _, listed⟩⟩ := percentilesOf_eq_ok.mp read
  · have member : item ∈ unsorted := List.mem_mergeSort.mp member
    obtain ⟨⟨text, value⟩, there, number, same⟩ :=
      exists_of_mem_right (keyedPercentiles_eq_ok.mp keyed) member
    obtain ⟨there, plain⟩ := List.mem_filter.mp there
    refine ⟨named _ ⟨values, text, value, here, there, (Bool.not_eq_true' _).mp plain, number⟩,
      fun _ held => ?_⟩
    exact Json.isFinite_of_double? (same.trans held)
  · have member : item ∈ unsorted := List.mem_mergeSort.mp member
    obtain ⟨entry, _, made⟩ := exists_of_mem_right (mapM_eq_ok.mp listed) member
    obtain ⟨x, number, same⟩ := bind_eq_ok.mp made
    cases same
    exact ⟨wide x (Json.isFinite_of_bind_double? (require_eq_ok.mp number)),
      fun _ held => Json.isFinite_of_bind_double? held⟩

theorem sound_of_ofMeasure {measure : Measure}
    (named : measure = .percentiles → ∀ x, body.KeyedPercent x → percent x)
    (read : ofMeasure measure name body = .ok outcome) :
    Sound (·.isFinite = true) percent outcome := by
  cases measure with
  | sum | average | min | max =>
    obtain ⟨value, told, rfl⟩ := map_eq_ok.mp read
    exact .metric (finite_of_metricValue told)
  | count =>
    obtain ⟨count, _, rfl⟩ := map_eq_ok.mp read
    exact .valueCount count
  | cardinality =>
    obtain ⟨count, _, rfl⟩ := map_eq_ok.mp read
    exact .cardinality count
  | percentiles =>
    obtain ⟨items, listed, rfl⟩ := map_eq_ok.mp read
    exact sound_of_percentilesOf wide (named rfl) listed
  | stats =>
    obtain ⟨statistics, made, rfl⟩ := map_eq_ok.mp read
    exact .stats (finite_of_statisticsOf made)
  | firstBy =>
    obtain ⟨sources, _, rfl⟩ := map_eq_ok.mp read
    exact .topHits sources
  | distinct =>
    refine sound_of_termsOf (fun _ _ item _ outcomes empty => ?_) read
    obtain ⟨_, _, rfl⟩ := map_eq_ok.mp empty
    exact ⟨List.Pairwise.nil, nofun⟩

theorem sound_of_ofMeasureRequest {request : MeasureRequest}
    (named : ∀ x, (Request.measure request).KeyedPercent body x → percent x)
    (read : ofMeasureRequest request body = .ok outcome) :
    Sound (·.isFinite = true) percent outcome := by
  cases around : request.scope with
  | none =>
    rw [ofMeasureRequest, around] at read
    exact sound_of_ofMeasure wide
      (fun asked x written => named x (.plain around asked written)) read
  | some scope =>
    obtain ⟨count, answer, _, decoded, rfl⟩ := (ofMeasureRequest_eq_ok around).mp read
    cases answer with
    | none => exact .filter count List.Pairwise.nil (List.forall_mem_nil _)
    | some answer =>
      obtain ⟨inner, here, answered⟩ := mapM_eq_ok_some.mp decoded
      refine .filter count (List.pairwise_singleton ..) (List.forall_mem_singleton.mpr ?_)
      exact sound_of_ofMeasure wide
        (fun asked x written => named x (.filtered around asked here written)) answered

/-- **Where the numbers of an answer come from**: they are finite, and so are its percents, but for
those that are written as keys. -/
theorem sound_of_ofRequest {request : Request}
    (named : ∀ x, request.KeyedPercent body x → percent x)
    (read : ofRequest request body = .ok outcome) : Sound (·.isFinite = true) percent outcome := by
  induction request using Request.inside_induction generalizing body outcome with
  | measure request =>
    rw [ofRequest] at read
    exact sound_of_ofMeasureRequest wide named read
  | group name field size inner each =>
    rw [ofRequest] at read
    refine sound_of_termsOf (fun items listed item there outcomes answered => ?_) read
    obtain ⟨members, object, answered⟩ := bind_eq_ok.mp answered
    refine levelSound_of_collect (fun request asked body here outcome answered => ?_) answered
    rw [← Json.member?_of_members? (require_eq_ok.mp object)] at here
    exact each request asked
      (fun x written => named x (.inside listed there asked here written)) answered

/-- **Where the numbers of a level come from.** -/
theorem levelSound_of_ofLevel {level : Json}
    (named : ∀ x, Request.LevelKeyedPercent requests level x → percent x)
    (read : ofLevel requests level = .ok outcomes) :
    LevelSound (·.isFinite = true) percent outcomes := by
  obtain ⟨members, object, answered⟩ := ofLevel_eq_ok.mp read
  refine levelSound_of_collect (fun request asked body here outcome answered => ?_) answered
  rw [← Json.member?_of_members? object] at here
  exact sound_of_ofRequest wide
    (fun x written => named x ⟨request, asked, body, here, written⟩) answered

end Percents

/-! ### Percents that are read -/

/-- Every percent that is written as a key is read. -/
theorem exists_of_percentilesOf {items : List PercentileValue} {x : Double}
    (written : body.KeyedPercent x) (read : percentilesOf name body = .ok items) :
    ∃ item ∈ items, item.percent = x := by
  obtain ⟨values, text, value, here, there, plain, number⟩ := written
  obtain ⟨unsorted, rfl, ⟨own, same, keyed⟩ | ⟨_, other, _⟩⟩ := percentilesOf_eq_ok.mp read
  · cases here.symm.trans same
    have kept : (text, value) ∈
        values.filter fun (key, _) => !("_as_string".toList.isSuffixOf key.toList) :=
      List.mem_filter.mpr ⟨there, (Bool.not_eq_true' _).mpr plain⟩
    obtain ⟨item, member, told, _⟩ := exists_of_mem_left (keyedPercentiles_eq_ok.mp keyed) kept
    exact ⟨item, List.mem_mergeSort.mpr member, (Option.some.inj (number.symm.trans told)).symm⟩
  · cases here.symm.trans other

/-- A level holds the answer to each of its requests, if their names are apart. -/
theorem exists_of_collect {request : Request} (distinct : (requests.map Request.outerName).Nodup)
    (read : collect requests members [] = .ok outcomes) (asked : request ∈ requests)
    (here : Dict.find? request.outerName members = some body) :
    ∃ outcome, ofRequest request body = .ok outcome ∧ (request.outerName, outcome) ∈ outcomes := by
  have answered := collect_find? distinct (fun _ _ => rfl) read request asked
  rw [here, mapM_some_eq_ok] at answered
  obtain ⟨outcome, answered, held⟩ := answered
  exact ⟨outcome, answered, (ordered_collect List.Pairwise.nil read).mem_iff.mpr held⟩

section Apart

variable {number : Double → Prop} {x : Double}

theorem percent_of_ofMeasure (written : body.KeyedPercent x)
    (read : ofMeasure .percentiles name body = .ok outcome) (sound : Sound number percent outcome) :
    percent x := by
  obtain ⟨items, listed, rfl⟩ := map_eq_ok.mp read
  obtain ⟨item, member, rfl⟩ := exists_of_percentilesOf written listed
  cases sound with
  | percentiles percents each => exact percents item member

/-- **Every percent that is written as a key is read**, if the names of requests are apart. -/
theorem percent_of_ofRequest {request : Request} {around : List String}
    (written : request.KeyedPercent body x) (apart : Request.clash? around request = none)
    (read : ofRequest request body = .ok outcome) (sound : Sound number percent outcome) :
    percent x := by
  induction written generalizing outcome around with
  | plain unscoped asked written =>
    rw [ofRequest, ofMeasureRequest, unscoped, asked] at read
    exact percent_of_ofMeasure written read sound
  | filtered filtering asked here written =>
    rw [ofRequest] at read
    obtain ⟨count, _, _, decoded, rfl⟩ := (ofMeasureRequest_eq_ok filtering).mp read
    rw [here, asked, mapM_some_eq_ok] at decoded
    obtain ⟨answer, answered, rfl⟩ := decoded
    cases sound with
    | filter _ _ each => exact percent_of_ofMeasure written answered (each _ List.mem_cons_self)
  | inside listed there asked here _ later =>
    rw [ofRequest] at read
    obtain ⟨items, buckets, own, rfl, made⟩ := terms_of_termsOf read
    cases listed.symm.trans own
    obtain ⟨bucket, member, made⟩ := exists_of_mem_left made there
    obtain ⟨members, object, collected⟩ := bind_eq_ok.mp (bucketOf_eq_ok.mp made).2.2
    rw [Json.member?_of_members? (require_eq_ok.mp object)] at here
    -- No other request of the level has this name, so the answer was not written over.
    obtain ⟨distinct, passed⟩ :=
      Request.clashOfAll?_eq_none.mp (Request.clash?_group_eq_none.mp apart).2
    obtain ⟨answer, answered, held⟩ := exists_of_collect distinct collected asked here
    cases sound with
    | terms _ each => exact later (passed _ asked).2 answered (each bucket member _ held)

/-- **Every percent of a level that is written as a key is read.** -/
theorem percent_of_ofLevel {level : Json} (accepted : Request.checkNames requests = .ok ())
    (written : Request.LevelKeyedPercent requests level x)
    (read : ofLevel requests level = .ok outcomes) (sound : LevelSound number percent outcomes) :
    percent x := by
  obtain ⟨request, asked, body, here, written⟩ := written
  obtain ⟨members, object, collected⟩ := ofLevel_eq_ok.mp read
  rw [Json.member?_of_members? object] at here
  obtain ⟨distinct, passed⟩ := Request.clashOfAll?_eq_none.mp (Request.checkNames_eq_ok.mp accepted)
  obtain ⟨answer, answered, held⟩ := exists_of_collect distinct collected asked here
  exact percent_of_ofRequest written (passed request asked).2 answered (sound.each _ held)

end Apart

/-! ### Stored levels -/

/-- A level of finite numbers is stored as it is if its percents are finite too, and lost
otherwise. -/
theorem LevelSound.stored_or_lost (sound : LevelSound (·.isFinite = true) percent outcomes) :
    Storable outcomes ∧ level? (levelJson outcomes) = some outcomes ∨
      ¬ Storable outcomes ∧ level? (levelJson outcomes) = none := by
  by_cases storable : Storable outcomes
  · refine .inl ⟨storable, level?_of_each storable.ordered fun answer member => ?_⟩
    exact outcome?_json (storable.each answer member)
  · refine .inr ⟨storable, Option.eq_none_iff_forall_ne_some.mpr fun others read => storable ?_⟩
    refine ⟨sound.ordered, fun answer member => ?_⟩
    obtain ⟨_, here⟩ := exists_of_level? sound.ordered read member
    exact (sound.each answer member).finite_of_read here

/-- **Answers are finite and can be stored, but for percents written as keys.** Every floating
number of a level that was read is finite or such a percent. If all percents are finite then what is
stored is read back, else it cannot be read; and they are, exactly if those that are written as keys
are. -/
theorem finite_unless_keyed {level : Json} (read : ofLevel requests level = .ok outcomes) :
    LevelSound (·.isFinite = true) (fun x => x.isFinite = true ∨
      Request.LevelKeyedPercent requests level x) outcomes ∧
      (Storable outcomes ∧ level? (levelJson outcomes) = some outcomes ∨
        ¬ Storable outcomes ∧ level? (levelJson outcomes) = none) ∧
      (Request.checkNames requests = .ok () →
        (Storable outcomes ↔
          ∀ x, Request.LevelKeyedPercent requests level x → x.isFinite = true)) := by
  have sound : LevelSound (·.isFinite = true)
      (fun x => x.isFinite = true ∨ Request.LevelKeyedPercent requests level x) outcomes :=
    levelSound_of_ofLevel (fun _ => .inl) (fun _ => .inr) read
  refine ⟨sound, sound.stored_or_lost,
    fun accepted => ⟨fun storable x keyed => ?_, fun keyed => ?_⟩⟩
  · exact percent_of_ofLevel accepted keyed read storable
  · exact levelSound_of_ofLevel (fun _ finite => finite) keyed read

/-- Percentiles of emissions. -/
def percentilesOfEmissions : Request :=
  .measure ⟨"percentiles_emissions", .percentiles, "emissions", none, [.ofInt 50], none, none⟩

/-- An answer to these with one value, under a key. -/
def emissionsUnder (key : String) : Json :=
  .object [("percentiles_emissions", .object [("values", .object [(key, .ofInt 120)])])]

theorem scan_of_emissionsUnder {key : String} {x : Double}
    (keyed : Request.LevelKeyedPercent [percentilesOfEmissions] (emissionsUnder key) x) :
    Scan.real? key.toList = some x := by
  obtain ⟨request, asked, answer, here, keyed⟩ := keyed
  obtain rfl := List.mem_singleton.mp asked
  cases here
  cases keyed with
  | filtered filtering => cases filtering
  | plain _ _ keyed =>
    obtain ⟨values, text, value, here, there, _, number⟩ := keyed
    cases here
    cases List.mem_singleton.mp there
    exact number

/-- The median is read and can be stored. -/
theorem finite_unless_keyed_median : ∃ outcomes,
    ofLevel [percentilesOfEmissions] (emissionsUnder "50.0") = .ok outcomes ∧ Storable outcomes ∧
      level? (levelJson outcomes) = some outcomes := by
  obtain ⟨outcomes, read⟩ : ∃ outcomes,
      ofLevel [percentilesOfEmissions] (emissionsUnder "50.0") = .ok outcomes := ⟨_, rfl⟩
  obtain ⟨_, stored, exactly⟩ := finite_unless_keyed read
  have accepted : Request.checkNames [percentilesOfEmissions] = .ok () := by decide +kernel
  have fifty : ∀ x : Double, Scan.real? "50.0".toList = some x → x.isFinite = true := by
    decide +kernel
  have storable : Storable outcomes :=
    (exactly accepted).mpr fun x keyed => fifty x (scan_of_emissionsUnder keyed)
  exact ⟨outcomes, read, storable, (stored.resolve_right fun lost => lost.1 storable).2⟩

/-- A percent that is not a number is read, and the answer cannot be read back once it is stored. -/
theorem percent_without_number : ∃ item : PercentileValue, item.percent.isFinite = false ∧
    ofLevel [percentilesOfEmissions] (emissionsUnder "NaN") =
      .ok [("percentiles_emissions", .percentiles [item])] ∧
    level? (levelJson [("percentiles_emissions", .percentiles [item])]) = none := by
  have listed :
      percentilesOf "percentiles_emissions" (.object [("values", .object [("NaN", .ofInt 120)])]) =
      .ok [⟨.notANumber false, some (.ofInt 120)⟩] := by decide +kernel
  have answered :
      ofRequest percentilesOfEmissions (.object [("values", .object [("NaN", .ofInt 120)])]) =
      .ok (.percentiles [⟨.notANumber false, some (.ofInt 120)⟩]) := by
    rw [percentilesOfEmissions, ofRequest]
    exact map_eq_ok.mpr ⟨_, listed, rfl⟩
  refine ⟨⟨.notANumber false, some (.ofInt 120)⟩, Binary.isFinite_notANumber false, ?_, rfl⟩
  refine ofLevel_eq_ok.mpr ⟨_, rfl, collect_cons_eq_ok.mpr (.inr ⟨_, _, rfl, answered, ?_⟩)⟩
  rw [collect]
  rfl

end Outcome

end FacetQuery
