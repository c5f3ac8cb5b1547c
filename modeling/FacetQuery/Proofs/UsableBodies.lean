/-
**Which bodies are usable.**

Settings are checked: they ask for buckets at all, and for percents alone. Predicates are checked:
no operand is written as null. Not checked are the percents that a caller names with percentiles,
and whether the backend gives as many buckets as the settings ask for. So a body has no null in it,
and no percent out of range, exactly if no such percent is named, and it asks for too many buckets
exactly if the settings do and it asks for buckets.

* `Settings.isPercent_iff` — **a percent** is a finite number from zero to a hundred.
* `Json.AtPercents`, `Json.SizedTerms` — **an aggregation** that is asked for at percents, or in a
  usable size.
* `Request.nullFree_level` — **a level is free of null** if its measures are.
* `Search.NamesPercent`, `Facet.OfBuckets` — what a caller names, and what is answered by buckets.
* `Session.body_usable_iff` — **which bodies are usable.**
-/

import FacetQuery.Proofs.AskedAggregations
import FacetQuery.Proofs.NullFree
import FacetQuery.Proofs.NumberValues
import FacetQuery.Proofs.SearchCalls

namespace FacetQuery

/-! ### Settings -/

/-- A number of a magnitude below infinity is finite. -/
theorem Binary.isFinite_of_natAbs_lt {f : FloatFormat} {x : Binary f}
    (small : x.scaled.natAbs < f.steps f.infinity) : x.isFinite = true := by
  rw [natAbs_scaled] at small
  exact decide_eq_true (f.steps_strictMono.lt_iff_lt.mp small)

namespace Settings

/-- The most buckets that the backend gives. -/
def mostBuckets : Nat := 2147483647

-- Settings in which nothing is chosen ask for as many.
example : ({} : Settings).maxBuckets.toNat = mostBuckets := rfl

/-- **A percent is a finite number from zero to a hundred.** -/
theorem isPercent_iff {x : Double} :
    isPercent x = true ↔
      x.isFinite = true ∧ 0 ≤ x.scaled ∧ x.scaled ≤ 100 * FloatFormat.double.one := by
  have hundred : (Binary.ofInt 100 : Double).scaled = 100 * FloatFormat.double.one := by
    decide +kernel
  have bounded :
      100 * FloatFormat.double.one < FloatFormat.double.steps FloatFormat.double.infinity := by
    decide +kernel
  have number : x.isFinite = true → x.isNaN = false := by
    intro finite
    have below : x.code < FloatFormat.double.infinity := of_decide_eq_true finite
    exact decide_eq_false below.le.not_gt
  have above : Binary.atMost (.zero false) x = (!x.isNaN && decide (0 ≤ x.scaled)) := rfl
  have below :
      x.atMost (.ofInt 100) = (!x.isNaN && decide (x.scaled ≤ 100 * FloatFormat.double.one)) := by
    rw [Binary.atMost, Binary.ofInt_isNaN, hundred, Bool.not_false, Bool.and_true]
  rw [isPercent, above, below]
  simp only [Bool.and_eq_true, Bool.not_eq_true', decide_eq_true_eq]
  constructor
  · -- Infinity has a magnitude too, far above a hundred.
    rintro ⟨⟨_, least⟩, _, most⟩
    refine ⟨Binary.isFinite_of_natAbs_lt ?_, least, most⟩
    omega
  · rintro ⟨finite, least, most⟩
    exact ⟨⟨number finite, least⟩, number finite, most⟩

/-- **Settings are accepted** exactly if they ask for buckets and for percents alone. -/
theorem check_eq_ok {settings : Settings} :
    settings.check = .ok () ↔
      settings.maxBuckets ≠ 0 ∧ ∀ x ∈ settings.percents, isPercent x = true := by
  unfold check
  by_cases zero : settings.maxBuckets = 0
  · simp [zero]
  · rw [if_neg zero]
    cases found : settings.percents.find? fun x => !isPercent x with
    | none => simpa [zero] using found
    | some x =>
      have unfit : isPercent x = false := by simpa using List.find?_some found
      refine iff_of_false nofun fun ⟨_, all⟩ => ?_
      exact nomatch (all x (List.mem_of_find?_eq_some found)).symm.trans unfit

end Settings

/-! ### Aggregations of a kind -/

namespace Json

/-- An entry is a number from zero to a hundred. -/
def IsPercent (entry : Json) : Prop :=
  ∃ x, entry.double? = some x ∧ 0 ≤ x.scaled ∧ x.scaled ≤ 100 * FloatFormat.double.one

/-- **If percentiles are asked for**, then at percents, where any are given. -/
def AtPercents (aggregation : Json) : Prop :=
  ∀ percentiles, aggregation.member? "percentiles" = some percentiles →
    ∀ percents, percentiles.member? "percents" = some percents →
      ∃ entries, percents = .array entries ∧ ∀ entry ∈ entries, entry.IsPercent

/-- **If terms are asked for**, then in a size that the backend gives, and at least one. -/
def SizedTerms (aggregation : Json) : Prop :=
  ∀ terms, aggregation.member? "terms" = some terms →
    ∃ size : Nat, (terms.member? "size").bind int? = some (size : Int) ∧ 1 ≤ size ∧
      size ≤ Settings.mostBuckets

theorem isPercent_ofDouble {x : Double} : (ofDouble x).IsPercent ↔ Settings.isPercent x = true := by
  rw [Settings.isPercent_iff]
  unfold ofDouble Number.ofDouble?
  by_cases finite : x.isFinite = true
  · rw [dif_pos finite]
    constructor
    · rintro ⟨y, same, range⟩
      obtain rfl := Option.some.inj same
      exact ⟨finite, range⟩
    · rintro ⟨_, range⟩
      exact ⟨x, rfl, range⟩
  · rw [dif_neg finite]
    refine iff_of_false ?_ fun ⟨also, _⟩ => finite also
    rintro ⟨_, null, _⟩
    exact nomatch null

theorem member?_pair (first second : String × Json) (name : String) :
    (record [first, second]).member? name =
      if second.1 = name then some second.2 else if first.1 = name then some first.2 else none := by
  show Dict.find? name (Dict.insert second.1 second.2 (Dict.insert first.1 first.2 [])) = _
  rw [Dict.find?_insert, Dict.find?_insert, Dict.find?_nil]

/-- A count that is written as the size of terms is read from there. -/
theorem exists_size {field : String} {count : UInt32} :
    (∃ size : Nat,
      ((record [("field", .string field), ("size", .ofInt count.toNat)]).member? "size").bind int? =
        some (size : Int) ∧ 1 ≤ size ∧ size ≤ Settings.mostBuckets) ↔
      1 ≤ count.toNat ∧ count.toNat ≤ Settings.mostBuckets := by
  have read :
      ((record [("field", .string field), ("size", .ofInt count.toNat)]).member? "size").bind int? =
      some (count.toNat : Int) := by
    rw [member?_pair, if_pos rfl, ofInt_eq (fitsEight_count count)]
    rfl
  rw [read]
  constructor
  · rintro ⟨size, same, range⟩
    obtain rfl : count.toNat = size := Int.ofNat.inj (Option.some.inj same)
    exact range
  · exact fun range => ⟨_, rfl, range⟩

/-- What asks for no percentiles does so at percents. -/
theorem atPercents_of_none {aggregation : Json}
    (absent : aggregation.member? "percentiles" = none) :
    aggregation.AtPercents := fun _ asked => nomatch absent.symm.trans asked

/-- What asks for no terms does so in a usable size. -/
theorem sizedTerms_of_none {aggregation : Json} (absent : aggregation.member? "terms" = none) :
    aggregation.SizedTerms := fun _ asked => nomatch absent.symm.trans asked

end Json

namespace MeasureRequest

variable {request : MeasureRequest}

theorem member?_percentiles_body :
    request.body.member? "percentiles" =
      if request.measure = .percentiles then
        some <| .record <| ("field", .string request.field) ::
          if request.percents.isEmpty then []
          else [("percents", .array (request.percents.map Json.ofDouble))]
      else none := by
  unfold body
  cases request.measure <;> rfl

theorem member?_terms_body :
    request.body.member? "terms" =
      if request.measure = .distinct then
        some <| .record <| ("field", .string request.field) ::
          request.size.elim [] fun size => [("size", .ofInt size.toNat)]
      else none := by
  unfold body
  cases request.measure <;> rfl

/-- A filter is itself neither percentiles nor terms. -/
theorem member?_filtered {scope : Scope} (filtered : request.scope = some scope) {name : String}
    (notFilter : "filter" ≠ name) (notInside : "aggs" ≠ name) :
    request.json.member? name = none := by
  unfold json
  rw [filtered]
  exact (Json.member?_pair _ _ _).trans ((if_neg notInside).trans (if_neg notFilter))

/-- **A measure asks at percents** exactly if it is not percentiles at anything else. -/
theorem atPercents_body :
    request.body.AtPercents ↔
      (request.measure = .percentiles → ∀ x ∈ request.percents, Settings.isPercent x = true) := by
  unfold Json.AtPercents
  rw [member?_percentiles_body]
  by_cases measure : request.measure = .percentiles
  · rw [if_pos measure]
    simp only [Option.some.injEq, forall_eq', measure, forall_const]
    cases percents : request.percents with
    | nil =>
      refine iff_of_true (fun _ given => ?_) nofun
      exact nomatch given
    | cons first rest =>
      rw [List.isEmpty_cons, if_neg Bool.false_ne_true, Json.member?_pair, if_pos rfl]
      simp only [Option.some.injEq, forall_eq', Json.array.injEq, exists_eq_left',
        List.forall_mem_map, Json.isPercent_ofDouble]
  · rw [if_neg measure]
    exact iff_of_true (fun _ asked => nomatch asked) fun same => absurd same measure

/-- **A measure asks for a usable number of buckets** exactly if it asks for none or for such a
number. -/
theorem sizedTerms_body {most : UInt32}
    (sized : request.size = if request.measure = .distinct then some most else none) :
    request.body.SizedTerms ↔
      (request.measure = .distinct → 1 ≤ most.toNat ∧ most.toNat ≤ Settings.mostBuckets) := by
  unfold Json.SizedTerms
  rw [member?_terms_body, sized]
  by_cases measure : request.measure = .distinct
  · rw [if_pos measure, if_pos measure]
    simp only [Option.some.injEq, forall_eq', measure, forall_const, Option.elim_some]
    exact Json.exists_size
  · rw [if_neg measure]
    exact iff_of_true (fun _ asked => nomatch asked) fun same => absurd same measure

end MeasureRequest

/-! ### Requests -/

/-- **A measure with its filter is written without null**, unless the measure alone is not. -/
theorem MeasureRequest.nullFree_json {request : MeasureRequest}
    (queries : ∀ scope, request.scope = some scope → scope.clause.json.NullFree) :
    request.json.NullFree ↔
      (request.measure = .percentiles → ∀ x ∈ request.percents, x.isFinite = true) := by
  rw [← nullFree_body]
  unfold json
  cases filtered : request.scope with
  | none => exact Iff.rfl
  | some scope =>
    refine (Json.nullFree_record (by simp)).trans ?_
    rw [List.forall_mem_cons, List.forall_mem_singleton, Json.nullFree_single]
    exact and_iff_right (queries scope filtered)

namespace Request

variable {requests inner : List Request} {settings : Settings} {facets : List Facet}

/-- A grouping has its terms, and nothing else but the level inside. -/
theorem member?_group {name field : String} {size : UInt32} {key : String}
    (notInside : "aggs" ≠ key) :
    (json (.group name field size inner)).member? key =
      if "terms" = key then some (.record [("field", .string field), ("size", .ofInt size.toNat)])
      else none := by
  rw [json_group]
  cases aggs? (.group name field size inner) with
  | none => rfl
  | some level => exact (Json.member?_pair _ _ _).trans (if_neg notInside)

/-- What holds of every filter holds of what a measure is written as, if it does of the measure
alone. -/
theorem forall_written {P : Json → Prop} {request : MeasureRequest}
    (filters : ∀ scope, request.scope = some scope → P request.json) :
    (∀ aggregation ∈ written (.measure request), P aggregation) ↔ P request.body := by
  rw [written, List.forall_mem_cons]
  cases filtered : request.scope with
  | none =>
    rw [MeasureRequest.json, filtered]
    exact and_iff_left nofun
  | some scope =>
    rw [Option.toList_some, List.map_singleton, List.forall_mem_singleton]
    exact and_iff_right (filters scope filtered)

/-- **What a request is written as asks at percents** exactly if its measure does. -/
theorem atPercents_written {request : Request} :
    (∀ aggregation ∈ request.written, aggregation.AtPercents) ↔
      ∀ measure, request = .measure measure → measure.measure = .percentiles →
        ∀ x ∈ measure.percents, Settings.isPercent x = true := by
  cases request with
  | group name field size inner =>
    refine iff_of_true ?_ nofun
    rw [written, List.forall_mem_singleton]
    exact Json.atPercents_of_none ((member?_group (by decide)).trans (if_neg (by decide)))
  | measure request =>
    simp only [measure.injEq, forall_eq', ← MeasureRequest.atPercents_body]
    refine forall_written fun scope filtered => Json.atPercents_of_none ?_
    exact MeasureRequest.member?_filtered filtered (by decide) (by decide)

/-- Nothing is among no requests. -/
theorem not_among_nil {request : Request} (among : Among [] request) : False :=
  among.induction (fun _ member => List.not_mem_nil member) fun _ absent _ _ => absent

/-- A level is free of null if its requests are. -/
theorem nullFree_members (distinct : (requests.map outerName).Nodup) :
    (level requests).NullFree ↔ ∀ request ∈ requests, request.json.NullFree := by
  rw [level, members_eq, Json.nullFree_record, List.forall_mem_map]
  rw [List.map_map]
  exact distinct

/-- A grouping is free of null if the requests inside are. -/
theorem nullFree_group {name field : String} {size : UInt32}
    (distinct : (inner.map outerName).Nodup) :
    (json (.group name field size inner)).NullFree ↔ ∀ request ∈ inner, request.json.NullFree := by
  have termsFree : (terms field size).2.NullFree := by
    refine (Json.nullFree_record (by simp)).mpr ?_
    simp [Json.nullFree_string, Json.nullFree_count]
  rw [json_group, aggs?, ← nullFree_members distinct]
  cases inner with
  | nil =>
    have bare : (level []).NullFree := (nullFree_members distinct).mpr nofun
    exact (Json.nullFree_record (by simp)).trans
      (iff_of_true (List.forall_mem_singleton.mpr termsFree) bare)
  | cons first rest =>
    refine (Json.nullFree_record (by simp [terms])).trans ?_
    rw [List.forall_mem_cons]
    exact (and_iff_right termsFree).trans List.forall_mem_singleton

/-- **A level is free of null exactly if its measures are**, at every depth. -/
theorem nullFree_level {around : List String}
    (accepted : Facet.Accepted settings around facets requests) :
    (level requests).NullFree ↔
      ∀ measure, Among requests (.measure measure) → (json (.measure measure)).NullFree := by
  constructor
  · intro free measure among
    refine among.induction (P := fun request => request.json.NullFree) ?_ ?_
    · exact (nullFree_members accepted.nodup).mp free
    · exact fun outer above => (nullFree_group (accepted.nodup_of_among outer)).mp above
  · intro each
    have free (request : Request) (among : Among requests request) : request.json.NullFree := by
      induction request using inside_induction with
      | measure measure => exact each measure among
      | group name field size inner later =>
        refine (nullFree_group (accepted.nodup_of_among among)).mpr fun deeper member => ?_
        exact later deeper member (among.inside member)
    exact (nullFree_members accepted.nodup).mpr fun request member =>
      free request ⟨requests, .inl rfl, member⟩

end Request

/-! ### What a caller asks for -/

/-- A search names a percent with percentiles, at any depth. -/
def Search.NamesPercent (search : Search) (x : Double) : Prop :=
  ∃ spec, Facet.Among search.facets (.measure spec) ∧ spec.measure = .percentiles ∧
    x ∈ spec.percents

/-- A facet that is answered by buckets. -/
def Facet.OfBuckets : Facet → Prop
  | .group _ _ => True
  | .measure spec => spec.measure = .distinct

namespace Request

variable {requests : List Request} {settings : Settings} {facets : List Facet}

/-- A measure of a level is that of a facet, made ready. -/
theorem Among.spec (accepted : Facet.Accepted settings [] facets requests)
    {measure : MeasureRequest} (among : Among requests (.measure measure)) :
    ∃ spec clause order, Facet.Among facets (.measure spec) ∧
      spec.filter.mapM Clause.ofPredicate = .ok clause ∧
      measure = spec.made settings clause order := by
  obtain ⟨facet, asked, made⟩ := among.facet accepted
  cases facet with
  | group target inner =>
    obtain ⟨_, _, _, same⟩ := ofFacet_group_eq_ok.mp made
    exact nomatch same
  | measure spec =>
    obtain ⟨_, resolved, same⟩ := ofFacet_measure_eq_ok.mp made
    obtain rfl := Request.measure.inj same
    obtain ⟨_, clause, order, compiled, _, rfl⟩ := MeasureSpec.resolve_eq_ok.mp resolved
    exact ⟨spec, clause, order, asked, compiled, rfl⟩

/-- **Percentiles are written at the percents that are named with them**, or at those of the
settings if none are. -/
theorem forall_percents {P : Double → Prop} (accepted : Facet.Accepted settings [] facets requests)
    (standard : ∀ x ∈ settings.percents, P x) :
    (∀ measure, Among requests (.measure measure) → measure.measure = .percentiles →
        ∀ x ∈ measure.percents, P x) ↔
      ∀ spec, Facet.Among facets (.measure spec) → spec.measure = .percentiles →
        ∀ x ∈ spec.percents, P x := by
  constructor
  · intro all spec asked percentiles x named
    obtain ⟨request, among, made⟩ := exists_among accepted asked
    obtain ⟨measure, resolved, rfl⟩ := ofFacet_measure_eq_ok.mp made
    obtain ⟨_, clause, order, _, _, rfl⟩ := MeasureSpec.resolve_eq_ok.mp resolved
    refine all _ among percentiles x ?_
    rw [MeasureSpec.made,
      if_neg fun ⟨_, empty⟩ => List.ne_nil_of_mem named (List.isEmpty_iff.mp empty)]
    exact named
  · intro all measure among percentiles x written
    obtain ⟨spec, clause, order, asked, _, rfl⟩ := among.spec accepted
    rw [MeasureSpec.made] at written
    split at written
    · exact standard x written
    · exact all spec asked percentiles x written

/-- The filter of a measure is written without null. -/
theorem Among.nullFree_scope (accepted : Facet.Accepted settings [] facets requests)
    {measure : MeasureRequest} (among : Among requests (.measure measure)) {scope : Scope}
    (filtered : measure.scope = some scope) : scope.clause.json.NullFree := by
  obtain ⟨spec, clause, order, _, compiled, rfl⟩ := among.spec accepted
  obtain ⟨inner, rfl, rfl⟩ := Option.map_eq_some_iff.mp filtered
  obtain ⟨predicate, _, compiled⟩ := mapM_eq_ok_some.mp compiled
  exact Clause.nullFree_of_ofPredicate compiled

/-- **What a facet is written as asks for a usable number of buckets** exactly if the settings do,
or it is not answered by buckets. -/
theorem sizedTerms_written {facet : Facet} {request : Request}
    (made : ofFacet settings facet = .ok request) :
    (∀ aggregation ∈ request.written, aggregation.SizedTerms) ↔
      (facet.OfBuckets → 1 ≤ settings.maxBuckets.toNat ∧
        settings.maxBuckets.toNat ≤ Settings.mostBuckets) := by
  cases facet with
  | group target inner =>
    obtain ⟨_, requests, _, rfl⟩ := ofFacet_group_eq_ok.mp made
    rw [written, List.forall_mem_singleton, Json.SizedTerms, member?_group (by decide), if_pos rfl]
    simp only [Option.some.injEq, forall_eq', Facet.OfBuckets, forall_const]
    exact Json.exists_size
  | measure spec =>
    obtain ⟨measure, resolved, rfl⟩ := ofFacet_measure_eq_ok.mp made
    obtain ⟨_, clause, order, _, _, rfl⟩ := MeasureSpec.resolve_eq_ok.mp resolved
    refine (forall_written fun scope filtered => Json.sizedTerms_of_none ?_).trans
      (MeasureRequest.sizedTerms_body rfl)
    exact MeasureRequest.member?_filtered filtered (by decide) (by decide)

end Request

/-! ### Bodies -/

namespace Session

variable {session : Session} {search : Search} {body : Json}

/-- What stands in a body besides the level of its requests is written without null. -/
theorem nullFree_bodyMembers {clause : Option Clause} {size : Option UInt32}
    (asked : Option (List Request))
    (compiled : search.filter.mapM Clause.ofPredicate = .ok clause) :
    (Json.object (bodyMembers clause asked size)).NullFree ↔
      ∀ requests ∈ asked.toList, (Request.level requests).NullFree := by
  have query : ∀ inner ∈ clause.toList, (queryMember inner).2.NullFree := by
    intro inner member
    obtain rfl : clause = some inner := Option.mem_toList.mp member
    obtain ⟨predicate, _, compiled⟩ := mapM_eq_ok_some.mp compiled
    refine Json.nullFree_single.mpr (Json.nullFree_single.mpr (Json.nullFree_array.mpr ?_))
    exact List.forall_mem_singleton.mpr (Clause.nullFree_of_ofPredicate compiled)
  have size : ∀ count ∈ size.toList, (sizeMember count).2.NullFree := by
    intro count _
    dsimp only [sizeMember]
    exact Json.nullFree_count count
  rw [Json.nullFree_object, bodyMembers, List.forall_mem_append, List.forall_mem_append,
    List.forall_mem_map, List.forall_mem_map, List.forall_mem_map]
  exact (and_iff_left size).trans (and_iff_left query)

/-- A body that is made for no facets asks for nothing. -/
theorem not_asks_bodyMembers {clause : Option Clause} {size : Option UInt32} {aggregation : Json} :
    ¬ (Json.object (bodyMembers clause none size)).Asks aggregation := by
  apply Json.not_asks
  cases clause with
  | none => cases size <;> rfl
  | some inner => cases size <;> rfl

/-- **What a body is made of**: the facets of its search are accepted, and it asks for exactly their
requests and is free of null if they are. -/
theorem exists_requests (made : (session.body search).result = .ok body) :
    ∃ requests, Facet.Accepted session.settings [] search.facets requests ∧
      (∀ aggregation, body.Asks aggregation ↔
        ∃ request, Request.Among requests request ∧ aggregation ∈ request.written) ∧
      (body.NullFree ↔ (Request.level requests).NullFree) := by
  rw [result_body, bind_eq_ok] at made
  obtain ⟨clause, compiled, made⟩ := made
  obtain ⟨requests, accepted, made⟩ := bind_eq_ok.mp made
  have accepted := Facet.accepted_iff.mpr accepted
  refine ⟨requests, accepted, ?_⟩
  obtain rfl := Except.ok.inj made
  -- A search without facets has no `aggs`, where the level of no requests would be an empty object.
  cases facets : search.facets with
  | nil =>
    have each := accepted.resolved
    rw [facets, Request.ofEach, Except.ok.injEq] at each
    subst each
    have bare : (Request.level []).NullFree :=
      (Request.nullFree_members accepted.nodup).mpr (List.forall_mem_nil _)
    refine ⟨fun aggregation => iff_of_false not_asks_bodyMembers ?_, ?_⟩
    · rintro ⟨request, among, _⟩
      exact Request.not_among_nil among
    · exact iff_of_true ((nullFree_bodyMembers none compiled).mpr (List.forall_mem_nil _)) bare
  | cons facet rest =>
    refine ⟨fun aggregation => Request.asks_level accepted rfl, ?_⟩
    exact (nullFree_bodyMembers (some requests) compiled).trans List.forall_mem_singleton

/-- The percents of a written body are those that its search names, and those of the settings. -/
theorem forall_written_percents {P : Double → Prop} {requests : List Request}
    (accepted : Facet.Accepted session.settings [] search.facets requests)
    (standard : ∀ x ∈ session.settings.percents, P x) :
    (∀ measure, Request.Among requests (.measure measure) → measure.measure = .percentiles →
        ∀ x ∈ measure.percents, P x) ↔ ∀ x, search.NamesPercent x → P x := by
  rw [Request.forall_percents accepted standard]
  constructor
  · rintro all x ⟨spec, asked, percentiles, member⟩
    exact all spec asked percentiles x member
  · intro all spec asked percentiles x member
    exact all x ⟨spec, asked, percentiles, member⟩

/-- **No null stands in a body** exactly if every percent that its search names is finite. -/
theorem nullFree_body (checked : session.settings.check = .ok ())
    (made : (session.body search).result = .ok body) :
    body.NullFree ↔ ∀ x, search.NamesPercent x → x.isFinite = true := by
  obtain ⟨requests, accepted, _, free⟩ := exists_requests made
  obtain ⟨_, percents⟩ := Settings.check_eq_ok.mp checked
  have finite : ∀ x ∈ session.settings.percents, x.isFinite = true := fun x member =>
    (Settings.isPercent_iff.mp (percents x member)).1
  rw [free, Request.nullFree_level accepted, ← forall_written_percents accepted finite]
  refine forall_congr' fun measure => forall_congr' fun among => ?_
  rw [Request.json]
  exact MeasureRequest.nullFree_json fun scope => among.nullFree_scope accepted

/-- **Percentiles are asked for at percents** exactly if all that are named are percents. -/
theorem atPercents_body (checked : session.settings.check = .ok ())
    (made : (session.body search).result = .ok body) :
    (∀ aggregation, body.Asks aggregation → aggregation.AtPercents) ↔
      ∀ x, search.NamesPercent x → Settings.isPercent x = true := by
  obtain ⟨requests, accepted, asks, _⟩ := exists_requests made
  obtain ⟨_, percents⟩ := Settings.check_eq_ok.mp checked
  rw [← forall_written_percents accepted percents]
  constructor
  · intro all measure among
    have own := Request.atPercents_written.mp fun aggregation written =>
      all aggregation ((asks aggregation).mpr ⟨_, among, written⟩)
    exact own measure rfl
  · intro all aggregation asked
    obtain ⟨request, among, written⟩ := (asks aggregation).mp asked
    refine Request.atPercents_written.mpr ?_ aggregation written
    rintro measure rfl
    exact all measure among

/-- **Buckets are asked for in a usable number** exactly if the settings have one, or none are asked
for. -/
theorem sizedTerms_body (checked : session.settings.check = .ok ())
    (made : (session.body search).result = .ok body) :
    (∀ aggregation, body.Asks aggregation → aggregation.SizedTerms) ↔
      ∀ facet, Facet.Among search.facets facet → facet.OfBuckets →
        session.settings.maxBuckets.toNat ≤ Settings.mostBuckets := by
  obtain ⟨requests, accepted, asks, _⟩ := exists_requests made
  obtain ⟨buckets, _⟩ := Settings.check_eq_ok.mp checked
  have positive : 1 ≤ session.settings.maxBuckets.toNat := by
    rw [Nat.one_le_iff_ne_zero]
    exact fun zero => buckets (UInt32.toNat_inj.mp zero)
  constructor
  · intro all facet asked grouped
    obtain ⟨request, among, resolved⟩ := Request.exists_among accepted asked
    have own := (Request.sizedTerms_written resolved).mp fun aggregation written =>
      all aggregation ((asks aggregation).mpr ⟨request, among, written⟩)
    exact (own grouped).2
  · intro all aggregation asked
    obtain ⟨request, among, written⟩ := (asks aggregation).mp asked
    obtain ⟨facet, asked, resolved⟩ := among.facet accepted
    refine (Request.sizedTerms_written resolved).mpr (fun grouped => ?_) aggregation written
    exact ⟨positive, all facet asked grouped⟩

/-- **Which bodies are usable.** Of the settings it is checked that they ask for buckets, and for
percents alone. Then no null stands in the body of a search exactly if every percent that the search
names is finite; percentiles are asked for at numbers from zero to a hundred exactly if every one
named is such a number; and terms are asked for in a size from one up to what the backend gives
exactly if the settings keep to that, or no facet is answered by buckets. -/
theorem body_usable_iff (checked : session.settings.check = .ok ())
    (made : (session.body search).result = .ok body) :
    (body.NullFree ↔ ∀ x, search.NamesPercent x → x.isFinite = true) ∧
      ((∀ aggregation, body.Asks aggregation → aggregation.AtPercents) ↔
        ∀ x, search.NamesPercent x → Settings.isPercent x = true) ∧
      ((∀ aggregation, body.Asks aggregation → aggregation.SizedTerms) ↔
        ∀ facet, Facet.Among search.facets facet → facet.OfBuckets →
          session.settings.maxBuckets.toNat ≤ Settings.mostBuckets) :=
  ⟨nullFree_body checked made, atPercents_body checked made, sizedTerms_body checked made⟩

/-- A session that asks for a hundred buckets. -/
def hundredBuckets : Session where
  settings := { maxBuckets := 100 }

/-- A session that asks for as many buckets as four bytes can count. -/
def everyBucket : Session where
  settings := { maxBuckets := 4294967295 }

/-- Percentiles of the emissions. -/
def emissionsAt (percents : List Double) : Facet :=
  .measure { measure := .percentiles, field := ⟨"emissions", .float, true⟩, percents := percents }

/-- The names of cars, and the median of their emissions. -/
def medianEmissions : Search where
  facets :=
    [.measure { measure := .distinct, field := ⟨"name", .text, true⟩ }, emissionsAt [.ofInt 50]]

/-- A hundred names and the median of the emissions are asked for in a usable body. -/
theorem body_usable_iff_medianEmissions :
    ∃ body, hundredBuckets.settings.check = .ok () ∧
      (hundredBuckets.body medianEmissions).result = .ok body ∧
      body.NullFree ∧ (∀ aggregation, body.Asks aggregation → aggregation.AtPercents) ∧
      ∀ aggregation, body.Asks aggregation → aggregation.SizedTerms := by
  have checked : hundredBuckets.settings.check = .ok () := by decide +kernel
  have rendered : (hundredBuckets.body medianEmissions).result.isOk = true := by decide +kernel
  have flat : ∀ facet, Facet.Among medianEmissions.facets facet →
      facet ∈ medianEmissions.facets := by
    rintro facet ⟨_, _, below, member⟩
    have whole : ∀ {around level}, Facet.Level [] medianEmissions.facets around level →
        level = medianEmissions.facets := by
      intro around level below
      induction below with
      | here => rfl
      | inside _ grouping above =>
        rw [above] at grouping
        simp [medianEmissions, emissionsAt] at grouping
    exact whole below ▸ member
  have named : ∀ x, medianEmissions.NamesPercent x → Settings.isPercent x = true := by
    rintro x ⟨spec, among, percentiles, member⟩
    have asked := flat _ among
    simp only [medianEmissions, emissionsAt, List.mem_cons, Facet.measure.injEq, List.not_mem_nil,
      or_false] at asked
    rcases asked with rfl | rfl
    · exact nomatch member
    · obtain rfl := List.mem_singleton.mp member
      decide +kernel
  cases made : (hundredBuckets.body medianEmissions).result with
  | error failure =>
    rw [made] at rendered
    exact nomatch rendered
  | ok body =>
    obtain ⟨free, percents, sized⟩ := body_usable_iff checked made
    refine ⟨body, checked, rfl, free.mpr ?_, percents.mpr named, sized.mpr fun _ _ _ => by decide⟩
    exact fun x here => (Settings.isPercent_iff.mp (named x here)).1

/-- Emissions of each kind at a percent that is not a number, and at one that is too large. -/
def unusableEmissions : Search where
  facets := [.group (.field ⟨"kind", .choice, true⟩) [emissionsAt [.notANumber false, .ofInt 150]]]

/-- Settings with more buckets than the backend gives are accepted, and percents that are none are
written: the body has a null in it, a percent out of range, and terms of a size that is too
large. -/
theorem unusable_body :
    ∃ body, everyBucket.settings.check = .ok () ∧
      (everyBucket.body unusableEmissions).result = .ok body ∧
      ¬ body.NullFree ∧ ¬ (∀ aggregation, body.Asks aggregation → aggregation.AtPercents) ∧
      ¬ ∀ aggregation, body.Asks aggregation → aggregation.SizedTerms := by
  have checked : everyBucket.settings.check = .ok () := by decide +kernel
  have rendered : (everyBucket.body unusableEmissions).result.isOk = true := by decide +kernel
  have grouped : Facet.Among unusableEmissions.facets
      (.group (.field ⟨"kind", .choice, true⟩) [emissionsAt [.notANumber false, .ofInt 150]]) :=
    ⟨[], _, .here, List.mem_singleton_self _⟩
  have named {x : Double} (member : x ∈ [.notANumber false, .ofInt 150]) :
      unusableEmissions.NamesPercent x :=
    ⟨_, ⟨_, _, .inside .here (List.mem_singleton_self _), List.mem_singleton_self _⟩, rfl, member⟩
  cases made : (everyBucket.body unusableEmissions).result with
  | error failure =>
    rw [made] at rendered
    exact nomatch rendered
  | ok body =>
    refine ⟨body, checked, rfl, fun free => ?_, fun percents => ?_, fun sized => ?_⟩
    · have finite :=
        (nullFree_body checked made).mp free (.notANumber false) (named List.mem_cons_self)
      exact absurd finite (by decide +kernel)
    · have inRange := (atPercents_body checked made).mp percents (.ofInt 150)
        (named (List.mem_cons_of_mem _ List.mem_cons_self))
      exact absurd inRange (by decide +kernel)
    · have small := (sizedTerms_body checked made).mp sized _ grouped trivial
      exact absurd small (by decide)

end Session

end FacetQuery
