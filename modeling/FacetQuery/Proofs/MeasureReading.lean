/-
**Reading a measure that was asked for.**

A measure is asked for under a name, answered by the member of that name and read under the same
name again.

* `MeasureSpec.document?` — **the document that answers a measure** in a level of a response: the
  member of the derived name, looked for inside the member of the filter's name if there is a
  filter.
* `Measure.Unanswered` — that document is not there, or it is a metric without a value.
* `Reading.present` — a read of a measure, its value left aside.
* `MeasureSpec.Answered` — **what is read is what was answered**, whatever the measure.
* `MeasureSpec.answered_of_find?` — that holds as soon as the level has the outcome of the request.
-/

import FacetQuery.Proofs.LevelAnswers
import FacetQuery.Proofs.Resolution

namespace FacetQuery

/-! ### What a response holds for a measure -/

namespace Measure

/-- Whether a measure is one number computed from the values of a field. -/
def isMetric : Measure → Bool
  | average => true
  | max => true
  | min => true
  | sum => true
  | _ => false

/-- Whether there is nothing to read in the document for a measure: there is none, or it is a metric
whose value is null or left out. -/
def Unanswered (measure : Measure) : Option Json → Prop
  | none => True
  | some document =>
    measure.isMetric = true ∧ ∀ value, document.member? "value" = some value → value.isNull = true

/-- Only metrics can be there without a value. -/
theorem not_unanswered {measure : Measure} (plain : measure.isMetric = false) (document : Json) :
    ¬ measure.Unanswered (some document) := by
  rintro ⟨computed, _⟩
  rw [plain] at computed
  cases computed

/-- What a read says if there is nothing to read under a name; only a count may be absent. -/
def absence (measure : Measure) (name : String) : Except Failure Bool :=
  if measure = .count then .ok false else .error (.missing name)

end Measure

namespace MeasureSpec

/-- The document in a level of a response that answers a measure. -/
def document? (spec : MeasureSpec) (level : Json) : Option Json :=
  match spec.filter with
  | none => level.member? spec.name
  | some predicate =>
    match Clause.ofPredicate predicate with
    | .ok clause =>
      (level.member? (FacetName.scope spec.name clause.fingerprint)).bind (Json.member? spec.name)
    | .error _ => none

end MeasureSpec

/-! ### Reads with their values left aside -/

namespace Reading

variable {t : ValueType}

/-- Whether a read of a measure finds a value; metrics are read as numbers of `target` and first
hits as values of `source`. -/
def present (measure : Measure) (target : NumberType) (source : SourceType) (outcomes : Outcomes)
    (field : Field t) (filter : Option Predicate) : Except Failure Bool :=
  match measure with
  | .sum | .average | .min | .max =>
    (metric outcomes measure.kind target field filter).map fun _ => true
  | .count => (count outcomes field filter).map Option.isSome
  | .cardinality => (cardinality outcomes field filter).map fun _ => true
  | .percentiles => (percentiles outcomes field filter).map fun _ => true
  | .stats => (stats outcomes field filter).map fun _ => true
  | .firstBy => (firstBy outcomes source field filter).map fun _ => true
  | .distinct => (distinct outcomes field filter).map fun _ => true

/-- A read that says that there is no answer. -/
def IsAbsent (result : Except Failure Bool) : Prop :=
  result = .ok false ∨ ∃ name, result = .error (.missing name)

/-- A read that found an answer of the right shape: at worst its value is not one of the type asked
for. -/
def Settled (result : Except Failure Bool) : Prop :=
  result = .ok true ∨ ∃ key target, result = .error (.conversion key target)

theorem Settled.not_malformed {result : Except Failure Bool} (settled : Settled result)
    (name : String) (reason : Malformation) : result ≠ .error (.malformed name reason) := by
  rcases settled with found | ⟨key, target, failed⟩
  · rw [found]
    exact fun same => by cases same
  · rw [failed]
    exact fun same => by cases same

theorem Settled.not_isAbsent {result : Except Failure Bool} (settled : Settled result) :
    ¬ IsAbsent result := by
  rintro (absent | ⟨name, absent⟩) <;> rcases settled with found | ⟨key, target, failed⟩
  · cases absent.symm.trans found
  · cases absent.symm.trans failed
  · cases absent.symm.trans found
  · cases absent.symm.trans failed

theorem isAbsent_absence (measure : Measure) (name : String) : IsAbsent (measure.absence name) := by
  unfold Measure.absence
  split
  · exact .inl rfl
  · exact .inr ⟨name, rfl⟩

end Reading

/-- **A measure is read as it was answered.** A field of the measure's path finds, with the
measure's kind and filter, exactly the outcome of the document that answers the measure; a read says
that there is none exactly if there is nothing to read there, and it never finds an outcome of
another shape. -/
structure MeasureSpec.Answered (spec : MeasureSpec) (level : Json) (outcomes : Outcomes) :
    Prop where
  read : ∀ {t : ValueType} (field : Field t), field.path = spec.field.path →
    ∃ name found, Reading.lookupName field spec.measure.kind spec.filter = .ok name ∧
      Reading.locate outcomes field spec.measure.kind spec.filter = .ok ⟨name, found⟩ ∧
      (spec.document? level).mapM (Outcome.ofMeasure spec.measure spec.name) = .ok found ∧
      ∀ (target : NumberType) (source : SourceType),
        let result := Reading.present spec.measure target source outcomes field spec.filter
        (Reading.IsAbsent result ↔ spec.measure.Unanswered (spec.document? level)) ∧
          (Reading.IsAbsent result → result = spec.measure.absence name) ∧
          ∀ place reason, result ≠ .error (.malformed place reason)

/-! ### Finding the outcome -/

namespace MeasureSpec

variable {settings : Settings} {spec : MeasureSpec} {request : MeasureRequest} {level : Json}
  {outcomes : Outcomes} {t : ValueType} {field : Field t}

/-- The outcome inside a filter is that of the member of the measure's own name. -/
theorem filter_of_ofMeasureRequest {around : Scope} {body : Json} {outcome : Outcome}
    (inside : request.scope = some around)
    (read : Outcome.ofMeasureRequest request body = .ok outcome) :
    ∃ docCount inner, outcome = .filter docCount inner ∧
      (body.member? request.name).mapM (Outcome.ofMeasure request.measure request.name) =
        .ok (Dict.find? request.name inner) := by
  obtain ⟨docCount, answer, _, decoded, rfl⟩ := (Outcome.ofMeasureRequest_eq_ok inside).mp read
  refine ⟨docCount, _, rfl, ?_⟩
  rw [decoded]
  cases answer with
  | none => rfl
  | some answer => rw [Option.elim_some, Dict.find?, if_pos rfl]

/-- **A read finds the outcome of the document that answers the measure**, under the outer name of
the request. -/
theorem locate_of_find? (resolved : spec.resolve settings = .ok request)
    (answered : (level.member? request.outerName).mapM (Outcome.ofMeasureRequest request) =
      .ok (Dict.find? request.outerName outcomes))
    (same : field.path = spec.field.path) :
    ∃ found, Reading.locate outcomes field spec.measure.kind spec.filter =
        .ok ⟨request.outerName, found⟩ ∧
      (spec.document? level).mapM (Outcome.ofMeasure spec.measure spec.name) = .ok found := by
  obtain ⟨valid, clause, order, compiled, _, rfl⟩ := resolve_eq_ok.mp resolved
  have named : FacetName.ofField field.ref spec.measure.kind = .ok spec.name :=
    FacetName.ofField_eq_ok.mpr ⟨(congrArg Path.check same).trans valid, congrArg _ same.symm⟩
  rw [made_outerName] at answered ⊢
  unfold Reading.locate document?
  rw [named, ok_bind]
  cases filter : spec.filter with
  | none =>
    rw [filter, mapM_none, Except.ok.injEq] at compiled
    subst compiled
    exact ⟨_, rfl, answered⟩
  | some predicate =>
    rw [filter, mapM_some_eq_ok] at compiled
    obtain ⟨clause, compiled, rfl⟩ := compiled
    simp only [compiled, ok_bind]
    unfold FacetName.outer at answered ⊢
    cases held : level.member? (FacetName.scope spec.name clause.fingerprint) with
    | none =>
      simp only [held, mapM_none, Except.ok.injEq] at answered
      rw [← answered]
      exact ⟨none, rfl, rfl⟩
    | some body =>
      simp only [held] at answered
      obtain ⟨outcome, read, stored⟩ := mapM_some_eq_ok.mp answered
      obtain ⟨docCount, inner, rfl, decoded⟩ := filter_of_ofMeasureRequest rfl read
      rw [stored]
      exact ⟨_, rfl, decoded⟩

end MeasureSpec

/-! ### Reading the outcome -/

/-- The value of a metric is left out exactly if it is null or not there. -/
theorem Outcome.metricValue_none_iff {name : String} {document : Json} {value : Option Double}
    (read : metricValue name document = .ok value) :
    value = none ↔ ∀ held, document.member? "value" = some held → held.isNull = true := by
  unfold metricValue at read
  unfold Json.member?
  cases object : document.members? with
  | none => simp [object] at read
  | some members =>
    rw [Option.bind_some]
    simp only [object] at read
    cases held : Dict.find? "value" members with
    | none =>
      simp only [held, Except.ok.injEq] at read
      simp [← read]
    | some document =>
      simp only [held] at read
      by_cases null : document.isNull = true
      · rw [if_pos null, Except.ok.injEq] at read
        simp [← read, null]
      · rw [if_neg null] at read
        obtain ⟨x, _, rfl⟩ := map_eq_ok.mp read
        simp [null]

namespace Reading

variable {t : ValueType} {outcomes : Outcomes} {field : Field t} {filter : Option Predicate}
  {name : String}

/-- Without an outcome a read says that there is none. -/
theorem present_of_none {measure : Measure} (target : NumberType) (source : SourceType)
    (located : locate outcomes field measure.kind filter = .ok ⟨name, none⟩) :
    present measure target source outcomes field filter = measure.absence name := by
  cases measure <;> unfold Measure.kind at located <;>
    simp only [present, metric, count, cardinality, percentiles, stats, firstBy, firstAs, distinct,
      Measure.kind, located, ok_bind] <;> rfl

/-- A metric without a value is missing. -/
theorem metric_of_none {kind : FacetKind} (target : NumberType)
    (located : locate outcomes field kind filter = .ok ⟨name, some (.metric none)⟩) :
    metric outcomes kind target field filter = .error (.missing name) := by
  rw [metric, located]
  rfl

/-- A metric is read as the number of the type for its value. -/
theorem metric_of_ofDouble? {kind : FacetKind} {x : Double} {target : NumberType}
    {number : target.Carrier}
    (located : locate outcomes field kind filter = .ok ⟨name, some (.metric (some x))⟩)
    (read : target.ofDouble? x = some number) :
    metric outcomes kind target field filter = .ok number := by
  rw [metric, located]
  simp only [ok_bind, Found.expect, Found.outcome, pure_eq_ok, read]

/-- A metric is refused with its text by a type without a number for it. -/
theorem metric_of_ofDouble?_none {kind : FacetKind} {x : Double} {target : NumberType}
    (located : locate outcomes field kind filter = .ok ⟨name, some (.metric (some x))⟩)
    (unread : target.ofDouble? x = none) :
    metric outcomes kind target field filter =
      .error (.conversion (Layout.message.write x) target.label) := by
  rw [metric, located]
  simp only [ok_bind, Found.expect, Found.outcome, pure_eq_ok, unread]

/-- A metric with a value is read, unless the type asked for does not have the value. -/
theorem metric_of_some {kind : FacetKind} {x : Double} (target : NumberType)
    (located : locate outcomes field kind filter = .ok ⟨name, some (.metric (some x))⟩) :
    Settled ((metric outcomes kind target field filter).map fun _ => true) := by
  cases read : target.ofDouble? x with
  | none =>
    rw [metric_of_ofDouble?_none located read]
    exact .inr ⟨_, _, rfl⟩
  | some number =>
    rw [metric_of_ofDouble? located read]
    exact .inl rfl

/-- A first hit is read, unless the type asked for does not have the value in it. -/
theorem firstBy_of_topHits {sources : List Json} (source : SourceType)
    (located : locate outcomes field .firstBy filter = .ok ⟨name, some (.topHits sources)⟩) :
    Settled ((firstBy outcomes source field filter).map fun _ => true) := by
  rw [firstBy, firstAs, located]
  simp only [ok_bind, Found.expect, Found.outcome, pure_eq_ok]
  cases sources.head?.bind (Json.follow? (Path.pointer field.path)) with
  | none => exact .inl rfl
  | some value =>
    unfold converted
    by_cases null : value.isNull = true
    · simp only [null, if_true]
      exact .inl rfl
    · simp only [null]
      cases source.ofJson? value with
      | none => exact .inr ⟨_, _, rfl⟩
      | some result => exact .inl rfl

/-- What a read of a measure says about a document: that there is nothing to read, or what is
read. -/
def Tells (measure : Measure) (name : String) (document : Option Json)
    (result : Except Failure Bool) : Prop :=
  measure.Unanswered document ∧ result = measure.absence name ∨
    ¬ measure.Unanswered document ∧ Settled result

theorem Tells.isAbsent_iff {measure : Measure} {document : Option Json}
    {result : Except Failure Bool} (tells : Tells measure name document result) :
    IsAbsent result ↔ measure.Unanswered document := by
  rcases tells with ⟨unanswered, absent⟩ | ⟨answered, settled⟩
  · rw [absent]
    exact ⟨fun _ => unanswered, fun _ => isAbsent_absence measure name⟩
  · exact ⟨fun absent => (settled.not_isAbsent absent).elim,
      fun unanswered => (answered unanswered).elim⟩

theorem Tells.eq_absence {measure : Measure} {document : Option Json} {result : Except Failure Bool}
    (tells : Tells measure name document result) (absent : IsAbsent result) :
    result = measure.absence name := by
  rcases tells with ⟨_, same⟩ | ⟨_, settled⟩
  · exact same
  · exact (settled.not_isAbsent absent).elim

theorem Tells.not_malformed {measure : Measure} {document : Option Json}
    {result : Except Failure Bool} (tells : Tells measure name document result) (place : String)
    (reason : Malformation) : result ≠ .error (.malformed place reason) := by
  rcases tells with ⟨_, absent⟩ | ⟨_, settled⟩
  · rw [absent]
    unfold Measure.absence
    split <;> exact fun same => by cases same
  · exact settled.not_malformed place reason

/-- A read of the outcome of a metric. -/
theorem tells_of_metric {measure : Measure} {inner : String} {document : Json} {outcome : Outcome}
    (computed : measure.isMetric = true)
    (decoded : (Outcome.metricValue inner document).map .metric = .ok outcome) (target : NumberType)
    (located : locate outcomes field measure.kind filter = .ok ⟨name, some outcome⟩) :
    Tells measure name (some document)
      ((metric outcomes measure.kind target field filter).map fun _ => true) := by
  obtain ⟨value, computedValue, rfl⟩ := map_eq_ok.mp decoded
  have given := Outcome.metricValue_none_iff computedValue
  cases value with
  | none =>
    refine .inl ⟨⟨computed, given.mp rfl⟩, ?_⟩
    have notCount : measure ≠ .count := by
      rintro rfl
      cases computed
    rw [metric_of_none target located, Measure.absence, if_neg notCount]
    rfl
  | some x =>
    refine .inr ⟨fun unanswered => ?_, metric_of_some target located⟩
    cases given.mpr unanswered.2

/-- **A read of the outcome of a document** says what the document says. -/
theorem tells_of_some {measure : Measure} {inner : String} {document : Json} {outcome : Outcome}
    (decoded : Outcome.ofMeasure measure inner document = .ok outcome) (target : NumberType)
    (source : SourceType)
    (located : locate outcomes field measure.kind filter = .ok ⟨name, some outcome⟩) :
    Tells measure name (some document) (present measure target source outcomes field filter) := by
  cases measure with
  | sum | average | min | max => exact tells_of_metric rfl decoded target located
  | count | cardinality | percentiles | stats =>
    obtain ⟨_, _, rfl⟩ := map_eq_ok.mp decoded
    unfold Measure.kind at located
    refine .inr ⟨Measure.not_unanswered rfl document, .inl ?_⟩
    simp only [present, count, cardinality, percentiles, stats, located, ok_bind]
    rfl
  | distinct =>
    obtain ⟨_, _, _, rfl, _⟩ := Outcome.terms_of_termsOf decoded
    unfold Measure.kind at located
    refine .inr ⟨Measure.not_unanswered rfl document, .inl ?_⟩
    rw [present, distinct, located]
    rfl
  | firstBy =>
    obtain ⟨sources, _, rfl⟩ := map_eq_ok.mp decoded
    exact .inr ⟨Measure.not_unanswered rfl document, firstBy_of_topHits source located⟩

end Reading

/-- **What is read is what was answered**, once the level has the outcome of the request. -/
theorem MeasureSpec.answered_of_find? {settings : Settings} {spec : MeasureSpec}
    {request : MeasureRequest} {level : Json} {outcomes : Outcomes}
    (resolved : spec.resolve settings = .ok request)
    (answered : (level.member? request.outerName).mapM (Outcome.ofMeasureRequest request) =
      .ok (Dict.find? request.outerName outcomes)) : spec.Answered level outcomes := by
  refine ⟨fun field same => ?_⟩
  obtain ⟨found, located, decoded⟩ := locate_of_find? resolved answered same
  refine ⟨request.outerName, found, ?_, located, decoded, fun target source => ?_⟩
  · obtain ⟨valid, clause, order, compiled, _, rfl⟩ := resolve_eq_ok.mp resolved
    refine Reading.lookupName_eq_ok.mpr ⟨(congrArg Path.check same).trans valid,
      clause, compiled, ?_⟩
    rw [made_outerName, same]
    rfl
  · have told : Reading.Tells spec.measure request.outerName (spec.document? level)
        (Reading.present spec.measure target source outcomes field spec.filter) := by
      cases document : spec.document? level with
      | none =>
        rw [document, mapM_none, Except.ok.injEq] at decoded
        subst decoded
        exact .inl ⟨trivial, Reading.present_of_none target source located⟩
      | some document =>
        rw [document, mapM_some_eq_ok] at decoded
        obtain ⟨outcome, decoded, rfl⟩ := decoded
        exact Reading.tells_of_some decoded target source located
    exact ⟨told.isAbsent_iff, told.eq_absence, told.not_malformed⟩

end FacetQuery
