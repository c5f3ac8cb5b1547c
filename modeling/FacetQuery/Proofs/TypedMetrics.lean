/-
**Metrics as numbers of a type.**

A metric is kept as a double. A number of a document that is a double, or an integer of at most 53
bits, is kept as it is, and a longer integer as a nearest double. The metric is then read as a
number of the type that is asked for: an integer type takes it with its fraction cut off, if it has
that integer, and a floating type takes the nearest of its numbers.

* `Json.Number.value` — the exact value of a number of a document.
* `Json.Number.toDouble_isNearest`, `Json.Number.value_toDouble` — **the double nearest to a
  number**, and which numbers it keeps.
* `Binary.truncated_eq_towardZero` — cutting the fraction off is rounding toward zero.
* `Reading.metric_cast` — **which number of a type a metric is read as**, or that there is none.
-/

import FacetQuery.Proofs.MeasureReading
import FacetQuery.Proofs.NearestNumbers
import FacetQuery.Proofs.StoredAnswers

namespace FacetQuery

/-! ### Doubles for numbers -/

namespace Json.Number

/-- The value of a number of a document. -/
def value : Json.Number → ℚ
  | .whole n _ => n
  | .real x _ => x.value

/-- **A number becomes a nearest double.** -/
theorem toDouble_isNearest (number : Json.Number) : number.toDouble.IsNearest number.value := by
  cases number with
  | whole n fits => exact Binary.isNearest_ofInt (isFinite_toDouble (.whole n fits))
  | real x finite => exact Binary.isNearest_value finite

/-- **A floating number is kept, and so is an integer of at most 53 bits.** -/
theorem value_toDouble {number : Json.Number}
    (kept : number.toInt? = none ∨ |number.value| ≤ 2 ^ 53) :
    number.toDouble.value = number.value := by
  cases number with
  | whole n fits =>
    have magnitude : |(n : ℚ)| ≤ 2 ^ 53 := kept.resolve_left nofun
    have small : n.natAbs ≤ 2 * FloatFormat.double.binade := by
      have cast : ((n.natAbs : ℕ) : ℚ) ≤ (2 ^ 53 : ℕ) := by
        rw [Nat.cast_natAbs, Int.cast_abs]
        exact magnitude.trans_eq (by norm_num)
      exact Nat.cast_le.mp cast
    obtain ⟨y, finite, same⟩ := Binary.exists_value_eq small (by decide) (by decide)
    exact (toDouble_isNearest (.whole n fits)).value_eq finite same
  | real x finite => rfl

end Json.Number

/-! ### Numbers of a type -/

/-- A value rounded toward zero. -/
def towardZero (v : ℚ) : Int := if 0 ≤ v then ⌊v⌋ else ⌈v⌉

/-- Cutting the fraction off is rounding toward zero. -/
theorem Binary.truncated_eq_towardZero {f : FloatFormat} (x : Binary f) :
    x.truncated = towardZero x.value := by
  have unit : (0 : ℚ) < f.one := Nat.cast_pos.mpr f.one_pos
  unfold truncated towardZero value
  split
  · rename_i natural
    have above : 0 ≤ x.scaled := by
      have cast : (0 : ℚ) ≤ x.scaled := by
        have product := mul_nonneg natural unit.le
        rwa [div_mul_cancel₀ _ unit.ne'] at product
      exact Int.cast_nonneg_iff.mp cast
    rw [Rat.floor_intCast_div_natCast, Int.tdiv_eq_ediv_of_nonneg above]
  · rename_i negative
    have below : 0 ≤ -x.scaled := by
      by_contra above
      refine negative (div_nonneg (Int.cast_nonneg ?_) unit.le)
      omega
    rw [Rat.ceil_intCast_div_natCast, ← Int.tdiv_eq_ediv_of_nonneg below, Int.neg_tdiv, Int.neg_neg]

theorem NumberType.ofDouble?_integer {t : IntegerType} {x : Double} (finite : x.isFinite = true) :
    (NumberType.integer t).ofDouble? x = t.ofInt? (towardZero x.value) := by
  show (if x.isFinite = true then t.ofInt? x.truncated else none) = _
  rw [if_pos finite, Binary.truncated_eq_towardZero]

/-! ### Metrics -/

namespace Outcome

/-- A number as the value of a metric. -/
theorem metricValue_of_number {name : String} {document : Json} {number : Json.Number}
    (given : document.member? "value" = some (.number number)) :
    metricValue name document = .ok (some number.toDouble) := by
  obtain ⟨members, object, found⟩ := Option.bind_eq_some_iff.mp given
  rw [metricValue, object]
  dsimp only
  rw [found]
  rfl

/-- The answers to sums, averages, least and greatest values are read alike. -/
theorem ofMeasure_of_isMetric {measure : Measure} (computed : measure.isMetric = true)
    (name : String) (document : Json) :
    ofMeasure measure name document = (metricValue name document).map .metric := by
  cases measure with
  | sum | average | min | max => rfl
  | count | cardinality | percentiles | stats | firstBy | distinct => cases computed

end Outcome

namespace Reading

variable {t : ValueType} {outcomes : Outcomes} {kind : FacetKind} {field : Field t}
  {filter : Option Predicate}
  {name : String} {x : Double}

/-- An integer type without a metric rounded toward zero refuses it. -/
theorem metric_integer_refused {target : IntegerType}
    (located : locate outcomes field kind filter = .ok ⟨name, some (.metric (some x))⟩)
    (finite : x.isFinite = true) (outside : ¬ target.Holds (towardZero x.value)) :
    metric outcomes kind (.integer target) field filter =
      .error (.conversion (Layout.message.write x) target.label) :=
  metric_of_ofDouble?_none located ((NumberType.ofDouble?_integer finite).trans (dif_neg outside))

/-- An integer type takes a metric rounded toward zero, if it has that integer, and no other. -/
theorem metric_integer_iff {target : IntegerType} {k : target.Carrier}
    (located : locate outcomes field kind filter = .ok ⟨name, some (.metric (some x))⟩)
    (finite : x.isFinite = true) :
    metric outcomes kind (.integer target) field filter = .ok k ↔ k.val = towardZero x.value := by
  by_cases holds : target.Holds (towardZero x.value)
  · have read : (NumberType.integer target).ofDouble? x = some ⟨towardZero x.value, holds⟩ :=
      (NumberType.ofDouble?_integer finite).trans (dif_pos holds)
    rw [metric_of_ofDouble? located read]
    constructor
    · intro same
      exact (congrArg Subtype.val (Except.ok.inj same)).symm
    · intro same
      exact congrArg Except.ok (Subtype.ext same.symm)
  · rw [metric_integer_refused located finite holds]
    refine ⟨nofun, fun same => ?_⟩
    exact absurd (same ▸ k.property) holds

/-- **Which number of a type a metric is read as.** The value of a metric is kept as a double
nearest to the number of the document, as the number itself if that is a floating number or has at
most 53 bits. An integer type takes the double rounded toward zero, and refuses it with its text if
it does not have that integer. A floating type of eight bytes takes it as it is, and one of four
bytes as a nearest of its numbers as long as it is not rounded out of range, for which it has to be
half a step above the greatest of them at least. -/
theorem metric_cast {measure : Measure} {document : Json} {number : Json.Number} (name : String)
    (computed : measure.isMetric = true)
    (given : document.member? "value" = some (.number number)) :
    Outcome.ofMeasure measure name document = .ok (.metric (some number.toDouble)) ∧
      number.toDouble.IsNearest number.value ∧
      (number.toInt? = none ∨ |number.value| ≤ 2 ^ 53 → number.toDouble.value = number.value) ∧
      ∀ {t : ValueType} (outcomes : Outcomes) (field : Field t) (filter : Option Predicate)
        (place : String),
        locate outcomes field measure.kind filter =
          .ok ⟨place, some (.metric (some number.toDouble))⟩ →
        (∀ target : IntegerType,
          (∀ k : target.Carrier,
            metric outcomes measure.kind (.integer target) field filter = .ok k ↔
            k.val = towardZero number.toDouble.value) ∧
          (¬ target.Holds (towardZero number.toDouble.value) →
            metric outcomes measure.kind (.integer target) field filter =
              .error (.conversion (Layout.message.write number.toDouble) target.label))) ∧
        metric outcomes measure.kind .double field filter = .ok number.toDouble ∧
        ∃ y : Single, metric outcomes measure.kind .single field filter = .ok y ∧
          (y.isFinite = true → y.IsNearest number.toDouble.value) ∧
          (|number.toDouble.value| < 2 ^ 128 - 2 ^ 103 → y.isFinite = true) := by
  have nearest := number.toDouble_isNearest
  refine ⟨?_, nearest, Json.Number.value_toDouble, ?_⟩
  · rw [Outcome.ofMeasure_of_isMetric computed, Outcome.metricValue_of_number given]
    rfl
  intro t outcomes field filter place located
  refine ⟨fun target => ⟨fun k => metric_integer_iff located nearest.finite, ?_⟩,
    metric_of_ofDouble? located rfl, number.toDouble.convert,
    metric_of_ofDouble? located rfl, ?_, ?_⟩
  · exact metric_integer_refused located nearest.finite
  · exact Binary.isNearest_convert nearest.finite
  · rw [← FloatFormat.limit_single]
    exact Binary.isFinite_convert_of_lt nearest.finite (by decide)

/-- The document of a metric. -/
def metricDocument (number : Json.Number) : Json := .object [("value", .number number)]

/-- The field of prices. -/
def priceField : Field (.number (.integer (.signed .eight))) := ⟨"price", true⟩

/-- The first integer that a floating number of four bytes cannot be. -/
def longPrice : Json.Number := .whole 16777217 (by decide)

/-- The price is too large for an integer of one byte, and as a floating number of four bytes it is
a nearest one. -/
theorem metric_cast_longPrice :
    ∃ x : Double, ∃ y : Single,
      Outcome.ofMeasure .sum "sum_price" (metricDocument longPrice) = .ok (.metric (some x)) ∧
      x.value = 16777217 ∧
      metric [("sum_price", .metric (some x))] .sum (.integer (.signed .four)) priceField none =
        .ok ⟨16777217, by decide⟩ ∧
      metric [("sum_price", .metric (some x))] .sum (.integer (.unsigned .one)) priceField none =
        .error (.conversion "16777217" "u8") ∧
      metric [("sum_price", .metric (some x))] .sum .single priceField none = .ok y ∧
      y.IsNearest 16777217 := by
  have computed : Measure.sum.isMetric = true := rfl
  have given : (metricDocument longPrice).member? "value" = some (.number longPrice) := rfl
  obtain ⟨decoded, _, kept, reads⟩ := metric_cast "sum_price" computed given
  have exact : longPrice.value = 16777217 := Int.cast_ofNat 16777217
  have value : longPrice.toDouble.value = 16777217 := by
    rw [kept (.inr ?_), exact]
    rw [exact]
    norm_num
  have cut : towardZero longPrice.toDouble.value = 16777217 := by
    rw [value]
    exact (if_pos (by norm_num)).trans (Int.floor_natCast 16777217)
  obtain ⟨integers, _, y, single, nearest, finite⟩ :=
    reads [("sum_price", .metric (some longPrice.toDouble))] priceField none "sum_price" rfl
  rw [value] at nearest finite
  have inRange : y.isFinite = true := finite (by norm_num)
  have text : Layout.message.write longPrice.toDouble = "16777217" := by decide +kernel
  have outside : ¬ (IntegerType.unsigned .one).Holds (towardZero longPrice.toDouble.value) := by
    rw [cut]
    decide
  refine ⟨longPrice.toDouble, y, decoded, value, ?_, ?_, single, nearest inRange⟩
  · exact ((integers (.signed .four)).1 ⟨16777217, by decide⟩).mpr cut.symm
  · rw [← text]
    exact (integers (.unsigned .one)).2 outside

/-- An integer of 54 bits is read as a double beside it, not as itself. -/
theorem metric_off_by_one :
    ∃ number outcome, number.value = 9007199254740993 ∧
      (IntegerType.signed .eight).Holds 9007199254740993 ∧
      Outcome.ofMeasure .sum "sum_price" (metricDocument number) = .ok outcome ∧
      metric [("sum_price", outcome)] .sum (.integer (.signed .eight)) priceField none =
        .ok ⟨9007199254740992, by decide⟩ := by
  have fits : Json.FitsEight 9007199254740993 := by decide
  refine ⟨.whole 9007199254740993 fits, .metric (some (.ofInt 9007199254740993)),
    ?_, by decide, rfl, ?_⟩
  · show ((9007199254740993 : Int) : ℚ) = 9007199254740993
    norm_num
  · decide +kernel

end Reading

end FacetQuery
