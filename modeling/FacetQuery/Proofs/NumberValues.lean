/-
**The values of numbers.**

The number of a document is an integer, or a floating number with an exact value. A floating number
is whole exactly if its value is an integer, and then cutting its fraction off changes nothing.

* `Binary.isWhole_iff` — **whole numbers** by their values.
* `Json.Number.Is` — **a number has the value of an integer**, whichever way it is kept.
* `Outcome.count?_eq_some` — **what is read as a count** is a natural number, and unless it is too
  large for eight bytes the count is that number.
-/

import FacetQuery.Outcome.OfResponse
import FacetQuery.Proofs.Magnitudes

namespace FacetQuery

namespace FloatFormat

theorem one_pos (f : FloatFormat) : 0 < f.one := Nat.two_pow_pos _

theorem quantum_le_log2 {f : FloatFormat} {n : Nat} (large : f.one ≤ n) : f.quantum ≤ n.log2 :=
  (Nat.le_log2 (f.one_pos.trans_le large).ne').mpr large

/-- A natural number above zero is not rounded to zero. -/
theorem nearest_one_pos {n : Nat} (positive : 0 < n) : 0 < double.nearest n 1 := by
  have large : double.one ≤ n * double.one / 1 := by
    rw [Nat.div_one]
    exact Nat.le_mul_of_pos_left double.one positive
  have exponent : double.quantum ≤ (n * double.one / 1).log2 := quantum_le_log2 large
  have room : double.fraction < double.quantum := by decide
  have shifted : 0 < ((n * double.one / 1).log2 - double.fraction) * double.binade :=
    Nat.mul_pos (Nat.sub_pos_of_lt (room.trans_le exponent)) double.binade_pos
  unfold nearest
  exact lt_min (Nat.lt_of_lt_of_le shifted (Nat.le_add_right ..)) (by decide)

end FloatFormat

/-! ### Whole numbers -/

namespace Binary

variable {f : FloatFormat} {x : Binary f}

theorem natAbs_scaled (x : Binary f) : x.scaled.natAbs = f.steps x.code := by
  unfold scaled
  cases x.negative <;> simp

/-- **A finite number is whole exactly if its value is an integer.** -/
theorem isWhole_iff (finite : x.isFinite = true) :
    x.isWhole = true ↔ ∃ n : Int, x.scaled = n * f.one := by
  unfold isWhole
  rw [finite, Bool.true_and, decide_eq_true_eq, ← Nat.dvd_iff_mod_eq_zero, ← natAbs_scaled,
    ← Int.ofNat_dvd_left]
  constructor
  · rintro ⟨n, same⟩
    exact ⟨n, same.trans (Int.mul_comm ..)⟩
  · rintro ⟨n, same⟩
    exact ⟨n, same.trans (Int.mul_comm ..)⟩

/-- Cutting the fraction off an integer changes nothing. -/
theorem truncated_eq {n : Int} (value : x.scaled = n * f.one) : x.truncated = n := by
  have nonzero : (f.one : Int) ≠ 0 := Int.natCast_ne_zero.mpr f.one_pos.ne'
  rw [truncated, value, Int.mul_tdiv_cancel n nonzero]

/-- An integer below zero is rounded to a number below zero. -/
theorem ofInt_scaled_neg {n : Int} (negative : n < 0) : (ofInt n : Double).scaled < 0 := by
  have nonzero : FloatFormat.double.nearest n.natAbs 1 ≠ 0 :=
    (FloatFormat.nearest_one_pos (Int.natAbs_pos.mpr negative.ne)).ne'
  have magnitude : FloatFormat.double.steps (FloatFormat.double.nearest n.natAbs 1) ≠ 0 :=
    fun zero => nonzero (FloatFormat.double.steps_eq_zero.mp zero)
  have value : (ofInt n : Double).scaled =
      -(FloatFormat.double.steps (FloatFormat.double.nearest n.natAbs 1) : Int) := by
    unfold scaled ofInt ofQuotient ofCode
    rw [if_pos (decide_eq_true negative)]
  rw [value]
  omega

end Binary

/-! ### Numbers of documents -/

/-- **A number of a document has the value of an integer**, whichever way it is kept. -/
def Json.Number.Is : Json.Number → Int → Prop
  | .whole m _, n => m = n
  | .real x _, n => x.scaled = n * FloatFormat.double.one

namespace Outcome

/-- The count of a natural number: the number itself, or the largest count if it is more. -/
theorem ofNat_min_eq_iff {n : Nat} {count : UInt64} :
    UInt64.ofNat (min n largestCount) = count ↔ count.toNat = min n largestCount := by
  have bounded : min n largestCount < 2 ^ 64 := Nat.lt_of_le_of_lt (Nat.min_le_right ..) (by decide)
  rw [← UInt64.toNat_inj, UInt64.toNat_ofNat', Nat.mod_eq_of_lt bounded, eq_comm]

/-- An integer from zero up is read as it is. -/
theorem count?_natural {n : Nat} {fits : Json.FitsEight n} :
    count? (.number (.whole n fits)) = some (UInt64.ofNat n) := by
  have whole : (Json.number (.whole n fits)).unsigned? = some (UInt64.ofNat n) := by
    show (if 0 ≤ (n : Int) then some (UInt64.ofNat (n : Int).toNat) else none) = _
    rw [if_pos (Int.natCast_nonneg n), Int.toNat_natCast]
  rw [count?, whole]

/-- An integer below zero is no count. -/
theorem count?_negative {m : Int} {fits : Json.FitsEight m} (negative : m < 0) :
    count? (.number (.whole m fits)) = none := by
  have whole : (Json.number (.whole m fits)).unsigned? = none := by
    show (if 0 ≤ m then some (UInt64.ofNat m.toNat) else none) = _
    rw [if_neg (Int.not_le.mpr negative)]
  have value : (Json.number (.whole m fits)).double? = some (Binary.ofInt m) := rfl
  have below := Binary.ofInt_scaled_neg negative
  rw [count?, whole, value, Option.bind_some, if_neg]
  exact fun told => absurd told.2 (Int.not_le.mpr below)

theorem count?_whole_eq_some {m : Int} {fits : Json.FitsEight m} {count : UInt64} :
    count? (.number (.whole m fits)) = some count ↔
      ∃ n : Nat, m = n ∧ count.toNat = min n largestCount := by
  by_cases natural : 0 ≤ m
  · obtain ⟨n, rfl⟩ := Int.eq_ofNat_of_zero_le natural
    have small : n ≤ largestCount := by
      have below := fits.2
      unfold largestCount
      omega
    have same := @ofNat_min_eq_iff n count
    rw [Nat.min_eq_left small] at same
    rw [count?_natural, Option.some.injEq, same]
    constructor
    · exact fun told => ⟨n, rfl, told.trans (Nat.min_eq_left small).symm⟩
    · rintro ⟨other, equal, told⟩
      rw [← Int.ofNat_inj.mp equal, Nat.min_eq_left small] at told
      exact told
  · rw [count?_negative (Int.not_le.mp natural)]
    constructor
    · nofun
    · rintro ⟨n, rfl, _⟩
      exact (natural (Int.natCast_nonneg n)).elim

theorem count?_real_eq_some {x : Double} {finite : x.isFinite = true} {count : UInt64} :
    count? (.number (.real x finite)) = some count ↔
      ∃ n : Nat, x.scaled = n * FloatFormat.double.one ∧ count.toNat = min n largestCount := by
  have read : count? (.number (.real x finite)) =
      if x.isWhole ∧ 0 ≤ x.scaled then some (UInt64.ofNat (min x.truncated.toNat largestCount))
      else none := rfl
  have unit : (0 : Int) < FloatFormat.double.one := Int.natCast_pos.mpr FloatFormat.double.one_pos
  rw [read]
  by_cases natural : x.isWhole ∧ 0 ≤ x.scaled
  · obtain ⟨n, value⟩ := (Binary.isWhole_iff finite).mp natural.1
    have positive : 0 ≤ n := Int.nonneg_of_mul_nonneg_left (value ▸ natural.2) unit
    obtain ⟨n, rfl⟩ := Int.eq_ofNat_of_zero_le positive
    rw [if_pos natural, Option.some.injEq, ofNat_min_eq_iff, Binary.truncated_eq value,
      Int.toNat_natCast]
    constructor
    · exact fun same => ⟨n, value, same⟩
    · rintro ⟨other, equal, same⟩
      have numbers : (n : Int) = other :=
        (Binary.truncated_eq value).symm.trans (Binary.truncated_eq equal)
      rw [Int.ofNat_inj.mp numbers]
      exact same
  · rw [if_neg natural]
    constructor
    · nofun
    · rintro ⟨n, value, _⟩
      have whole : x.isWhole = true := (Binary.isWhole_iff finite).mpr ⟨n, value⟩
      have positive : 0 ≤ x.scaled := value ▸ Int.mul_nonneg (Int.natCast_nonneg n) unit.le
      exact (natural ⟨whole, positive⟩).elim

/-- **What is read as a count is a natural number**, and the count is that number, or the largest
count if it is more than eight bytes hold. -/
theorem count?_eq_some {document : Json} {count : UInt64} :
    count? document = some count ↔
      ∃ number, document = .number number ∧ ∃ n : Nat, number.Is n ∧
        count.toNat = min n largestCount := by
  cases document with
  | number number =>
    cases number with
    | whole m fits =>
      rw [count?_whole_eq_some]
      exact ⟨fun told => ⟨_, rfl, told⟩, fun ⟨_, same, told⟩ => by cases same; exact told⟩
    | real x finite =>
      rw [count?_real_eq_some]
      exact ⟨fun told => ⟨_, rfl, told⟩, fun ⟨_, same, told⟩ => by cases same; exact told⟩
  | _ => simp [count?, Json.unsigned?, Json.double?, Json.number?]

end Outcome

end FacetQuery
