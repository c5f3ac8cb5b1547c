/-
**Codes, magnitudes and values.**

A floating number is a sign and a code, and its value is the magnitude of the code in steps of the
format, with that sign. So two numbers of one value can differ in one way only.

* `FloatFormat.steps_strictMono` — **a greater code has a greater magnitude**, across the binades
  too.
* `Binary.scaled_eq_iff` — **numbers of one value** have one code, and one sign unless they are
  zeros.
* `Binary.sameValue_iff` — the same for the comparison of numbers, which no non-number passes.
* `FloatFormat.nearest_lt_infinity` — what has few enough bits is not rounded up to infinity.
* `Binary.isFinite_widened` — **a number of four bytes is finite as one of eight bytes exactly if it
  is.**
-/

import FacetQuery.Numeral.Binary
import Mathlib.Order.Monotone.Basic

namespace FacetQuery

/-! ### Magnitudes -/

namespace FloatFormat

variable (f : FloatFormat)

/-- The magnitude of a code by its exponent field and its fraction. -/
theorem steps_of_parts {exponent fraction : Nat} (inside : fraction < f.binade) :
    f.steps (exponent * f.binade + fraction) =
      if exponent = 0 then fraction else (f.binade + fraction) * Nat.pow 2 (exponent - 1) := by
  have quotient : (exponent * f.binade + fraction) / f.binade = exponent := by
    rw [Nat.mul_comm, Nat.mul_add_div f.binade_pos, Nat.div_eq_of_lt inside, Nat.add_zero]
  have rest : (exponent * f.binade + fraction) % f.binade = fraction := by
    rw [Nat.mul_comm, Nat.mul_add_mod, Nat.mod_eq_of_lt inside]
  unfold steps
  rw [quotient, rest]

/-- The next code has a greater magnitude. -/
theorem steps_lt_steps_succ (code : Nat) : f.steps code < f.steps (code + 1) := by
  have positive := f.binade_pos
  have parts : code / f.binade * f.binade + code % f.binade = code := Nat.div_add_mod' ..
  have inside : code % f.binade < f.binade := Nat.mod_lt _ positive
  generalize code / f.binade = exponent at parts
  generalize code % f.binade = fraction at parts inside
  subst parts
  rw [f.steps_of_parts inside]
  by_cases last : fraction + 1 < f.binade
  · rw [Nat.add_assoc, f.steps_of_parts last]
    by_cases small : exponent = 0
    · rw [if_pos small, if_pos small]
      exact Nat.lt_succ_self fraction
    · rw [if_neg small, if_neg small]
      exact Nat.mul_lt_mul_of_pos_right (by omega) (Nat.two_pow_pos _)
  · -- The fraction is full, so the next code starts the next binade.
    have next : exponent * f.binade + fraction + 1 = (exponent + 1) * f.binade + 0 := by
      rw [Nat.succ_mul]
      omega
    rw [next, f.steps_of_parts positive, if_neg (Nat.succ_ne_zero exponent), Nat.add_sub_cancel,
      Nat.add_zero]
    by_cases small : exponent = 0
    · rw [if_pos small, small]
      show fraction < f.binade * 1
      omega
    · have doubled : Nat.pow 2 exponent = 2 * Nat.pow 2 (exponent - 1) := by
        obtain ⟨lower, rfl⟩ := Nat.exists_eq_succ_of_ne_zero small
        exact Nat.pow_succ'
      rw [if_neg small, doubled, ← Nat.mul_assoc]
      exact Nat.mul_lt_mul_of_pos_right (by omega) (Nat.two_pow_pos _)

/-- **A greater code has a greater magnitude.** -/
theorem steps_strictMono : StrictMono f.steps := strictMono_nat_of_lt_succ f.steps_lt_steps_succ

theorem steps_inj {code other : Nat} : f.steps code = f.steps other ↔ code = other :=
  f.steps_strictMono.injective.eq_iff

theorem steps_eq_zero {code : Nat} : f.steps code = 0 ↔ code = 0 := by
  have zero : f.steps 0 = 0 := by
    unfold steps
    simp
  have same : f.steps code = f.steps 0 ↔ code = 0 := f.steps_inj
  rwa [zero] at same

end FloatFormat

/-! ### Values -/

namespace Binary

variable {f : FloatFormat} {x y : Binary f}

/-- **Numbers of one value** have one code and one sign, except that zero has both signs. -/
theorem scaled_eq_iff :
    x.scaled = y.scaled ↔ x.code = y.code ∧ (x.negative = y.negative ∨ x.code = 0) := by
  have codes : f.steps x.code = f.steps y.code ↔ x.code = y.code := f.steps_inj
  have left : f.steps x.code = 0 ↔ x.code = 0 := f.steps_eq_zero
  have right : f.steps y.code = 0 ↔ y.code = 0 := f.steps_eq_zero
  unfold scaled
  cases x.negative <;> cases y.negative <;> simp only [if_true, if_false, Bool.false_eq_true] <;>
    simp only [reduceCtorEq, true_or, false_or, and_true] <;> omega

/-- **Two numbers compare as equal** if neither is a non-number and they have one value. -/
theorem sameValue_iff :
    x.sameValue y = true ↔
      x.isNaN = false ∧ y.isNaN = false ∧ x.code = y.code ∧
      (x.negative = y.negative ∨ x.code = 0) := by
  unfold sameValue
  rw [Bool.and_eq_true, Bool.and_eq_true, Bool.not_eq_true', Bool.not_eq_true', decide_eq_true_eq,
    scaled_eq_iff, and_assoc]

/-- Numbers of one code and one sign are the same number. -/
theorem eq_of_code {x y : Binary f} (codes : x.code = y.code) (signs : x.negative = y.negative) :
    x = y := by
  obtain ⟨_, _, _⟩ := x
  obtain rfl : _ = y.negative := signs
  obtain rfl : _ = y.code := codes
  rfl

end Binary

/-! ### Rounding into range -/

theorem roundedQuotient_le (num den : Nat) : roundedQuotient num den ≤ num / den + 1 := by
  unfold roundedQuotient
  dsimp only
  split <;> omega

namespace FloatFormat

/-- A significand has no more bits than there is room for, unless it is rounded up to the next power
of two. -/
theorem significand_le (f : FloatFormat) {inSteps den shift : Nat}
    (places : (inSteps / den).log2 - f.fraction = shift) :
    roundedQuotient inSteps (den * Nat.pow 2 shift) ≤ 2 * f.binade := by
  have top : inSteps / den / 2 ^ shift < 2 ^ (f.fraction + 1) := by
    refine Nat.div_lt_of_lt_mul (Nat.lt_log2_self.trans_le ?_)
    rw [← Nat.pow_add]
    exact Nat.pow_le_pow_right Nat.two_pos (by omega)
  have bound := roundedQuotient_le inSteps (den * 2 ^ shift)
  rw [← Nat.div_div_eq_div_mul] at bound
  show roundedQuotient inSteps (den * 2 ^ shift) ≤ _
  have doubled : 2 ^ (f.fraction + 1) = 2 * f.binade := Nat.pow_succ'
  omega

/-- What has few enough bits is not rounded up to infinity. -/
theorem nearest_lt_infinity {f : FloatFormat} {num den : Nat} (bits : Nat)
    (small : num * f.one / den < Nat.pow 2 bits)
    (room : bits - 1 - f.fraction + 2 < f.top) : f.nearest num den < f.infinity := by
  unfold nearest
  dsimp only
  generalize size : num * f.one / den = inSteps at small
  generalize places : inSteps.log2 - f.fraction = shift
  have few : shift ≤ bits - 1 - f.fraction := by
    by_cases zero : inSteps = 0
    · subst zero
      rw [← places, Nat.log2_zero]
      omega
    · have log := (Nat.log2_lt zero).mpr small
      omega
  have rounded : roundedQuotient (num * f.one) (den * Nat.pow 2 shift) ≤ 2 * f.binade :=
    f.significand_le (size ▸ places)
  refine Nat.lt_of_le_of_lt (Nat.min_le_left ..) ?_
  calc shift * f.binade + roundedQuotient (num * f.one) (den * Nat.pow 2 shift)
      ≤ shift * f.binade + 2 * f.binade := Nat.add_le_add_left rounded _
    _ = (shift + 2) * f.binade := (Nat.add_mul ..).symm
    _ ≤ (bits - 1 - f.fraction + 2) * f.binade :=
      Nat.mul_le_mul_right _ (Nat.add_le_add_right few 2)
    _ < f.infinity := Nat.mul_lt_mul_of_pos_right room f.binade_pos

/-- The first magnitude that is out of range is a power of two. -/
theorem steps_infinity_le (f : FloatFormat) :
    f.steps f.infinity ≤ Nat.pow 2 (f.fraction + (f.top - 1)) := by
  have parts :
      f.steps f.infinity = if f.top = 0 then 0 else (f.binade + 0) * Nat.pow 2 (f.top - 1) :=
    f.steps_of_parts f.binade_pos
  have power : Nat.pow 2 (f.fraction + (f.top - 1)) = f.binade * Nat.pow 2 (f.top - 1) :=
    Nat.pow_add ..
  rw [parts, power]
  split
  · exact Nat.zero_le _
  · exact Nat.le_refl _

end FloatFormat

namespace Binary

theorem isFinite_notANumber {f : FloatFormat} (negative : Bool) :
    (notANumber negative : Binary f).isFinite = false :=
  decide_eq_false (Nat.le_add_right ..).not_gt

theorem isFinite_infinite {f : FloatFormat} (negative : Bool) :
    (infinite negative : Binary f).isFinite = false :=
  decide_eq_false (Nat.lt_irrefl _)

/-- A number is finite in a format with more room exactly if it is. -/
theorem isFinite_convert {f g : FloatFormat} (bits : Nat)
    (enough : f.fraction + (f.top - 1) + g.quantum ≤ f.quantum + bits)
    (room : bits - 1 - g.fraction + 2 < g.top) (x : Binary f) :
    (x.convert : Binary g).isFinite = x.isFinite := by
  unfold convert
  by_cases nan : x.isNaN = true
  · have above : f.infinity < x.code := of_decide_eq_true nan
    have unbounded : x.isFinite = false := decide_eq_false above.le.not_gt
    rw [if_pos nan, unbounded, isFinite_notANumber]
  rw [if_neg nan]
  by_cases finite : x.isFinite = true
  · rw [if_pos finite, finite]
    refine decide_eq_true (FloatFormat.nearest_lt_infinity bits ?_ room)
    refine Nat.div_lt_of_lt_mul ?_
    have below : f.steps x.code < 2 ^ (f.fraction + (f.top - 1)) :=
      (f.steps_strictMono (of_decide_eq_true finite)).trans_le f.steps_infinity_le
    calc f.steps x.code * 2 ^ g.quantum
        < 2 ^ (f.fraction + (f.top - 1)) * 2 ^ g.quantum :=
          Nat.mul_lt_mul_of_pos_right below (Nat.two_pow_pos _)
      _ = 2 ^ (f.fraction + (f.top - 1) + g.quantum) := (Nat.pow_add ..).symm
      _ ≤ 2 ^ (f.quantum + bits) := Nat.pow_le_pow_right Nat.two_pos enough
      _ = 2 ^ f.quantum * 2 ^ bits := Nat.pow_add ..
  · rw [if_neg finite, isFinite_infinite, (Bool.not_eq_true _).mp finite]

/-- **A number of four bytes is finite as one of eight bytes exactly if it is.** -/
theorem isFinite_widened (x : Single) : (x.convert : Double).isFinite = x.isFinite :=
  isFinite_convert 1202 (by decide) (by decide) x

end Binary

end FacetQuery
