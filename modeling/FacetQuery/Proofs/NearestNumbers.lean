/-
**The nearest number.**

A quotient of natural numbers is rounded on a grid: above the smallest binades the codes are so many
steps apart that the quotient has just enough of them, and the rounded quotient by that spacing is
the significand. Codes further down are closer together, but they lie below a point of the grid that
the quotient has passed. So no code is nearer than the one that rounding gives, infinity standing
for the first power of two that is out of range.

* `roundedQuotient_nearest` — **a rounded quotient is a nearest natural number.**
* `FloatFormat.steps_of_significand`, `FloatFormat.steps_on_grid` — the grid of a spacing, and what
  is below it.
* `FloatFormat.nearest_nearest` — **no code is nearer than the nearest.**
* `Binary.IsNearest` — **a finite number nearest to a value**, and `Binary.isNearest_ofInt`,
  `Binary.isNearest_convert`, that integers and numbers of other formats become such numbers.
* `Binary.isFinite_convert_of_lt` — what is less than half a step above the largest finite number
  stays finite.
-/

import FacetQuery.Proofs.NumberValues
import Mathlib.Data.Nat.Cast.Order.Field
import Mathlib.Data.Rat.Floor
import Mathlib.Tactic.FieldSimp
import Mathlib.Tactic.Linarith
import Mathlib.Tactic.Positivity

namespace FacetQuery

/-! ### Rounded quotients -/

section RoundedQuotient

variable {num den : Nat}

/-- A quotient is its whole part and the rest. -/
theorem cast_div_eq (positive : 0 < den) :
    (num / den : ℚ) = (num / den : ℕ) + (num % den : ℕ) / den := by
  have nonzero : (den : ℚ) ≠ 0 := Nat.cast_ne_zero.mpr positive.ne'
  have parts : (den : ℚ) * (num / den : ℕ) + (num % den : ℕ) = num := by
    exact_mod_cast Nat.div_add_mod num den
  field_simp
  linarith

/-- Rounding moves a quotient by a half at most. -/
theorem abs_sub_roundedQuotient_le (positive : 0 < den) :
    |(num / den : ℚ) - roundedQuotient num den| ≤ 1 / 2 := by
  have unit : (0 : ℚ) < den := Nat.cast_pos.mpr positive
  have rest : ((num % den : ℕ) : ℚ) < den := Nat.cast_lt.mpr (Nat.mod_lt num positive)
  rw [cast_div_eq positive]
  unfold roundedQuotient
  dsimp only
  split
  · rename_i down
    have half : 2 * ((num % den : ℕ) : ℚ) ≤ den := by
      exact_mod_cast (show 2 * (num % den) ≤ den by omega)
    rw [add_sub_cancel_left, abs_of_nonneg (by positivity), div_le_div_iff₀ unit two_pos]
    linarith
  · rename_i up
    have half : (den : ℚ) ≤ 2 * (num % den : ℕ) := by
      exact_mod_cast (show den ≤ 2 * (num % den) by omega)
    have fraction : ((num % den : ℕ) : ℚ) / den ≤ 1 := (div_le_one unit).mpr rest.le
    have large : 1 / 2 ≤ ((num % den : ℕ) : ℚ) / den := by
      rw [div_le_div_iff₀ two_pos unit]
      linarith
    rw [Nat.cast_add, Nat.cast_one, abs_le]
    constructor <;> linarith

/-- A natural number that is a half away at most is a nearest one. -/
theorem nearest_of_le_half {v : ℚ} {n : Nat} (near : |v - n| ≤ 1 / 2) (k : Nat) :
    |v - n| ≤ |v - k| := by
  by_cases same : n = k
  · rw [same]
  · have apart : (1 : ℚ) ≤ |(n : ℚ) - k| := by
      have whole : (1 : Int) ≤ |(n : Int) - k| := Int.one_le_abs (by omega)
      exact_mod_cast whole
    have through : |(n : ℚ) - k| ≤ |v - n| + |v - k| := by
      rw [abs_sub_comm v n]
      exact abs_sub_le (n : ℚ) v k
    linarith

/-- **A rounded quotient is a nearest natural number.** -/
theorem roundedQuotient_nearest (positive : 0 < den) (k : Nat) :
    |(num / den : ℚ) - roundedQuotient num den| ≤ |(num / den : ℚ) - k| :=
  nearest_of_le_half (abs_sub_roundedQuotient_le positive) k

theorem le_roundedQuotient : num / den ≤ roundedQuotient num den := by
  unfold roundedQuotient
  dsimp only
  split <;> omega

end RoundedQuotient

/-! ### Grids -/

namespace FloatFormat

variable (f : FloatFormat)

/-- Codes of one spacing: each is a significand of full length times the spacing. The greatest one
is the first of the next spacing. -/
theorem steps_of_significand {shift significand : Nat} (low : shift = 0 ∨ f.binade ≤ significand)
    (high : significand ≤ 2 * f.binade) :
    f.steps (shift * f.binade + significand) = significand * 2 ^ shift := by
  by_cases small : significand < f.binade
  · have smallest : shift = 0 := low.resolve_right (Nat.not_le.mpr small)
    rw [smallest, f.steps_of_parts small, if_pos rfl, Nat.pow_zero, Nat.mul_one]
  obtain ⟨fraction, rfl⟩ := Nat.exists_eq_add_of_le (Nat.not_lt.mp small)
  by_cases inside : fraction < f.binade
  · have next : shift * f.binade + (f.binade + fraction) = (shift + 1) * f.binade + fraction := by
      rw [Nat.succ_mul, Nat.add_assoc]
    rw [next, f.steps_of_parts inside, if_neg (Nat.succ_ne_zero shift)]
    rfl
  · have full : fraction = f.binade := by omega
    have next : shift * f.binade + (f.binade + fraction) = (shift + 2) * f.binade + 0 := by
      rw [full, Nat.add_mul]
      omega
    rw [next, f.steps_of_parts f.binade_pos, if_neg (Nat.succ_ne_zero _), full]
    show (f.binade + 0) * 2 ^ (shift + 1) = _
    rw [Nat.add_zero, Nat.pow_succ', ← Nat.mul_assoc, Nat.mul_comm f.binade 2, Nat.two_mul]

/-- Every code is a multiple of a spacing or below the first significand of full length. -/
theorem steps_on_grid (shift code : Nat) :
    (∃ k, f.steps code = k * 2 ^ shift) ∨ f.steps code < f.binade * 2 ^ shift := by
  have first : f.steps (shift * f.binade + f.binade) = f.binade * 2 ^ shift :=
    f.steps_of_significand (.inr (Nat.le_refl _)) (by omega)
  by_cases below : code < shift * f.binade + f.binade
  · exact .inr (first ▸ f.steps_strictMono below)
  · left
    have exponent : shift + 1 ≤ code / f.binade := by
      rw [Nat.le_div_iff_mul_le f.binade_pos, Nat.succ_mul]
      exact Nat.not_lt.mp below
    obtain ⟨finer, more⟩ := Nat.exists_eq_add_of_le exponent
    refine ⟨(f.binade + code % f.binade) * 2 ^ finer, ?_⟩
    unfold steps
    dsimp only
    rw [more, if_neg (by omega), show shift + 1 + finer - 1 = finer + shift by omega, Nat.mul_assoc,
      ← Nat.pow_add]
    rfl

/-! ### The nearest code -/

variable {inSteps den shift : Nat}

/-- A quotient that is spaced has passed the first significand of full length. -/
theorem binade_mul_le (places : (inSteps / den).log2 - f.fraction = shift) :
    shift = 0 ∨ f.binade * 2 ^ shift ≤ inSteps / den := by
  by_cases smallest : shift = 0
  · exact .inl smallest
  · right
    have log : (inSteps / den).log2 = f.fraction + shift := by omega
    have nonzero : inSteps / den ≠ 0 := by
      intro zero
      rw [zero, Nat.log2_zero] at log
      omega
    show 2 ^ f.fraction * 2 ^ shift ≤ _
    rw [← Nat.pow_add, ← log]
    exact Nat.log2_self_le nonzero

theorem binade_le_significand (places : (inSteps / den).log2 - f.fraction = shift) :
    shift = 0 ∨ f.binade ≤ roundedQuotient inSteps (den * 2 ^ shift) := by
  refine (f.binade_mul_le places).imp_right fun passed => ?_
  calc f.binade
      ≤ inSteps / den / 2 ^ shift := (Nat.le_div_iff_mul_le (Nat.two_pow_pos shift)).mpr passed
    _ = inSteps / (den * 2 ^ shift) := Nat.div_div_eq_div_mul ..
    _ ≤ roundedQuotient inSteps (den * 2 ^ shift) := le_roundedQuotient

/-- No multiple of the spacing is nearer to a quotient than its significand times the spacing. -/
theorem significand_nearest_on_grid (positive : 0 < den) (k : Nat) :
    |(inSteps / den : ℚ) - (roundedQuotient inSteps (den * 2 ^ shift) * 2 ^ shift : ℕ)| ≤
      |(inSteps / den : ℚ) - (k * 2 ^ shift : ℕ)| := by
  have spacing : (0 : ℚ) < (2 ^ shift : ℕ) := Nat.cast_pos.mpr (Nat.two_pow_pos shift)
  have scaled (m : Nat) : (inSteps / den : ℚ) - (m * 2 ^ shift : ℕ) =
      (inSteps / (den * 2 ^ shift : ℕ) - m) * (2 ^ shift : ℕ) := by
    rw [Nat.cast_mul, Nat.cast_mul, sub_mul, div_mul_eq_div_div, div_mul_cancel₀ _ spacing.ne']
  rw [scaled, scaled, abs_mul, abs_mul]
  exact mul_le_mul_of_nonneg_right
    (roundedQuotient_nearest (Nat.mul_pos positive (Nat.two_pow_pos shift)) k) (abs_nonneg _)

/-- No code is nearer to a quotient than its significand times the spacing. -/
theorem significand_nearest (positive : 0 < den)
    (places : (inSteps / den).log2 - f.fraction = shift) (code : Nat) :
    |(inSteps / den : ℚ) - (roundedQuotient inSteps (den * 2 ^ shift) * 2 ^ shift : ℕ)| ≤
      |(inSteps / den : ℚ) - f.steps code| := by
  obtain ⟨k, same⟩ | below := f.steps_on_grid shift code
  · rw [same]
    exact significand_nearest_on_grid positive k
  obtain smallest | passed := f.binade_mul_le places
  · have same : f.steps code = f.steps code * 2 ^ shift := by
      rw [smallest, Nat.pow_zero, Nat.mul_one]
    rw [same]
    exact significand_nearest_on_grid positive _
  · -- The quotient has passed the first point of the grid, so nothing below that is nearer.
    have low : ((f.binade * 2 ^ shift : ℕ) : ℚ) ≤ inSteps / den :=
      (Nat.cast_le.mpr passed).trans Nat.cast_div_le
    have order : (f.steps code : ℚ) < (f.binade * 2 ^ shift : ℕ) := Nat.cast_lt.mpr below
    refine (significand_nearest_on_grid positive f.binade).trans ?_
    rw [abs_of_nonneg (sub_nonneg.mpr low), abs_of_nonneg (sub_nonneg.mpr (order.le.trans low))]
    linarith

/-- **No code up to that of infinity is nearer to a quotient than the nearest.** -/
theorem nearest_nearest {num den code : Nat} (positive : 0 < den) (range : code ≤ f.infinity) :
    |((num * f.one : ℕ) / den : ℚ) - f.steps (f.nearest num den)| ≤
      |((num * f.one : ℕ) / den : ℚ) - f.steps code| := by
  unfold nearest
  dsimp only
  generalize num * f.one = inSteps
  generalize places : (inSteps / den).log2 - f.fraction = shift
  have steps := f.steps_of_significand (f.binade_le_significand places) (f.significand_le places)
  have unclamped := f.significand_nearest positive places
  rw [← steps] at unclamped
  change |_ - (f.steps
    (min (shift * f.binade + roundedQuotient inSteps (den * 2 ^ shift)) f.infinity) : ℚ)| ≤ _
  generalize shift * f.binade + roundedQuotient inSteps (den * 2 ^ shift) = raw at unclamped
  obtain above | inRange := Nat.lt_or_ge f.infinity raw
  · -- Infinity is not nearer than a code above it, so the quotient is not below infinity.
    rw [Nat.min_eq_right above.le]
    have up : (f.steps f.infinity : ℚ) < f.steps raw := Nat.cast_lt.mpr (f.steps_strictMono above)
    have down : (f.steps code : ℚ) ≤ f.steps f.infinity :=
      Nat.cast_le.mpr (f.steps_strictMono.monotone range)
    have passed : (f.steps f.infinity : ℚ) ≤ inSteps / den := by
      by_contra short
      have far := unclamped f.infinity
      rw [abs_of_nonpos (by linarith), abs_of_nonpos (by linarith)] at far
      linarith
    rw [abs_of_nonneg (by linarith), abs_of_nonneg (by linarith)]
    linarith
  · rw [Nat.min_eq_left inRange]
    exact unclamped code

/-- The same for values in place of steps. -/
theorem nearest_nearest_value {num den code : Nat} (positive : 0 < den)
    (range : code ≤ f.infinity) :
    |(num / den : ℚ) - f.steps (f.nearest num den) / f.one| ≤
      |(num / den : ℚ) - f.steps code / f.one| := by
  have unit : (0 : ℚ) < f.one := Nat.cast_pos.mpr f.one_pos
  have inSteps (k : Nat) :
      |(num / den : ℚ) - k / f.one| = |((num * f.one : ℕ) / den : ℚ) - k| / f.one := by
    rw [← abs_of_pos unit, ← abs_div, abs_of_pos unit, sub_div, Nat.cast_mul, mul_div_right_comm,
      mul_div_cancel_right₀ _ unit.ne']
  rw [inSteps, inSteps]
  exact div_le_div_of_nonneg_right (f.nearest_nearest positive range) unit.le

/-- **The first magnitude that is rounded out of range**: half a step above the greatest finite
number. -/
def limit : ℚ := (f.steps (f.infinity - 1) + f.steps f.infinity) / (2 * f.one)

/-- The greatest number of four bytes is a step of `2 ^ 104` below `2 ^ 128`, and their limit half
as much. -/
theorem limit_single : single.limit = 2 ^ 128 - 2 ^ 103 := by
  have unit : (0 : ℚ) < 2 * single.one := mul_pos two_pos (Nat.cast_pos.mpr single.one_pos)
  have inSteps : single.steps (single.infinity - 1) + single.steps single.infinity =
      33554431 * 2 ^ 103 * (2 * single.one) := by decide +kernel
  have middle : (single.steps (single.infinity - 1) + single.steps single.infinity : ℚ) =
      33554431 * 2 ^ 103 * (2 * single.one) := by exact_mod_cast inSteps
  rw [limit, middle, mul_div_cancel_right₀ _ unit.ne']
  norm_num

/-- What is below the limit is not rounded to infinity. -/
theorem nearest_lt_infinity_of_lt {num den : Nat} (positive : 0 < den) (someFinite : 0 < f.infinity)
    (small : (num / den : ℚ) < f.limit) : f.nearest num den < f.infinity := by
  have unit : (0 : ℚ) < f.one := Nat.cast_pos.mpr f.one_pos
  have last : (f.steps (f.infinity - 1) : ℚ) < f.steps f.infinity :=
    Nat.cast_lt.mpr (f.steps_strictMono (Nat.sub_lt someFinite Nat.one_pos))
  have middle :
      2 * ((num * f.one : ℕ) / den : ℚ) < f.steps (f.infinity - 1) + f.steps f.infinity := by
    rw [limit, lt_div_iff₀ (by linarith)] at small
    rw [Nat.cast_mul, mul_div_right_comm]
    linarith
  refine Nat.lt_of_le_of_ne (f.nearest_le_infinity num den) fun infinite => ?_
  have far : |_ - (f.steps (f.nearest num den) : ℚ)| ≤ _ :=
    f.nearest_nearest positive (Nat.sub_le f.infinity 1)
  rw [infinite, abs_of_nonpos (by linarith)] at far
  obtain inside | below := le_total ((num * f.one : ℕ) / den : ℚ) (f.steps (f.infinity - 1))
  · rw [abs_of_nonpos (by linarith)] at far
    linarith
  · rw [abs_of_nonneg (by linarith)] at far
    linarith

/-- Integers with no more bits than a significand have a code. -/
theorem exists_steps_eq {m : Nat} (small : m ≤ 2 * f.binade) (room : f.fraction ≤ f.quantum) :
    ∃ code, code ≤ (f.quantum + 2) * f.binade ∧ f.steps code = m * f.one := by
  by_cases zero : m = 0
  · exact ⟨0, Nat.zero_le _, by rw [zero, Nat.zero_mul, f.steps_eq_zero]⟩
  · -- The significand is the integer shifted to full length, and the spacing makes up for that.
    have low : f.binade ≤ m * 2 ^ (f.fraction - m.log2) := by
      calc 2 ^ f.fraction
          ≤ 2 ^ (m.log2 + (f.fraction - m.log2)) := Nat.pow_le_pow_right Nat.two_pos (by omega)
        _ = 2 ^ m.log2 * 2 ^ (f.fraction - m.log2) := Nat.pow_add ..
        _ ≤ m * 2 ^ (f.fraction - m.log2) := Nat.mul_le_mul_right _ (Nat.log2_self_le zero)
    have high : m * 2 ^ (f.fraction - m.log2) ≤ 2 * f.binade := by
      obtain short | long := Nat.le_or_ge m.log2 f.fraction
      · calc m * 2 ^ (f.fraction - m.log2)
            ≤ 2 ^ (m.log2 + 1) * 2 ^ (f.fraction - m.log2) :=
              Nat.mul_le_mul_right _ Nat.lt_log2_self.le
          _ = 2 ^ (f.fraction + 1) := by rw [← Nat.pow_add]; congr 1; omega
          _ = 2 * f.binade := Nat.pow_succ'
      · rw [Nat.sub_eq_zero_of_le long, Nat.pow_zero, Nat.mul_one]
        exact small
    have spacing : f.quantum - (f.fraction - m.log2) ≤ f.quantum := Nat.sub_le ..
    refine ⟨(f.quantum - (f.fraction - m.log2)) * f.binade + m * 2 ^ (f.fraction - m.log2), ?_, ?_⟩
    · rw [Nat.add_mul]
      exact Nat.add_le_add (Nat.mul_le_mul_right _ spacing) high
    · rw [f.steps_of_significand (.inr low) high, Nat.mul_assoc, ← Nat.pow_add]
      congr 2
      omega

end FloatFormat

/-! ### The nearest number -/

namespace Binary

variable {f g : FloatFormat} {x : Binary f} {v : ℚ}

/-- The value of a finite number. -/
def value (x : Binary f) : ℚ := x.scaled / f.one

/-- **A finite number that is nearest to a value**: no finite number of the format is nearer. -/
structure IsNearest (x : Binary f) (v : ℚ) : Prop where
  finite : x.isFinite = true
  nearest : ∀ y : Binary f, y.isFinite = true → |v - x.value| ≤ |v - y.value|

/-- If a value is that of a number then it is that of a nearest number. -/
theorem IsNearest.value_eq (near : x.IsNearest v) {y : Binary f} (finite : y.isFinite = true)
    (same : y.value = v) : x.value = v := by
  have gap := near.nearest y finite
  rw [same, sub_self, abs_zero] at gap
  exact (sub_eq_zero.mp (abs_nonpos_iff.mp gap)).symm

/-- A finite number is nearest to its own value. -/
theorem isNearest_value (finite : x.isFinite = true) : x.IsNearest x.value := by
  refine ⟨finite, fun y _ => ?_⟩
  rw [sub_self, abs_zero]
  exact abs_nonneg _

/-- The magnitude of a value is that of the code. -/
theorem abs_value (x : Binary f) : |x.value| = f.steps x.code / f.one := by
  rw [value, abs_div, Nat.abs_cast, ← Int.cast_abs, Int.abs_eq_natAbs, natAbs_scaled,
    Int.cast_natCast]

/-- A magnitude with a sign. -/
def signed (negative : Bool) (magnitude : ℚ) : ℚ := if negative then -magnitude else magnitude

theorem abs_signed (negative : Bool) {magnitude : ℚ} (natural : 0 ≤ magnitude) :
    |signed negative magnitude| = magnitude := by
  cases negative with
  | true => exact (abs_neg magnitude).trans (abs_of_nonneg natural)
  | false => exact abs_of_nonneg natural

theorem abs_signed_sub (negative : Bool) (a b : ℚ) :
    |signed negative a - signed negative b| = |a - b| := by
  cases negative with
  | true =>
    show |-a - -b| = |a - b|
    rw [neg_sub_neg, abs_sub_comm]
  | false => rfl

/-- An integer is its magnitude with its sign. -/
theorem signed_natAbs (n : Int) : signed (decide (n < 0)) n.natAbs = n := by
  rw [Nat.cast_natAbs, Int.cast_abs, signed]
  split
  · rename_i below
    rw [abs_of_neg (Int.cast_lt_zero.mpr (of_decide_eq_true below)), neg_neg]
  · rename_i natural
    exact abs_of_nonneg
      (Int.cast_nonneg (Int.not_lt.mp fun below => natural (decide_eq_true below)))

theorem value_eq_signed (x : Binary f) : x.value = signed x.negative (f.steps x.code / f.one) := by
  unfold value scaled signed
  split
  · rw [Int.cast_neg, Int.cast_natCast, neg_div]
  · rw [Int.cast_natCast]

/-- **A signed quotient is rounded to a nearest number**, unless it is rounded out of range. -/
theorem isNearest_ofQuotient {negative : Bool} {num den : Nat} (positive : 0 < den)
    (finite : (ofQuotient negative num den : Binary f).isFinite = true) :
    (ofQuotient negative num den : Binary f).IsNearest (signed negative (num / den)) := by
  refine ⟨finite, fun y inRange => ?_⟩
  have natural : (0 : ℚ) ≤ num / den := by positivity
  have value : (ofQuotient negative num den : Binary f).value =
      signed negative (f.steps (f.nearest num den) / f.one) := value_eq_signed _
  calc |signed negative (num / den) - (ofQuotient negative num den : Binary f).value|
      = |(num / den : ℚ) - f.steps (f.nearest num den) / f.one| := by rw [value, abs_signed_sub]
    _ ≤ |(num / den : ℚ) - f.steps y.code / f.one| :=
        f.nearest_nearest_value positive (of_decide_eq_true inRange).le
    _ = |(|signed negative (num / den)|) - (|y.value|)| := by rw [abs_signed _ natural, abs_value]
    _ ≤ |signed negative (num / den) - y.value| := abs_abs_sub_abs_le ..

/-- **An integer is rounded to a nearest number.** -/
theorem isNearest_ofInt {n : Int} (finite : (ofInt n : Binary f).isFinite = true) :
    (ofInt n : Binary f).IsNearest n := by
  have near : (ofInt n : Binary f).IsNearest (signed (decide (n < 0)) (n.natAbs / (1 : ℕ))) :=
    isNearest_ofQuotient Nat.one_pos finite
  rwa [Nat.cast_one, div_one, signed_natAbs] at near

theorem convert_of_isFinite (known : x.isFinite = true) :
    (x.convert : Binary g) = ofQuotient x.negative (f.steps x.code) f.one := by
  have below : x.code < f.infinity := of_decide_eq_true known
  have number : ¬ x.isNaN = true := fun nan => absurd (of_decide_eq_true nan) (Nat.lt_asymm below)
  rw [convert, if_neg number, if_pos known]

/-- **A finite number is rounded to a nearest number of another format**, unless it is rounded out
of range. -/
theorem isNearest_convert (known : x.isFinite = true)
    (finite : (x.convert : Binary g).isFinite = true) :
    (x.convert : Binary g).IsNearest x.value := by
  rw [convert_of_isFinite known] at finite ⊢
  rw [value_eq_signed]
  exact isNearest_ofQuotient f.one_pos finite

/-- **A number below the limit of another format is finite in it.** -/
theorem isFinite_convert_of_lt (known : x.isFinite = true) (someFinite : 0 < g.infinity)
    (small : |x.value| < g.limit) : (x.convert : Binary g).isFinite = true := by
  rw [abs_value] at small
  rw [convert_of_isFinite known]
  exact decide_eq_true (g.nearest_lt_infinity_of_lt f.one_pos someFinite small)

/-- Integers with no more bits than a significand are values of numbers. -/
theorem exists_value_eq {n : Int} (small : n.natAbs ≤ 2 * f.binade) (room : f.fraction ≤ f.quantum)
    (range : f.quantum + 2 < f.top) : ∃ y : Binary f, y.isFinite = true ∧ y.value = n := by
  obtain ⟨code, few, steps⟩ := f.exists_steps_eq small room
  have below : code < f.infinity := few.trans_lt (Nat.mul_lt_mul_of_pos_right range f.binade_pos)
  have unit : (f.one : ℚ) ≠ 0 := Nat.cast_ne_zero.mpr f.one_pos.ne'
  refine ⟨ofCode (decide (n < 0)) code below.le, decide_eq_true below, (value_eq_signed _).trans ?_⟩
  show signed (decide (n < 0)) (f.steps code / f.one) = n
  rw [steps, Nat.cast_mul, mul_div_cancel_right₀ _ unit, signed_natAbs]

end Binary

end FacetQuery
