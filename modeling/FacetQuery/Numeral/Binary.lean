/-
**Binary floating numbers, exactly.**

A number of a binary format is a sign and a code. The code counts magnitudes from zero upwards, so
the order of codes is the order of magnitudes, and the neighbours of a number are the codes beside
its own.

* `FloatFormat.steps` — **what a code means**: its magnitude as a multiple of the format's smallest
  step. The pattern goes on past the largest finite number, so infinity gets the first power of two
  that is out of range, which is what rounding has to compare with.
* `FloatFormat.nearest` — **rounding**: the code nearest to a quotient of natural numbers, a tie
  going to the even code, everything from half a step above the largest finite number to infinity.
* `Binary.scaled` — **the value as an integer**: sign and magnitude in steps. Comparison, truncation
  and the test for a whole number are integer arithmetic on it.
-/

namespace FacetQuery

/-- A binary format: the bits of the fraction, the exponent of the smallest step `2 ^ (-quantum)`,
and the exponent field kept for infinity and for what is not a number. -/
structure FloatFormat where
  fraction : Nat
  quantum : Nat
  top : Nat
deriving DecidableEq

/-- The quotient rounded to the nearest natural number, a tie going to the even one. -/
def roundedQuotient (num den : Nat) : Nat :=
  let quotient := num / den
  let rest := num % den
  if 2 * rest < den ∨ (2 * rest = den ∧ quotient % 2 = 0) then quotient else quotient + 1

namespace FloatFormat

/-- Four bytes: 23 bits of fraction, exponents from -126 to 127. -/
def single : FloatFormat where
  fraction := 23
  quantum := 149
  top := 255

/-- Eight bytes: 52 bits of fraction, exponents from -1022 to 1023. -/
def double : FloatFormat where
  fraction := 52
  quantum := 1074
  top := 2047

variable (f : FloatFormat)

/-- How many numbers share one exponent. -/
def binade : Nat := Nat.pow 2 f.fraction

/-- How many steps make one. -/
def one : Nat := Nat.pow 2 f.quantum

/-- The code of infinity, just above that of the largest finite number. -/
def infinity : Nat := f.top * f.binade

/-- How many codes there are; those above infinity are not numbers. -/
def codes : Nat := (f.top + 1) * f.binade

/-- The magnitude of a code in steps of `2 ^ (-quantum)`. -/
def steps (code : Nat) : Nat :=
  let exponent := code / f.binade
  let fraction := code % f.binade
  if exponent = 0 then fraction else (f.binade + fraction) * Nat.pow 2 (exponent - 1)

/-- The code nearest to `num / den`. Above the smallest binades the codes are spaced by `2 ^ shift`
steps, and a carry out of the fraction moves into the exponent by itself. -/
def nearest (num den : Nat) : Nat :=
  let inSteps := num * f.one
  let shift := (inSteps / den).log2 - f.fraction
  min (shift * f.binade + roundedQuotient inSteps (den * Nat.pow 2 shift)) f.infinity

/-- The code nearest to `significand * 10 ^ exponent`. A number with so many places before or behind
the point that it is out of every range is decided by their count alone. -/
def nearestDecimal (significand : Nat) (exponent : Int) : Nat :=
  let places := (Nat.toDigits 10 significand).length + exponent
  if significand = 0 ∨ places < -f.quantum then 0
  else if f.quantum + 1 < places then f.infinity
  else f.nearest (significand * Nat.pow 10 exponent.toNat) (Nat.pow 10 (-exponent).toNat)

theorem binade_pos : 0 < f.binade := Nat.two_pow_pos _

theorem infinity_lt_codes : f.infinity < f.codes :=
  Nat.mul_lt_mul_of_pos_right (Nat.lt_succ_self _) f.binade_pos

theorem nearest_le_infinity (num den : Nat) : f.nearest num den ≤ f.infinity :=
  Nat.min_le_right ..

theorem nearestDecimal_le_infinity (significand : Nat) (exponent : Int) :
    f.nearestDecimal significand exponent ≤ f.infinity := by
  unfold nearestDecimal
  dsimp only
  split
  · exact Nat.zero_le _
  · split
    · exact Nat.le_refl _
    · exact f.nearest_le_infinity ..

/-- The first code above infinity that a quiet non-number takes. -/
def quiet : Nat := f.infinity + f.binade / 2

theorem quiet_lt_codes : f.quiet < f.codes := by
  have half : f.binade / 2 < f.binade := Nat.div_lt_self f.binade_pos (by decide)
  have whole : f.codes = f.infinity + f.binade := Nat.succ_mul ..
  rw [whole]
  exact Nat.add_lt_add_left half _

end FloatFormat

/-- A floating number: its sign and the code of its magnitude. -/
structure Binary (f : FloatFormat) where
  negative : Bool
  code : Nat
  code_lt : code < f.codes
deriving DecidableEq

/-- The numbers of four bytes. -/
abbrev Single := Binary .single

/-- The numbers of eight bytes. -/
abbrev Double := Binary .double

namespace Binary

variable {f g : FloatFormat}

/-- The number of a sign and a code up to infinity. -/
def ofCode (negative : Bool) (code : Nat) (range : code ≤ f.infinity) : Binary f :=
  ⟨negative, code, Nat.lt_of_le_of_lt range f.infinity_lt_codes⟩

/-- Zero with a sign. -/
def zero (negative : Bool) : Binary f := ofCode negative 0 (Nat.zero_le _)

/-- Infinity with a sign. -/
def infinite (negative : Bool) : Binary f := ofCode negative f.infinity (Nat.le_refl _)

/-- The quiet non-number with a sign. -/
def notANumber (negative : Bool) : Binary f := ⟨negative, f.quiet, f.quiet_lt_codes⟩

/-- The number nearest to a signed quotient. -/
def ofQuotient (negative : Bool) (num den : Nat) : Binary f :=
  ofCode negative (f.nearest num den) (f.nearest_le_infinity num den)

/-- The number nearest to a signed decimal. -/
def ofDecimal (negative : Bool) (significand : Nat) (exponent : Int) : Binary f :=
  ofCode negative (f.nearestDecimal significand exponent)
    (f.nearestDecimal_le_infinity significand exponent)

/-- The number nearest to an integer. -/
def ofInt (n : Int) : Binary f := ofQuotient (decide (n < 0)) n.natAbs 1

/-- Neither infinite nor a non-number. -/
def isFinite (x : Binary f) : Bool := decide (x.code < f.infinity)

/-- Not a number at all. -/
def isNaN (x : Binary f) : Bool := decide (f.infinity < x.code)

/-- The value in steps of the format. -/
def scaled (x : Binary f) : Int := if x.negative then -(f.steps x.code : Int) else f.steps x.code

/-- Equality of values: the two zeros are equal, and a non-number equals nothing. -/
def sameValue (x y : Binary f) : Bool := !x.isNaN && !y.isNaN && decide (x.scaled = y.scaled)

/-- Order of values; a non-number is not comparable. -/
def atMost (x y : Binary f) : Bool := !x.isNaN && !y.isNaN && decide (x.scaled ≤ y.scaled)

/-- The place of a number when signs and non-numbers are ordered too: negative before positive,
magnitudes by code. -/
def rank (x : Binary f) : Int := if x.negative then -(x.code : Int) - 1 else x.code

/-- The value with its fraction cut off. -/
def truncated (x : Binary f) : Int := x.scaled.tdiv f.one

/-- Finite and without a fraction. -/
def isWhole (x : Binary f) : Bool := x.isFinite && decide (f.steps x.code % f.one = 0)

/-- All bits of a number, the sign first. -/
def bits (x : Binary f) : Nat := (if x.negative then f.codes else 0) + x.code

/-- The same value in another format, rounded; infinities and non-numbers keep their sign. -/
def convert (x : Binary f) : Binary g :=
  if x.isNaN then notANumber x.negative
  else if x.isFinite then ofQuotient x.negative (f.steps x.code) f.one
  else infinite x.negative

theorem ofQuotient_isNaN (negative : Bool) (num den : Nat) :
    (ofQuotient negative num den : Binary f).isNaN = false := by
  exact decide_eq_false (Nat.not_lt.mpr (f.nearest_le_infinity num den))

theorem ofInt_isNaN (n : Int) : (ofInt n : Binary f).isNaN = false :=
  ofQuotient_isNaN ..

end Binary

end FacetQuery
