/-
**The shortest decimal that reads back.**

The reals that round to a code form a span around its value: from half way to the code below up to
half way to the code above, the ends belonging to it exactly when the code is even. On the grid of
decimals with a given last place only the two neighbours of the value matter, because if any point
of the grid is in the span then one of these two is. The shortest decimal is found on the first
grid, from the coarsest on, that has such a point; if both neighbours are in the span then the
nearer is taken, and `Tie` decides between two at the same distance.
-/

import FacetQuery.Numeral.Binary

namespace FacetQuery

/-- A positive decimal `significand * 10 ^ exponent`. -/
structure Decimal where
  significand : Nat
  exponent : Int
deriving DecidableEq, Repr

/-- Which of two equally near neighbours is taken. -/
inductive Tie where
  | away
  | even
deriving DecidableEq, Repr

/-- The reals that round to one code, in half steps of the format. -/
structure Span where
  low : Nat
  middle : Nat
  high : Nat
  closed : Bool

/-- The span of a code: half way to each neighbour. -/
def FloatFormat.span (f : FloatFormat) (code : Nat) : Span where
  low := f.steps (code - 1) + f.steps code
  middle := 2 * f.steps code
  high := f.steps code + f.steps (code + 1)
  closed := decide (code % 2 = 0)

namespace Shortest

/-- How many half steps a point of the grid of `10 ^ exponent` is worth, times
`divisor exponent`. -/
def factor (f : FloatFormat) (exponent : Int) : Nat := Nat.pow 10 exponent.toNat * (2 * f.one)

/-- What half steps are multiplied by so that a fine grid has whole points. -/
def divisor (exponent : Int) : Nat := Nat.pow 10 (-exponent).toNat

/-- Whether `count * 10 ^ exponent` lies in the span. -/
def inSpan (f : FloatFormat) (span : Span) (exponent : Int) (count : Nat) : Bool :=
  let point := count * factor f exponent
  let low := span.low * divisor exponent
  let high := span.high * divisor exponent
  if span.closed then decide (low ≤ point ∧ point ≤ high) else decide (low < point ∧ point < high)

/-- The lower or the upper of the two neighbours of the value, whichever is nearer. -/
def nearer (f : FloatFormat) (tie : Tie) (span : Span) (exponent : Int) (below : Nat) : Nat :=
  let value := span.middle * divisor exponent
  let down := value - below * factor f exponent
  let up := (below + 1) * factor f exponent - value
  if down < up then below
  else if up < down then below + 1
  else match tie with
    | .away => below + 1
    | .even => if below % 2 = 0 then below else below + 1

/-- The point of the grid of `10 ^ exponent` that stands for the value, if one lies in the span. -/
def onGrid? (f : FloatFormat) (tie : Tie) (span : Span) (exponent : Int) : Option Nat :=
  let below := span.middle * divisor exponent / factor f exponent
  match inSpan f span exponent below, inSpan f span exponent (below + 1) with
  | true, true => some (nearer f tie span exponent below)
  | true, false => some below
  | false, true => some (below + 1)
  | false, false => none

/-- A power of ten that is no finer than the leading digit of the value: its logarithm is below that
of the next power of two, and `30103 / 100000` exceeds the logarithm of two by less than the one
that is added. -/
def coarsest (f : FloatFormat) (code : Nat) : Int :=
  ((f.steps code).log2 + 1 - f.quantum) * 30103 / 100000 + 1

/-- As many grids as there are from `coarsest` down to the seventeenth digit of any number. -/
def mostGrids : Nat := 20

/-- The shortest decimal that rounds to a code other than zero, nearest of those. -/
def ofCode (f : FloatFormat) (tie : Tie) (code : Nat) : Decimal :=
  let found := (List.range mostGrids).findSome? fun (finer : Nat) =>
    let exponent := coarsest f code - finer
    (onGrid? f tie (f.span code) exponent).map fun count => (⟨count, exponent⟩ : Decimal)
  found.getD ⟨0, 0⟩

end Shortest

end FacetQuery
