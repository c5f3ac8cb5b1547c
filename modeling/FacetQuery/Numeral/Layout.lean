/-
**How a floating number is written.**

`Layout` holds the decisions of one output: which tie the shortest digits follow, for which leading
places the digits are written around a point and for which with an exponent, and whether a whole
number keeps its `.0`. The two layouts of the library are `Layout.json`, for the numbers of JSON
texts, and `Layout.message`, for error messages and the text of predicates.
-/

import FacetQuery.Numeral.Shortest

namespace FacetQuery

/-- The decisions of one way to write floating numbers. -/
structure Layout where
  /-- Between two shortest decimals at the same distance. -/
  tie : Tie
  /-- The powers of ten of the leading digit that are written around a point, from the first up to
  and without the second; always, when there are none. -/
  plain : Option (Int × Int)
  /-- Whether a number without a fraction is written with `.0`. -/
  keepsPoint : Bool

namespace Layout

/-- Numbers in JSON: plain from `0.00001` up to sixteen places, always with a point when plain. -/
def json : Layout where
  tie := .even
  plain := some (-5, 16)
  keepsPoint := true

/-- Numbers in messages: never an exponent, and no point where none is needed. -/
def message : Layout where
  tie := .away
  plain := none
  keepsPoint := false

/-- A run of zeros. -/
def zeros (count : Nat) : List Char := List.replicate count '0'

/-- Digits around a point that stands behind the first `places` of them. -/
def positional (layout : Layout) (digits : List Char) (places : Int) : List Char :=
  if places ≤ 0 then
    ['0', '.'] ++ zeros (-places).toNat ++ digits
  else if digits.length ≤ places.toNat then
    digits ++ zeros (places.toNat - digits.length) ++ (if layout.keepsPoint then ['.', '0'] else [])
  else
    digits.take places.toNat ++ ['.'] ++ digits.drop places.toNat

/-- One digit before the point, the rest behind it, and a signed exponent. -/
def scientific (digits : List Char) (exponent : Int) : List Char :=
  let rest := digits.drop 1
  digits.take 1 ++ (if rest.isEmpty then [] else '.' :: rest) ++ ['e']
    ++ [if exponent < 0 then '-' else '+'] ++ Nat.toDigits 10 exponent.natAbs

/-- The digits of a decimal without its trailing zeros, and the number of places before the
point. -/
def normalised (decimal : Decimal) : List Char × Int :=
  let digits := Nat.toDigits 10 decimal.significand
  ((digits.reverse.dropWhile (· == '0')).reverse, digits.length + decimal.exponent)

/-- A positive decimal in this layout. -/
def decimal (layout : Layout) (value : Decimal) : List Char :=
  let (digits, places) := normalised value
  match layout.plain with
  | none => layout.positional digits places
  | some (low, high) =>
    if low ≤ places - 1 ∧ places - 1 < high then layout.positional digits places
    else scientific digits (places - 1)

/-- Zero in this layout. -/
def zero (layout : Layout) : List Char := if layout.keepsPoint then ['0', '.', '0'] else ['0']

/-- A floating number in this layout; the sign of a non-number is not written. -/
def write {f : FloatFormat} (layout : Layout) (x : Binary f) : String :=
  if x.isNaN then "NaN"
  else
    let sign := if x.negative then ['-'] else []
    let magnitude :=
      if ¬ x.isFinite then ['i', 'n', 'f']
      else if x.code = 0 then layout.zero
      else layout.decimal (Shortest.ofCode f layout.tie x.code)
    String.ofList (sign ++ magnitude)

end Layout

end FacetQuery
