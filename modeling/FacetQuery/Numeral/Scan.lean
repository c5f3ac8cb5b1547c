/-
**Reading decimal numbers.**

* `Scan.digits` — the leading decimal digits of a text and what follows them.
* `Scan.integer?` — a whole text as an integer: an optional sign and at least one digit, leading
  zeros allowed.
* `Scan.real?` — a whole text as a floating number: an optional sign, then a name of infinity or of
  the non-number in any case, or digits with an optional point among or around them and an optional
  exponent; the value is the nearest number of the format.
-/

import FacetQuery.Numeral.Binary

namespace FacetQuery.Scan

/-- The value of a decimal digit. -/
def digitValue (c : Char) : Nat := c.toNat - '0'.toNat

/-- The natural number that decimal digits write. -/
def natural (digits : List Char) : Nat := digits.foldl (fun n c => 10 * n + digitValue c) 0

/-- The leading digits and the rest. -/
def digits (text : List Char) : List Char × List Char :=
  (text.takeWhile Char.isDigit, text.dropWhile Char.isDigit)

/-- An optional sign: whether it was a minus, and the rest. -/
def sign : List Char → Bool × List Char
  | '-' :: rest => (true, rest)
  | '+' :: rest => (false, rest)
  | text => (false, text)

/-- A natural number that fills the whole text. -/
def natural? (text : List Char) : Option Nat :=
  if text.isEmpty ∨ ¬ text.all Char.isDigit then none else some (natural text)

/-- An integer that fills the whole text. -/
def integer? (text : List Char) : Option Int :=
  let (negative, rest) := sign text
  (natural? rest).map fun n => if negative then -(n : Int) else n

/-- The exponent behind the digits: absent, or a letter and an integer that ends the text. -/
def exponent? : List Char → Option Int
  | [] => some 0
  | c :: rest => if c = 'e' ∨ c = 'E' then integer? rest else none

/-- The digits before and behind an optional point, and the rest. -/
def mantissa (text : List Char) : List Char × List Char × List Char :=
  let (before, rest) := digits text
  match rest with
  | '.' :: behind =>
    let (after, rest) := digits behind
    (before, after, rest)
  | _ => (before, [], rest)

/-- A floating number without a sign that fills the whole text. -/
def magnitude? {f : FloatFormat} (negative : Bool) (text : List Char) : Option (Binary f) :=
  let name := text.map Char.toLower
  if name = "inf".toList ∨ name = "infinity".toList then some (.infinite negative)
  else if name = "nan".toList then some (.notANumber negative)
  else
    let (before, after, rest) := mantissa text
    if before.isEmpty ∧ after.isEmpty then none
    else (exponent? rest).map fun e =>
      .ofDecimal negative (natural (before ++ after)) (e - after.length)

/-- A floating number that fills the whole text. -/
def real? {f : FloatFormat} (text : List Char) : Option (Binary f) :=
  let (negative, rest) := sign text
  magnitude? negative rest

end FacetQuery.Scan
