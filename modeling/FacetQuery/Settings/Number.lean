/-
**The numbers of a settings document.**

Digits may be grouped by single underscores, each between two digits. An integer is decimal, with an
optional sign and no leading zero, or hexadecimal, octal or binary without a sign. A floating number
has a decimal integer before its fraction or exponent, or is a name of infinity or of the
non-number; other numbers have to be finite.
-/

import FacetQuery.Json.Reader

namespace FacetQuery.Settings

/-- The digits of a group, each underscore between two of them; at least one digit. -/
def ungrouped? (isDigit : Char → Bool) : List Char → Option (List Char)
  | [] => none
  | [c] => if isDigit c then some [c] else none
  | c :: '_' :: rest => if isDigit c then (ungrouped? isDigit rest).map (c :: ·) else none
  | c :: rest => if isDigit c then (ungrouped? isDigit rest).map (c :: ·) else none

/-- The digits of a decimal number without leading zeros. -/
def decimalDigits? (text : List Char) : Option (List Char) := do
  let digits ← ungrouped? Char.isDigit text
  if digits.head? = some '0' ∧ 1 < digits.length then none else some digits

/-- Whether a character is a digit of a base up to sixteen. -/
def isDigitOf (base : Nat) (c : Char) : Bool := (Json.hexValue? c).any (· < base)

/-- The number that digits of a base write. -/
def inBase? (base : Nat) (text : List Char) : Option Nat := do
  let digits ← ungrouped? (isDigitOf base) text
  return digits.foldl (fun n c => base * n + (Json.hexValue? c).getD 0) 0

/-- The integer that a word writes. -/
def integer? : List Char → Option Int
  | '0' :: 'x' :: text => (inBase? 16 text).map Int.ofNat
  | '0' :: 'o' :: text => (inBase? 8 text).map Int.ofNat
  | '0' :: 'b' :: text => (inBase? 2 text).map Int.ofNat
  | text => do
    let (negative, rest) := Scan.sign text
    let digits ← decimalDigits? rest
    let size : Int := Scan.natural digits
    return if negative then -size else size

/-- The fraction of a number: nothing, or a point and digits. -/
def fraction? : List Char → Option (List Char × List Char)
  | '.' :: rest => do
    let isPart (c : Char) : Bool := c.isDigit || c == '_'
    let digits ← ungrouped? Char.isDigit (rest.takeWhile isPart)
    return (digits, rest.dropWhile isPart)
  | rest => some ([], rest)

/-- The exponent that ends a number: nothing, or a letter, an optional sign and digits. -/
def exponent? : List Char → Option Int
  | [] => some 0
  | c :: rest => do
    if c ≠ 'e' ∧ c ≠ 'E' then none
    let (negative, rest) := Scan.sign rest
    let digits ← ungrouped? Char.isDigit rest
    let size : Int := Scan.natural digits
    return if negative then -size else size

/-- The floating number that a word writes. -/
def real? (word : List Char) : Option Double := do
  let (negative, text) := Scan.sign word
  if text = ['i', 'n', 'f'] then return .infinite negative
  if text = ['n', 'a', 'n'] then return .notANumber negative
  let isPart (c : Char) : Bool := c.isDigit || c == '_'
  let whole ← decimalDigits? (text.takeWhile isPart)
  let (fraction, rest) ← fraction? (text.dropWhile isPart)
  let exponent ← exponent? rest
  let value : Double :=
    .ofDecimal negative (Scan.natural (whole ++ fraction)) (exponent - fraction.length)
  if value.isFinite then some value else none

/-- The number that a word writes, as a floating one; an integer has to be one of eight bytes. -/
def number? (word : List Char) : Option Double :=
  match integer? word with
  | some n => if Json.FitsEight n then some (.ofInt n) else none
  | none => real? word

end FacetQuery.Settings
