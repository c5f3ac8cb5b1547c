/-
**Reading the text of a document.**

The reader takes the grammar of JSON and nothing more. A number without point and exponent is an
integer when eight bytes hold it, and a floating number otherwise; minus zero is a floating number,
and a number too large for any floating number is refused, as is half of a pair of surrogates. Of
two members with one name the later counts.

Every call hands on a smaller `depth`; the number of characters is enough of it, since each value
nested in another starts behind at least one more character.
-/

import FacetQuery.Json.Basic
import FacetQuery.Numeral.Scan

namespace FacetQuery.Json

/-- The text behind leading blanks. -/
def skipBlanks (text : List Char) : List Char :=
  text.dropWhile fun c => c = ' ' ∨ c = '\n' ∨ c = '\r' ∨ c = '\t'

/-! ### Numbers -/

/-- The fraction of a number: nothing, or a point and at least one digit. -/
def fraction? : List Char → Option (Option (List Char) × List Char)
  | '.' :: rest =>
    let (digits, rest) := Scan.digits rest
    if digits.isEmpty then none else some (some digits, rest)
  | rest => some (none, rest)

/-- The exponent of a number: nothing, or a letter, an optional sign and at least one digit. -/
def exponent? : List Char → Option (Option Int × List Char)
  | c :: rest =>
    if c = 'e' ∨ c = 'E' then
      let (negative, rest) := Scan.sign rest
      let (digits, rest) := Scan.digits rest
      let size : Int := Scan.natural digits
      if digits.isEmpty then none else some (some (if negative then -size else size), rest)
    else some (none, c :: rest)
  | [] => some (none, [])

/-- The number of a sign, the digits of its parts and its exponent. -/
def numberOfParts? (negative : Bool) (whole : List Char) (fraction : Option (List Char))
    (exponent : Option Int) : Option Number :=
  let value : Int := Scan.natural whole
  match fraction, exponent with
  | none, none =>
    if negative then
      if value = 0 ∨ 9223372036854775808 < value then
        Number.ofDouble? (.ofDecimal true (Scan.natural whole) 0)
      else Number.ofInt? (-value)
    else Number.ofInt? value
  | _, _ =>
    let behind := fraction.getD []
    Number.ofDouble?
      (.ofDecimal negative (Scan.natural (whole ++ behind)) (exponent.getD 0 - behind.length))

/-- A number at the start of a text: no leading zero before another digit. -/
def readNumber? (text : List Char) : Option (Number × List Char) := do
  let (negative, unsigned) := match text with
    | '-' :: rest => (true, rest)
    | _ => (false, text)
  let (whole, rest) := Scan.digits unsigned
  if whole.isEmpty ∨ (whole.head? = some '0' ∧ 1 < whole.length) then none
  let (fraction, rest) ← fraction? rest
  let (exponent, rest) ← exponent? rest
  let value ← numberOfParts? negative whole fraction exponent
  some (value, rest)

/-! ### Strings -/

/-- The value of a hexadecimal digit. -/
def hexValue? (c : Char) : Option Nat :=
  if c.isDigit then some (c.toNat - '0'.toNat)
  else if 'a' ≤ c ∧ c ≤ 'f' then some (c.toNat - 'a'.toNat + 10)
  else if 'A' ≤ c ∧ c ≤ 'F' then some (c.toNat - 'A'.toNat + 10)
  else none

/-- The number that hexadecimal digits write. -/
def hexNatural? (digits : List Char) : Option Nat :=
  digits.foldlM (fun n c => (hexValue? c).map (16 * n + ·)) 0

/-- The character of an escape by a single letter. -/
def letterEscape? : Char → Option Char
  | '"' => some '"'
  | '\\' => some '\\'
  | '/' => some '/'
  | 'b' => some '\x08'
  | 'f' => some '\x0c'
  | 'n' => some '\n'
  | 'r' => some '\r'
  | 't' => some '\t'
  | _ => none

/-- The character of a pair of surrogates. -/
def paired? (high low : Nat) : Option Char :=
  if 0xD800 ≤ high ∧ high < 0xDC00 ∧ 0xDC00 ≤ low ∧ low < 0xE000 then
    some (Char.ofNat (0x10000 + (high - 0xD800) * 0x400 + (low - 0xDC00)))
  else none

/-- The character of a single unit, which is no surrogate. -/
def alone? (unit : Nat) : Option Char :=
  if 0xD800 ≤ unit ∧ unit < 0xE000 then none else some (Char.ofNat unit)

/-- What a string is made of: characters, and the units written by their four digits. -/
inductive Piece where
  | char (c : Char)
  | unit (value : Nat)

/-- The pieces of a string up to its closing quote, and what follows it. -/
def readPieces? : List Char → Option (List Piece × List Char)
  | '"' :: rest => some ([], rest)
  | '\\' :: 'u' :: a :: b :: c :: d :: rest => do
    let value ← hexNatural? [a, b, c, d]
    let (pieces, rest) ← readPieces? rest
    some (.unit value :: pieces, rest)
  | '\\' :: c :: rest => do
    let char ← letterEscape? c
    let (pieces, rest) ← readPieces? rest
    some (.char char :: pieces, rest)
  | c :: rest => do
    if c.toNat < 32 ∨ c = '\\' then none
    let (pieces, rest) ← readPieces? rest
    some (.char c :: pieces, rest)
  | [] => none

/-- The characters of pieces, a surrogate together with the unit behind it. -/
def joined? : List Piece → Option (List Char)
  | [] => some []
  | .char c :: rest => (joined? rest).map (c :: ·)
  | .unit value :: rest =>
    match alone? value with
    | some c => (joined? rest).map (c :: ·)
    | none =>
      match rest with
      | .unit low :: rest => do
        let c ← paired? value low
        let later ← joined? rest
        some (c :: later)
      | _ => none

/-- A string up to its closing quote. -/
def readString? (text : List Char) : Option (String × List Char) := do
  let (pieces, rest) ← readPieces? text
  let content ← joined? pieces
  some (String.ofList content, rest)

/-! ### Documents -/

mutual

/-- A document at the start of a text. -/
def readValue? : (depth : Nat) → List Char → Option (Json × List Char)
  | 0, _ => none
  | depth + 1, text =>
    match skipBlanks text with
    | 'n' :: 'u' :: 'l' :: 'l' :: rest => some (.null, rest)
    | 't' :: 'r' :: 'u' :: 'e' :: rest => some (.bool true, rest)
    | 'f' :: 'a' :: 'l' :: 's' :: 'e' :: rest => some (.bool false, rest)
    | '"' :: rest => (readString? rest).map fun (content, rest) => (.string content, rest)
    | '[' :: rest =>
      match skipBlanks rest with
      | ']' :: rest => some (.array [], rest)
      | rest => (readItems? depth rest).map fun (items, rest) => (.array items, rest)
    | '\x7b' :: rest =>
      match skipBlanks rest with
      | '\x7d' :: rest => some (.object [], rest)
      | rest => (readMembers? depth rest).map fun (members, rest) => (record members, rest)
    | rest => (readNumber? rest).map fun (n, rest) => (.number n, rest)

/-- The items of an array, up to its bracket. -/
def readItems? : (depth : Nat) → List Char → Option (List Json × List Char)
  | 0, _ => none
  | depth + 1, text =>
    match readValue? depth text with
    | none => none
    | some (item, rest) =>
      match skipBlanks rest with
      | ',' :: rest => (readItems? depth rest).map fun (items, rest) => (item :: items, rest)
      | ']' :: rest => some ([item], rest)
      | _ => none

/-- The members of an object, up to its brace. -/
def readMembers? : (depth : Nat) → List Char → Option (List (String × Json) × List Char)
  | 0, _ => none
  | depth + 1, text =>
    match skipBlanks text with
    | '"' :: rest =>
      match readString? rest with
      | none => none
      | some (name, rest) =>
        match skipBlanks rest with
        | ':' :: rest =>
          match readValue? depth rest with
          | none => none
          | some (value, rest) =>
            match skipBlanks rest with
            | ',' :: rest =>
              (readMembers? depth rest).map fun (members, rest) => ((name, value) :: members, rest)
            | '\x7d' :: rest => some ([(name, value)], rest)
            | _ => none
        | _ => none
    | _ => none

end

/-- The document that a whole text writes. -/
def parse? (source : String) : Option Json :=
  let text := source.toList
  match readValue? (text.length + 1) text with
  | some (document, rest) => if (skipBlanks rest).isEmpty then some document else none
  | none => none

end FacetQuery.Json
