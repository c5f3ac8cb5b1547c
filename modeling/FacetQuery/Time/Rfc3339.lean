/-
**Instants as text, by RFC 3339.**

* `Rfc3339.write` — date and time of an instant at offset zero. The fraction has none, three, six or
  nine digits, the fewest that show all of it. Nanoseconds past a thousand million are a second
  more, so a leap second is the second sixty. A year before zero or after 9999 has a sign and at
  least four digits.
* `Rfc3339.read?` — the grammar: a four-digit year, any of three characters between date and time, a
  fraction of any number of digits, of which nine count, and an offset of hours and minutes or a
  letter for none. The second sixty is taken at any minute. What is read is the instant, whatever
  its offset.
-/

import FacetQuery.Time.Instant
import FacetQuery.Numeral.Scan

namespace FacetQuery.Rfc3339

/-! ### Writing -/

/-- A number in decimal, with zeros in front up to a width. -/
def padded (width n : Nat) : List Char :=
  let digits := Nat.toDigits 10 n
  List.replicate (width - digits.length) '0' ++ digits

/-- A year of four digits, or a signed one. -/
def writeYear (year : Int) : List Char :=
  if 0 ≤ year ∧ year ≤ 9999 then padded 4 year.toNat
  else (if year < 0 then '-' else '+') :: padded 4 year.natAbs

/-- A date. -/
def writeDate (date : CalendarDate) : List Char :=
  writeYear date.year ++ ['-'] ++ padded 2 date.month ++ ['-'] ++ padded 2 date.day

/-- The fraction of a second, by the fewest groups of three digits that show it. -/
def writeFraction (nanos : Nat) : List Char :=
  if nanos = 0 then []
  else if nanos % 1000000 = 0 then '.' :: padded 3 (nanos / 1000000)
  else if nanos % 1000 = 0 then '.' :: padded 6 (nanos / 1000)
  else '.' :: padded 9 nanos

/-- A time of day, or the second behind it in its minute. -/
def writeTime (secondOfDay : Nat) (carries : Bool) : List Char :=
  padded 2 (secondOfDay / 3600) ++ [':'] ++ padded 2 (secondOfDay / 60 % 60) ++ [':']
    ++ padded 2 (secondOfDay % 60 + (if carries then 1 else 0))

/-- The text of an instant. -/
def write (instant : Instant) : String :=
  String.ofList (writeDate (.ofDays instant.days) ++ ['T']
    ++ writeTime instant.secondOfDay instant.carries
    ++ writeFraction (instant.nanos % 1000000000) ++ ['+', '0', '0', ':', '0', '0'])

/-! ### Reading -/

/-- The number of exactly `width` digits at the start of a text, and the rest. -/
def fixed? (width : Nat) (text : List Char) : Option (Nat × List Char) :=
  let digits := text.take width
  if digits.length = width ∧ digits.all Char.isDigit then
    some (Scan.natural digits, text.drop width)
  else none

/-- The text behind one expected character. -/
def expect? (accepted : List Char) : List Char → Option (List Char)
  | c :: rest => if c ∈ accepted then some rest else none
  | [] => none

/-- A date at the start of a text. -/
def readDate? (text : List Char) : Option (CalendarDate × List Char) := do
  let (year, rest) ← fixed? 4 text
  let rest ← expect? ['-'] rest
  let (month, rest) ← fixed? 2 rest
  let rest ← expect? ['-'] rest
  let (day, rest) ← fixed? 2 rest
  let date : CalendarDate := ⟨year, month, day⟩
  if date.isValid then some (date, rest) else none

/-- Hours, minutes and seconds at the start of a text: the second of the day and whether it is
followed by a leap second. -/
def readTime? (text : List Char) : Option (Nat × Bool × List Char) := do
  let (hour, rest) ← fixed? 2 text
  let rest ← expect? [':'] rest
  let (minute, rest) ← fixed? 2 rest
  let rest ← expect? [':'] rest
  let (second, rest) ← fixed? 2 rest
  if hour < 24 ∧ minute < 60 ∧ second ≤ 60 then
    some (hour * 3600 + minute * 60 + min second 59, decide (second = 60), rest)
  else none

/-- The nanoseconds of an optional fraction. -/
def readFraction? : List Char → Option (Nat × List Char)
  | '.' :: rest =>
    let (digits, rest) := Scan.digits rest
    if digits.isEmpty then none
    else
      let counted := digits.take 9
      some (Scan.natural counted * Nat.pow 10 (9 - counted.length), rest)
  | rest => some (0, rest)

/-- The seconds that an offset is ahead; the text ends behind it. -/
def readOffset? (text : List Char) : Option Int :=
  match text with
  | ['Z'] => some 0
  | ['z'] => some 0
  | sign :: rest => do
    if sign ∉ ['+', '-', '−'] then none
    let (hours, rest) ← fixed? 2 rest
    let rest ← expect? [':'] rest
    let (minutes, rest) ← fixed? 2 rest
    if hours < 24 ∧ minutes < 60 ∧ rest.isEmpty then
      let ahead : Int := hours * 3600 + minutes * 60
      some (if sign = '+' then ahead else -ahead)
    else none
  | [] => none

/-- The instant that a text writes. -/
def read? (text : String) : Option Instant := do
  let (date, rest) ← readDate? text.toList
  let rest ← expect? ['T', 't', ' '] rest
  let (second, leap, rest) ← readTime? rest
  let (nanos, rest) ← readFraction? rest
  let offset ← readOffset? rest
  Instant.ofParts? (date.toDays * 86400 + second - offset)
    (nanos + (if leap then 1000000000 else 0))

end FacetQuery.Rfc3339
