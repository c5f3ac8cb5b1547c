/-
**Reading the keys of buckets.**

Keys are texts, whatever the type of the field. A `KeyReader` says how a text is read as a key of
some type, and what messages call that type; every `ValueType` has one. A bucket is read by its
formatted key first and by its raw key if that fails, and the failure shows the formatted one
(`Bucket.readKey`).
-/

import FacetQuery.Numeral.Scan
import FacetQuery.Outcome.Basic
import FacetQuery.Schema.ValueType
import FacetQuery.Failure

namespace FacetQuery

/-- How texts are read as keys. -/
structure KeyReader (κ : Type) where
  label : String
  read : String → Option κ

namespace IntegerType

/-- The integer that a text writes: a sign, which only signed types take as a minus, and digits. -/
def ofKey? (t : IntegerType) (key : String) : Option t.Carrier :=
  let text := key.toList
  if text.head? = some '-' ∧ ¬ t.isSigned then none else (Scan.integer? text).bind t.ofInt?

end IntegerType

namespace NumberType

/-- The number that a text writes. -/
def ofKey? : (t : NumberType) → String → Option t.Carrier
  | integer t, key => t.ofKey? key
  | single, key => (Scan.real? key.toList : Option Single)
  | double, key => (Scan.real? key.toList : Option Double)

end NumberType

namespace ValueType

/-- The flag that a text writes: a digit, or a word in any case. -/
def flagOfKey? (key : String) : Option Bool :=
  if key = "1" then some true
  else if key = "0" then some false
  else if Enumeration.sameLetters key "true" then some true
  else if Enumeration.sameLetters key "false" then some false
  else none

/-- The instant that a text writes, by RFC 3339 or by its milliseconds. -/
def instantOfKey? (key : String) : Option Instant :=
  match Rfc3339.read? key with
  | some time => some time
  | none => ((IntegerType.signed .eight).ofKey? key).bind fun millis => Instant.ofMillis? millis.val

/-- The value that a text writes; a type with nothing among its values never reads nothing. -/
def ofKey? : (t : ValueType) → String → Option t.Carrier
  | number t, key => t.ofKey? key
  | bool, key => flagOfKey? key
  | text, key => some key
  | instant, key => instantOfKey? key
  | choice e, key => e.ofText? key
  | optional t, key => (ofKey? t key).map some

/-- The reader of a type. -/
def keyReader (t : ValueType) : KeyReader t.Carrier where
  label := t.label
  read := t.ofKey?

end ValueType

namespace Bucket

variable {α κ : Type}

/-- The key of a bucket. -/
def readKey (reader : KeyReader κ) (bucket : Bucket α) : Except Failure κ :=
  match (reader.read bucket.key).or (bucket.rawKey.bind reader.read) with
  | some key => .ok key
  | none => .error (.conversion bucket.key reader.label)

end Bucket

end FacetQuery
