/-
**Clauses as bytes, and their fingerprints.**

Each part of a clause starts with a tag byte of its own and says how long it is before it says what
it holds: texts by their bytes in UTF-8, lists and connectives by the number of their items. Numbers
have a fixed width, the most significant byte first. So a stream can be read from the front without
looking ahead, as long as no length needs more than four bytes.

The fingerprint of a clause is the SHA-256 digest of its bytes behind a fixed heading. It has
sixty-four hexadecimal digits, of which the first sixteen go into names.
-/

import FacetQuery.Clause.Basic
import FacetQuery.Sha256

namespace FacetQuery

/-! ### Bytes -/

namespace Octets

/-- The last `width` bytes of a number, the most significant first. -/
def bigEndian : (width : Nat) → Nat → List UInt8
  | 0, _ => []
  | width + 1, n => UInt8.ofNat (n / Nat.pow 256 width) :: bigEndian width n

/-- A count, in four bytes. -/
def count (n : Nat) : List UInt8 := bigEndian 4 n

/-- A word, in eight bytes. -/
def word (n : Nat) : List UInt8 := bigEndian 8 n

/-- A text: the number of its bytes and the bytes. -/
def text (content : String) : List UInt8 := count content.utf8ByteSize ++ content.toUTF8.toList

/-- A signed number, in eight bytes. -/
def signed (n : Int) : List UInt8 := word (n % 18446744073709551616).toNat

end Octets

open Octets

mutual

/-- The bytes of a literal. -/
def Literal.stream : Literal → List UInt8
  | .null => [0x30]
  | .bool flag => [0x31, if flag then 1 else 0]
  | .int n => 0x32 :: signed n.toInt
  | .uint n => 0x33 :: word n.toNat
  | .float x => 0x34 :: word x.bits
  | .text content => 0x35 :: Octets.text content
  | .choice name => 0x36 :: Octets.text name
  | .instant time => 0x37 :: (signed time.seconds ++ count time.nanos)
  | .list items => 0x38 :: (count items.length ++ Literal.streamAll items)

/-- The bytes of some literals, one behind the other. -/
def Literal.streamAll : List Literal → List UInt8
  | [] => []
  | item :: rest => item.stream ++ Literal.streamAll rest

end

/-- The bytes of a test. -/
def Test.stream (test : Test) : List UInt8 :=
  0x20 :: (Octets.text test.field ++ [test.relation.tag] ++ test.operand.stream)

mutual

/-- The bytes of a clause. -/
def Clause.stream : Clause → List UInt8
  | .test leaf => leaf.stream
  | .joined connective parts => connective.tag :: (count parts.length ++ Clause.streamAll parts)

/-- The bytes of some clauses, one behind the other. -/
def Clause.streamAll : List Clause → List UInt8
  | [] => []
  | part :: rest => part.stream ++ Clause.streamAll rest

end

/-! ### Fingerprints -/

/-- The digest of a clause. -/
structure Fingerprint where
  bytes : List UInt8
deriving DecidableEq

namespace Fingerprint

/-- What stands before the bytes of a clause. -/
def heading : List UInt8 := "filterfp:v1".toUTF8.toList

/-- A byte by two hexadecimal digits. -/
def hexByte (byte : UInt8) : List Char :=
  [Nat.digitChar (byte.toNat / 16), Nat.digitChar (byte.toNat % 16)]

/-- Bytes by their hexadecimal digits. -/
def hexBytes (bytes : List UInt8) : String := String.ofList (bytes.flatMap hexByte)

/-- All digits. -/
def hex (fingerprint : Fingerprint) : String := hexBytes fingerprint.bytes

/-- The digits that go into names. -/
def short (fingerprint : Fingerprint) : String := hexBytes (fingerprint.bytes.take 8)

end Fingerprint

/-- The fingerprint of a clause. -/
def Clause.fingerprint (clause : Clause) : Fingerprint where
  bytes := Sha256.digest (Fingerprint.heading ++ clause.stream)

end FacetQuery
