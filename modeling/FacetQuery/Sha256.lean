/-
**SHA-256.**

The digest of a message is computed block by block: a block of sixteen words is spread into
sixty-four, which drive sixty-four rounds over eight words of state. The digest is the last state,
so it has thirty-two bytes whatever the message (`digest_length`).
-/

namespace FacetQuery.Sha256

/-- The eight words that the rounds work on. -/
structure State where
  a : UInt32
  b : UInt32
  c : UInt32
  d : UInt32
  e : UInt32
  f : UInt32
  g : UInt32
  h : UInt32

/-- The state before the first block. -/
def initial : State where
  a := 0x6a09e667
  b := 0xbb67ae85
  c := 0x3c6ef372
  d := 0xa54ff53a
  e := 0x510e527f
  f := 0x9b05688c
  g := 0x1f83d9ab
  h := 0x5be0cd19

/-- The constant of each round. -/
def roundConstants : List UInt32 :=
  [0x428a2f98, 0x71374491, 0xb5c0fbcf, 0xe9b5dba5, 0x3956c25b, 0x59f111f1, 0x923f82a4, 0xab1c5ed5,
   0xd807aa98, 0x12835b01, 0x243185be, 0x550c7dc3, 0x72be5d74, 0x80deb1fe, 0x9bdc06a7, 0xc19bf174,
   0xe49b69c1, 0xefbe4786, 0x0fc19dc6, 0x240ca1cc, 0x2de92c6f, 0x4a7484aa, 0x5cb0a9dc, 0x76f988da,
   0x983e5152, 0xa831c66d, 0xb00327c8, 0xbf597fc7, 0xc6e00bf3, 0xd5a79147, 0x06ca6351, 0x14292967,
   0x27b70a85, 0x2e1b2138, 0x4d2c6dfc, 0x53380d13, 0x650a7354, 0x766a0abb, 0x81c2c92e, 0x92722c85,
   0xa2bfe8a1, 0xa81a664b, 0xc24b8b70, 0xc76c51a3, 0xd192e819, 0xd6990624, 0xf40e3585, 0x106aa070,
   0x19a4c116, 0x1e376c08, 0x2748774c, 0x34b0bcb5, 0x391c0cb3, 0x4ed8aa4a, 0x5b9cca4f, 0x682e6ff3,
   0x748f82ee, 0x78a5636f, 0x84c87814, 0x8cc70208, 0x90befffa, 0xa4506ceb, 0xbef9a3f7, 0xc67178f2]

/-! ### Words and bytes -/

/-- The word turned right. -/
def rotated (x : UInt32) (places : UInt32) : UInt32 := (x >>> places) ||| (x <<< (32 - places))

/-- The word of four bytes, the most significant first. -/
def word (a b c d : UInt8) : UInt32 :=
  (a.toUInt32 <<< 24) ||| (b.toUInt32 <<< 16) ||| (c.toUInt32 <<< 8) ||| d.toUInt32

/-- The words of a run of bytes; bytes that fill no word are left out. -/
def words : List UInt8 → List UInt32
  | a :: b :: c :: d :: rest => word a b c d :: words rest
  | _ => []

/-- The four bytes of a word, the most significant first. -/
def wordBytes (x : UInt32) : List UInt8 :=
  [(x >>> 24).toUInt8, (x >>> 16).toUInt8, (x >>> 8).toUInt8, x.toUInt8]

/-- The bytes of a length in bits, eight of them. -/
def lengthBytes (bits : Nat) : List UInt8 :=
  (List.range 8).map fun i => UInt8.ofNat (bits >>> (8 * (7 - i)))

/-- The message with a one bit, zeros up to eight bytes before the end of a block, and its
length. -/
def padded (message : List UInt8) : List UInt8 :=
  let zeros := (119 - message.length % 64) % 64
  message ++ [0x80] ++ List.replicate zeros 0 ++ lengthBytes (8 * message.length)

/-! ### Rounds -/

/-- The sixty-four words that a block of sixteen drives the rounds with. -/
def schedule (block : List UInt32) : Array UInt32 :=
  (List.range 48).foldl (fun w i =>
    let early := w.getD (i + 1) 0
    let late := w.getD (i + 14) 0
    let s0 := rotated early 7 ^^^ rotated early 18 ^^^ (early >>> 3)
    let s1 := rotated late 17 ^^^ rotated late 19 ^^^ (late >>> 10)
    w.push (w.getD i 0 + s0 + w.getD (i + 9) 0 + s1)) block.toArray

/-- One round: the words move on by one place, two of them with something added. -/
def round (s : State) (input : UInt32) : State :=
  let s1 := rotated s.e 6 ^^^ rotated s.e 11 ^^^ rotated s.e 25
  let choice := (s.e &&& s.f) ^^^ (~~~s.e &&& s.g)
  let first := s.h + s1 + choice + input
  let s0 := rotated s.a 2 ^^^ rotated s.a 13 ^^^ rotated s.a 22
  let majority := (s.a &&& s.b) ^^^ (s.a &&& s.c) ^^^ (s.b &&& s.c)
  { a := first + (s0 + majority), b := s.a, c := s.b, d := s.c,
    e := s.d + first, f := s.e, g := s.f, h := s.g }

/-- The state behind one block. -/
def compress (s : State) (block : List UInt32) : State :=
  let t := (roundConstants.zipWith (· + ·) (schedule block).toList).foldl round s
  { a := s.a + t.a, b := s.b + t.b, c := s.c + t.c, d := s.d + t.d,
    e := s.e + t.e, f := s.f + t.f, g := s.g + t.g, h := s.h + t.h }

/-- The words of one block of a message. -/
def block (input : List UInt32) (index : Nat) : List UInt32 := (input.drop (16 * index)).take 16

/-- The state behind all blocks. -/
def absorb (input : List UInt32) : State :=
  (List.range (input.length / 16)).foldl (fun s index => compress s (block input index)) initial

/-- The bytes of a state. -/
def State.bytes (s : State) : List UInt8 :=
  wordBytes s.a ++ wordBytes s.b ++ wordBytes s.c ++ wordBytes s.d
    ++ wordBytes s.e ++ wordBytes s.f ++ wordBytes s.g ++ wordBytes s.h

/-- The digest of a message. -/
def digest (message : List UInt8) : List UInt8 := (absorb (words (padded message))).bytes

theorem digest_length (message : List UInt8) : (digest message).length = 32 := rfl

end FacetQuery.Sha256
