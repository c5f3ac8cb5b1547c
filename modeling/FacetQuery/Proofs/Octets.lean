/-
**Numbers and texts as bytes.**

A number has a fixed number of bytes, so two numbers written in front of anything are told apart by
these bytes alone. A text says how many bytes it has before it gives them.

* `bigEndian_append_inj` — **numbers**: a number that fits its width can be read from the front.
* `text_append_inj` — **texts**: so can a text whose length fits into a count.
-/

import FacetQuery.Clause.Fingerprint

namespace FacetQuery.Octets

variable {s t : List UInt8}

/-! ### The bytes of an array -/

theorem toList_loop (bytes : ByteArray) (index : Nat) (done : List UInt8) :
    ByteArray.toList.loop bytes index done = done.reverse ++ bytes.data.toList.drop index := by
  fun_induction ByteArray.toList.loop bytes index done with
  | case1 index done inside later =>
    have within : index < bytes.data.toList.length := inside
    rw [later, List.drop_eq_getElem_cons within, List.reverse_cons, List.append_assoc]
    simp [ByteArray.get!, inside]
  | case2 index done outside =>
    have beyond : bytes.data.toList.length ≤ index := Nat.le_of_not_lt outside
    rw [List.drop_eq_nil_of_le beyond, List.append_nil]

theorem toList_eq (bytes : ByteArray) : bytes.toList = bytes.data.toList := by
  rw [ByteArray.toList, toList_loop]
  rfl

theorem length_toUTF8 (content : String) : content.toUTF8.toList.length = content.utf8ByteSize := by
  rw [toList_eq]
  rfl

theorem toUTF8_inj {a b : String} : a.toUTF8.toList = b.toUTF8.toList ↔ a = b := by
  rw [toList_eq, toList_eq, Array.toList_inj]
  refine ⟨fun same => ?_, fun same => by rw [same]⟩
  exact String.toByteArray_inj.mp (ByteArray.ext same)

/-! ### Numbers -/

theorem length_bigEndian (width n : Nat) : (bigEndian width n).length = width := by
  induction width with
  | zero => rfl
  | succ width narrower => rw [bigEndian, List.length_cons, narrower]

/-- The bytes of a number say what it is up to the multiples that have no room in them. -/
theorem mod_eq_of_bigEndian_eq {width m n : Nat} (same : bigEndian width m = bigEndian width n) :
    m % Nat.pow 256 width = n % Nat.pow 256 width := by
  induction width with
  | zero =>
    show m % 1 = n % 1
    rw [Nat.mod_one, Nat.mod_one]
  | succ width narrower =>
    rw [bigEndian, bigEndian, List.cons.injEq] at same
    obtain ⟨first, rest⟩ := same
    have digit : m / Nat.pow 256 width % 256 = n / Nat.pow 256 width % 256 := by
      have octets := congrArg UInt8.toNat first
      rwa [UInt8.toNat_ofNat', UInt8.toNat_ofNat'] at octets
    show m % (Nat.pow 256 width * 256) = n % (Nat.pow 256 width * 256)
    rw [Nat.mod_mul, Nat.mod_mul, narrower rest, digit]

/-- **A number can be read from the front**, if it fits its width. -/
theorem bigEndian_append_inj {width m n : Nat} (fits : m < Nat.pow 256 width)
    (fitsOther : n < Nat.pow 256 width) (same : bigEndian width m ++ s = bigEndian width n ++ t) :
    m = n ∧ s = t := by
  have widths : (bigEndian width m).length = (bigEndian width n).length := by
    rw [length_bigEndian, length_bigEndian]
  obtain ⟨digits, rest⟩ := List.append_inj same widths
  have equal := mod_eq_of_bigEndian_eq digits
  rw [Nat.mod_eq_of_lt fits, Nat.mod_eq_of_lt fitsOther] at equal
  exact ⟨equal, rest⟩

theorem signed_append_inj {m n : Int} (fits : -9223372036854775808 ≤ m ∧ m < 9223372036854775808)
    (fitsOther : -9223372036854775808 ≤ n ∧ n < 9223372036854775808)
    (same : signed m ++ s = signed n ++ t) : m = n ∧ s = t := by
  have room (k : Int) : (k % 18446744073709551616).toNat < Nat.pow 256 8 := by
    show (k % 18446744073709551616).toNat < 18446744073709551616
    omega
  obtain ⟨words, rest⟩ := bigEndian_append_inj (room m) (room n) same
  refine ⟨?_, rest⟩
  -- Numbers of one remainder are a multiple of the modulus apart, and these are less than that
  -- apart.
  omega

/-! ### Texts -/

/-- The numbers that have room in a count stay below this one. -/
def capacity : Nat := 4294967296

/-- **A text can be read from the front**, if its length has room in a count. -/
theorem text_append_inj {a b : String} (fits : a.utf8ByteSize < capacity)
    (fitsOther : b.utf8ByteSize < capacity) (same : text a ++ s = text b ++ t) : a = b ∧ s = t := by
  rw [text, text, List.append_assoc, List.append_assoc] at same
  obtain ⟨lengths, bytes⟩ := bigEndian_append_inj fits fitsOther same
  have lengths : a.toUTF8.toList.length = b.toUTF8.toList.length := by
    rw [length_toUTF8, length_toUTF8, lengths]
  obtain ⟨content, rest⟩ := List.append_inj bytes lengths
  exact ⟨toUTF8_inj.mp content, rest⟩

end FacetQuery.Octets
