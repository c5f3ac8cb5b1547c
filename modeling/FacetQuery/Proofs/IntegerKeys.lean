/-
**Integers as keys.**

An integer that is the key of a bucket is written in decimal, and decimal text is what integer types
read. So an integer comes back by every type that has it among its values.

* `Scan.integer?_toString` — **the text of an integer is read as that integer.**
* `IntegerType.ofKey?_toString` — **an integer type reads its values back**, and no other integers.
* `Outcome.numberKey_of_is` — a number that is a short integer is written as that integer, whichever
  way it is kept.
-/

import FacetQuery.Proofs.NumberValues
import FacetQuery.Reading.Key

namespace FacetQuery

/-! ### Decimal text -/

namespace Scan

theorem natural_toDigits (n : Nat) : natural (Nat.toDigits 10 n) = n :=
  Nat.ofDigitChars_ten_toDigits

theorem isDigit_of_mem {n : Nat} {c : Char} (member : c ∈ Nat.toDigits 10 n) : c.isDigit = true :=
  Nat.isDigit_of_mem_toDigits (by decide) (by decide) member

/-- The digits of a natural number fill a text with that number. -/
theorem natural?_toDigits (n : Nat) : natural? (Nat.toDigits 10 n) = some n := by
  have filled :
      ¬ ((Nat.toDigits 10 n).isEmpty = true ∨ ¬ (Nat.toDigits 10 n).all Char.isDigit = true) := by
    rintro (empty | other)
    · exact Nat.toDigits_ne_nil (List.isEmpty_iff.mp empty)
    · exact other (List.all_eq_true.mpr fun _ member => isDigit_of_mem member)
  rw [natural?, if_neg filled, natural_toDigits]

theorem toList_toString_natural (n : Nat) : (toString (n : Int)).toList = Nat.toDigits 10 n := by
  show (toString n).toList = _
  rw [Nat.toString_eq_ofList_toDigits, String.toList_ofList]

theorem toList_toString_negative (n : Nat) :
    (toString (Int.negSucc n)).toList = '-' :: Nat.toDigits 10 (n + 1) := by
  show ("-" ++ toString (n + 1)).toList = _
  rw [Nat.toString_eq_ofList_toDigits, String.toList_append, String.toList_ofList,
    String.toList_ofList]
  exact List.singleton_append

/-- The text of an integer is that of its digits, behind a minus if it is below zero. -/
theorem sign_toString (n : Int) :
    sign (toString n).toList = (decide (n < 0), Nat.toDigits 10 n.natAbs) := by
  cases n with
  | ofNat n =>
    show sign (toString (n : Int)).toList = (decide ((n : Int) < 0), Nat.toDigits 10 n)
    rw [toList_toString_natural, decide_eq_false (by omega)]
    unfold sign
    split
    · rename_i text
      exact absurd (isDigit_of_mem (text ▸ List.mem_cons_self)) (by decide)
    · rename_i text
      exact absurd (isDigit_of_mem (text ▸ List.mem_cons_self)) (by decide)
    · rfl
  | negSucc n =>
    rw [toList_toString_negative, sign, decide_eq_true (Int.negSucc_lt_zero n)]
    rfl

/-- **The text of an integer is read as that integer.** -/
theorem integer?_toString (n : Int) : integer? (toString n).toList = some n := by
  rw [integer?, sign_toString]
  dsimp only
  rw [natural?_toDigits]
  by_cases negative : n < 0
  · rw [decide_eq_true negative]
    show some (-(n.natAbs : Int)) = some n
    congr 1
    omega
  · rw [decide_eq_false negative]
    show some (n.natAbs : Int) = some n
    congr 1
    omega

/-- Only the text of a negative integer begins with a minus. -/
theorem head?_toString {n : Int} : (toString n).toList.head? = some '-' ↔ n < 0 := by
  cases n with
  | ofNat n =>
    show (toString (n : Int)).toList.head? = some '-' ↔ (n : Int) < 0
    rw [toList_toString_natural]
    constructor
    · intro minus
      exact absurd (isDigit_of_mem (List.mem_of_head? minus)) (by decide)
    · intro negative
      omega
  | negSucc n =>
    rw [toList_toString_negative]
    exact ⟨fun _ => Int.negSucc_lt_zero n, fun _ => rfl⟩

/-- The text of an integer has no minus behind its first character. -/
theorem minus_notMem_tail (n : Int) : '-' ∉ (toString n).toList.tail := by
  cases n with
  | ofNat n =>
    show '-' ∉ (toString (n : Int)).toList.tail
    rw [toList_toString_natural]
    intro minus
    exact absurd (isDigit_of_mem (List.mem_of_mem_tail minus)) (by decide)
  | negSucc n =>
    rw [toList_toString_negative, List.tail_cons]
    intro minus
    exact absurd (isDigit_of_mem minus) (by decide)

end Scan

namespace IntegerType

/-- **An integer type reads its values back**, and no other integers. -/
theorem ofKey?_toString (t : IntegerType) (n : Int) : t.ofKey? (toString n) = t.ofInt? n := by
  unfold ofKey?
  dsimp only
  rw [Scan.integer?_toString, Option.bind_some]
  by_cases refused : (toString n).toList.head? = some '-' ∧ ¬ t.isSigned = true
  · have negative : n < 0 := Scan.head?_toString.mp refused.1
    have outside : ¬ t.Holds n := by
      cases t with
      | signed width => exact absurd rfl refused.2
      | unsigned width => exact fun holds => absurd holds.1 (Int.not_le.mpr negative)
    rw [if_pos refused, ofInt?, dif_neg outside]
  · rw [if_neg refused]

end IntegerType

/-! ### Numbers as keys -/

namespace Outcome

/-- **A number that is a short integer is written as that integer**, whichever way it is kept. -/
theorem numberKey_of_is {number : Json.Number} {n : Int} (value : number.Is n)
    (short : n.natAbs < 9000000000000000) : numberKey number = toString n := by
  cases number with
  | whole m fits =>
    have same : m = n := value
    rw [numberKey, same]
  | real x finite =>
    have whole : x.isWhole = true := (Binary.isWhole_iff finite).mpr ⟨n, value⟩
    have same : x.truncated = n := Binary.truncated_eq value
    rw [numberKey, isShortWhole, whole, same, decide_eq_true short, Bool.true_and, if_pos rfl]

end Outcome

end FacetQuery
