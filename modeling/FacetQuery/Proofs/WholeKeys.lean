/-
**Whole numbers as keys.**

A bucket without a formatted key is known by its raw one. A number that is kept as an integer is
written in decimal and read back by every integer type that has it. One that is kept as a floating
number is written in decimal below nine quadrillions only; from there on it is written as in a
document, with a point or an exponent, and no integer type reads that.

* `Layout.marked_write` — **a floating number in a document shows itself** by a point or an
  exponent.
* `Scan.integer?_eq_none` — an integer is written by digits and a sign alone.
* `Outcome.numberKey_eq_iff` — **which whole numbers are written as integers.**
* `Outcome.whole_key_read_iff` — **which whole keys are read back**: those, and the others are
  refused with their text.
-/

import FacetQuery.Json.Printer
import FacetQuery.Proofs.BucketKeys
import FacetQuery.Proofs.IntegerKeys

namespace FacetQuery

/-! ### Floating numbers show themselves -/

/-- The characters that only a floating number is written with. -/
def Layout.Marked (text : List Char) : Prop := '.' ∈ text ∨ 'e' ∈ text

namespace Layout

variable {layout : Layout} {digits text rest : List Char}

theorem Marked.append_left (marked : Marked text) : Marked (rest ++ text) :=
  marked.imp (List.mem_append_right rest) (List.mem_append_right rest)

/-- Digits around a point that is kept have it among them. -/
theorem marked_positional (keeps : layout.keepsPoint = true) (places : Int) :
    Marked (layout.positional digits places) := by
  left
  unfold positional
  rw [keeps]
  split
  · simp
  · split <;> simp

theorem marked_scientific (exponent : Int) : Marked (scientific digits exponent) := by
  right
  unfold scientific
  simp

theorem marked_decimal (keeps : layout.keepsPoint = true) (value : Decimal) :
    Marked (layout.decimal value) := by
  unfold decimal
  dsimp only
  split
  · exact marked_positional keeps _
  · split
    · exact marked_positional keeps _
    · exact marked_scientific _

theorem marked_zero (keeps : layout.keepsPoint = true) : Marked layout.zero := by
  rw [zero, if_pos keeps]
  exact .inl (by decide)

/-- **A finite number of a layout that keeps the point is written with a point or an exponent.** -/
theorem marked_write {f : FloatFormat} {x : Binary f} (keeps : layout.keepsPoint = true)
    (finite : x.isFinite = true) : Marked (layout.write x).toList := by
  have below : x.code < f.infinity := of_decide_eq_true finite
  have number : ¬ x.isNaN = true := fun nan => absurd (of_decide_eq_true nan) (Nat.lt_asymm below)
  have reached : ¬ ¬ x.isFinite = true := fun infinite => infinite finite
  rw [write, if_neg number, String.toList_ofList, if_neg reached]
  apply Marked.append_left
  split
  · exact marked_zero keeps
  · exact marked_decimal keeps _

end Layout

/-! ### Integers do not -/

namespace Scan

theorem all_isDigit_of_natural? {text : List Char} {n : Nat} (read : natural? text = some n) :
    ∀ c ∈ text, c.isDigit = true := by
  unfold natural? at read
  split at read
  · cases read
  · rename_i filled
    have digits : text.all Char.isDigit = true := by
      by_contra other
      exact filled (.inr other)
    exact List.all_eq_true.mp digits

/-- What stands behind the sign has all characters but the sign. -/
theorem mem_sign {text : List Char} {c : Char} (member : c ∈ text) :
    c = '-' ∨ c = '+' ∨ c ∈ (sign text).2 := by
  unfold sign
  split
  · exact (List.mem_cons.mp member).imp id .inr
  · exact .inr (List.mem_cons.mp member)
  · exact .inr (.inr member)

/-- **A text with a character that is neither a digit nor a sign is no integer.** -/
theorem integer?_eq_none {text : List Char} {c : Char} (member : c ∈ text)
    (other : c.isDigit = false) (minus : c ≠ '-') (plus : c ≠ '+') : integer? text = none := by
  have behind : c ∈ (sign text).2 := ((mem_sign member).resolve_left minus).resolve_left plus
  have unread : natural? (sign text).2 = none := by
    cases read : natural? (sign text).2 with
    | none => rfl
    | some n => exact absurd (all_isDigit_of_natural? read c behind) (by rw [other]; decide)
  rw [integer?]
  dsimp only
  rw [unread]
  rfl

theorem integer?_of_marked {text : List Char} (marked : Layout.Marked text) :
    integer? text = none := by
  obtain point | exponent := marked
  · exact integer?_eq_none point (by decide) (by decide) (by decide)
  · exact integer?_eq_none exponent (by decide) (by decide) (by decide)

end Scan

theorem IntegerType.ofKey?_of_marked (t : IntegerType) {key : String}
    (marked : Layout.Marked key.toList) : t.ofKey? key = none := by
  unfold ofKey?
  dsimp only
  rw [Scan.integer?_of_marked marked, Option.bind_none, ite_self]

/-- The text of an integer has no mark of a floating number. -/
theorem Layout.not_marked_toString (n : Int) : ¬ Marked (toString n).toList := by
  intro marked
  cases (Scan.integer?_toString n).symm.trans (Scan.integer?_of_marked marked)

/-! ### Keys that are numbers -/

namespace Outcome

variable {number : Json.Number} {n : Int}

/-- From nine quadrillions on, a floating number is written as in a document. -/
theorem numberKey_of_large {x : Double} {finite : x.isFinite = true}
    (large : 9000000000000000 ≤ x.truncated.natAbs) :
    numberKey (.real x finite) = Layout.json.write x := by
  have long : ¬ isShortWhole x = true := by
    rw [isShortWhole, decide_eq_false (Nat.not_lt.mpr large), Bool.and_false]
    decide
  rw [numberKey, if_neg long]
  rfl

/-- A whole number is written as an integer if it is kept as one or below nine quadrillions, and
otherwise with a mark of a floating number. -/
theorem numberKey_cases (value : number.Is n) :
    ((number.toInt? = some n ∨ n.natAbs < 9000000000000000) ∧ numberKey number = toString n) ∨
      (¬ (number.toInt? = some n ∨ n.natAbs < 9000000000000000) ∧
        Layout.Marked (numberKey number).toList) := by
  by_cases short : n.natAbs < 9000000000000000
  · exact .inl ⟨.inr short, numberKey_of_is value short⟩
  · cases number with
    | whole m fits =>
      have same : m = n := value
      exact .inl ⟨.inl (congrArg some same), congrArg toString same⟩
    | real x finite =>
      have truncated : x.truncated = n := Binary.truncated_eq value
      refine .inr ⟨not_or.mpr ⟨nofun, short⟩, ?_⟩
      rw [numberKey_of_large (truncated ▸ Nat.not_lt.mp short)]
      exact Layout.marked_write rfl finite

/-- **Which whole numbers are written as integers**: those that are kept as such, and those below
nine quadrillions. -/
theorem numberKey_eq_iff (value : number.Is n) :
    numberKey number = toString n ↔ number.toInt? = some n ∨ n.natAbs < 9000000000000000 := by
  obtain ⟨plain, written⟩ | ⟨large, marked⟩ := numberKey_cases value
  · exact iff_of_true written plain
  · exact iff_of_false (fun same => Layout.not_marked_toString n (same ▸ marked)) large

/-- A whole number that is not written as an integer has a mark of a floating number. -/
theorem marked_of_ne (value : number.Is n) (other : numberKey number ≠ toString n) :
    Layout.Marked (numberKey number).toList := by
  obtain ⟨_, written⟩ | ⟨_, marked⟩ := numberKey_cases value
  · exact absurd written other
  · exact marked

/-- **Which whole keys are read back.** The key of a bucket with a whole number and no formatted key
is decoded. It is the number in decimal exactly if that is kept as an integer or is below nine
quadrillions, and has a point or an exponent otherwise. The first is read by every integer type that
has the number, as the number, and the second is refused with its text. -/
theorem whole_key_read_iff {item : Json} {number : Json.Number} {n : Int} (name : String)
    (t : IntegerType) (holds : t.Holds n) (raw : item.member? "key" = some (.number number))
    (value : number.Is n) (unformatted : (item.member? "key_as_string").bind Json.string? = none) :
    ∃ key, bucketKey name item = .ok (key, none) ∧
      (key = toString n ↔ number.toInt? = some n ∨ n.natAbs < 9000000000000000) ∧
      (key ≠ toString n → '.' ∈ key.toList ∨ 'e' ∈ key.toList) ∧
      ∀ level bucket, bucketOf name level item = .ok bucket →
        bucket.key = key ∧ bucket.rawKey = none ∧
        (key = toString n →
          bucket.readKey (ValueType.number (.integer t)).keyReader = .ok ⟨n, holds⟩) ∧
        (key ≠ toString n → bucket.readKey (ValueType.number (.integer t)).keyReader =
          .error (.conversion key t.label)) := by
  have own : (item.member? "key").bind Json.key? = some (numberKey number) := by
    rw [raw]
    rfl
  refine ⟨numberKey number, bucketKey_raw own unformatted, numberKey_eq_iff value,
    marked_of_ne value, ?_⟩
  intro level bucket made
  obtain ⟨key, alone⟩ := Bucket.keys_of_raw made own unformatted
  rw [← key]
  refine ⟨rfl, alone, ?_, ?_⟩
  · intro written
    apply Bucket.readKey_of_read
    show t.ofKey? bucket.key = _
    rw [written, IntegerType.ofKey?_toString]
    exact dif_pos holds
  · intro other
    exact Bucket.readKey_of_unread alone
      (t.ofKey?_of_marked (key ▸ marked_of_ne value (key ▸ other)))

/-- The item of a bucket whose key is a number. -/
def numberItem (number : Json.Number) : Json :=
  .object [("doc_count", .ofInt 1), ("key", .number number)]

theorem bucketOf_numberItem (number : Json.Number) :
    bucketOf "groupby_id" (fun _ => .ok []) (numberItem number) =
      .ok ⟨numberKey number, none, 1, []⟩ :=
  rfl

/-- The greatest floating number below nine quadrillions is read back. -/
theorem whole_key_read_iff_last :
    ∃ number bucket, number.Is 8999999999999999 ∧ number.toInt? = none ∧
      bucketOf "groupby_id" (fun _ => .ok []) (numberItem number) = .ok bucket ∧
      bucket.key = "8999999999999999" ∧
      bucket.readKey (ValueType.number (.integer (.signed .eight))).keyReader =
        .ok ⟨8999999999999999, by decide⟩ := by
  have finite : (Binary.ofInt 8999999999999999 : Double).isFinite = true := by decide +kernel
  have value : (Json.Number.real (Binary.ofInt 8999999999999999) finite).Is 8999999999999999 := by
    show (Binary.ofInt 8999999999999999 : Double).scaled = _
    decide +kernel
  have raw : (numberItem (.real (Binary.ofInt 8999999999999999) finite)).member? "key" =
      some (.number _) := rfl
  have holds : (IntegerType.signed .eight).Holds 8999999999999999 := by decide
  obtain ⟨key, _, written, _, read⟩ :=
    whole_key_read_iff "groupby_id" (.signed .eight) holds raw value rfl
  have plain : key = toString (8999999999999999 : Int) := written.mpr (.inr (by decide))
  obtain ⟨same, _, back, _⟩ := read _ _ (bucketOf_numberItem _)
  exact ⟨_, _, value, rfl, bucketOf_numberItem _, same.trans (plain.trans (by decide)), back plain⟩

/-- The floating number of two to the power of 53 is written with a point, and is not read as an
integer. -/
theorem whole_key_with_point :
    ∃ number bucket, number.Is 9007199254740992 ∧
      (IntegerType.signed .eight).Holds 9007199254740992 ∧
      (numberItem number).member? "key" = some (.number number) ∧
      (numberItem number).member? "key_as_string" = none ∧
      bucketOf "groupby_id" (fun _ => .ok []) (numberItem number) = .ok bucket ∧
      bucket.key = "9007199254740992.0" ∧
      bucket.readKey (ValueType.number (.integer (.signed .eight))).keyReader =
        .error (.conversion "9007199254740992.0" "i64") := by
  have finite : (Binary.ofInt 9007199254740992 : Double).isFinite = true := by decide +kernel
  have value : (Json.Number.real (Binary.ofInt 9007199254740992) finite).Is 9007199254740992 := by
    show (Binary.ofInt 9007199254740992 : Double).scaled = _
    decide +kernel
  have written :
      numberKey (.real (Binary.ofInt 9007199254740992) finite) = "9007199254740992.0" := by
    show numberKey (.real (Binary.ofInt 9007199254740992) (by decide +kernel)) = _
    decide +kernel
  refine ⟨_, ⟨"9007199254740992.0", none, 1, []⟩, value, by decide, rfl, rfl, ?_,
    rfl, by decide +kernel⟩
  rw [bucketOf_numberItem, written]

end Outcome

end FacetQuery
