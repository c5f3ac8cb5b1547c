/-
**Literals that come back as keys.**

A value of a field goes into a query as a literal, and as the key of a bucket it comes back in the
JSON of that literal. Integers, flags, texts and regular instants have texts as keys that their own
type reads as what they were; an instant that is not regular comes back as the one that its text
shows. A type with nothing among its values writes and reads the others as the type inside it does,
and nothing is no key.

* `ValueType.Exact` — **the types whose values come back**, and `ValueType.InYears`, the values in
  years of four digits.
* `ValueType.shown` — **the value that a literal shows**, which is itself if its instants are
  regular.
* `IntegerType.key?_literal` — an integer is written in decimal, whatever its width.
* `ValueType.exists_key_of_literal` — **the literal of a value is written as a text that is read as
  what it shows.**
* `Bucket.literal_key_read` — **a bucket with a literal for its key is read as the value that it
  shows**, unless it has a formatted key that is read as another.
-/

import FacetQuery.Proofs.DateKeys
import FacetQuery.Proofs.InstantTexts

namespace FacetQuery

/-! ### Integers -/

namespace IntegerType

theorem half_le (width : Width) : 1 ≤ width.half ∧ width.half ≤ 9223372036854775808 := by
  cases width <;> decide

/-- **An integer is written in decimal**, whatever its width. -/
theorem key?_literal (t : IntegerType) (value : t.Carrier) :
    (t.literal value).json.key? = some (toString value.val) := by
  obtain ⟨n, low, high⟩ := value
  cases t with
  | signed width =>
    have half := half_le width
    change -width.half ≤ n at low
    change n ≤ width.half - 1 at high
    have whole : (Int64.ofInt n).toInt = n := Int64.toInt_ofInt_of_le (by omega) (by omega)
    show some (toString (Int64.ofInt n).toInt) = some (toString n)
    rw [whole]
  | unsigned width =>
    have half := half_le width
    change 0 ≤ n at low
    change n ≤ 2 * width.half - 1 at high
    have whole : ((UInt64.ofNat n.toNat).toNat : Int) = n := by
      rw [UInt64.toNat_ofNat', Nat.mod_eq_of_lt (by omega)]
      exact Int.toNat_of_nonneg low
    show some (toString ((UInt64.ofNat n.toNat).toNat : Int)) = some (toString n)
    rw [whole]

end IntegerType

/-! ### Values -/

namespace ValueType

/-- **The types whose values come back from keys**: integers, flags, texts, instants, and any of
these or nothing. -/
def Exact : ValueType → Prop
  | number (.integer _) => True
  | number _ => False
  | bool => True
  | text => True
  | instant => True
  | choice _ => False
  | optional t => t.Exact

/-- Every instant of a value is in a year of four digits. -/
def InYears : (t : ValueType) → t.Carrier → Prop
  | instant, time => 0 ≤ time.year ∧ time.year ≤ 9999
  | optional t, value => ∀ inner, value = some inner → t.InYears inner
  | _, _ => True

/-- Every instant of a value is regular. -/
def Regular : (t : ValueType) → t.Carrier → Prop
  | instant, time => time.Regular
  | optional t, value => ∀ inner, value = some inner → t.Regular inner
  | _, _ => True

/-- **The value that a literal shows**: its instants are those that their texts show. -/
def shown : (t : ValueType) → t.Carrier → t.Carrier
  | number _, value => value
  | bool, flag => flag
  | text, content => content
  | instant, time => time.shown
  | choice _, variant => variant
  | optional t, value => value.map t.shown

/-- **A literal shows its value exactly if that has regular instants.** -/
theorem shown_eq_self_iff {t : ValueType} {value : t.Carrier} :
    t.shown value = value ↔ t.Regular value := by
  induction t with
  | instant => exact Instant.shown_eq_self_iff
  | optional t inside =>
    cases value with
    | none => exact iff_of_true rfl nofun
    | some inner =>
      show some (t.shown inner) = some inner ↔ ∀ other, some inner = some other → t.Regular other
      rw [Option.some.injEq, inside]
      exact ⟨fun regular _ same => Option.some.inj same ▸ regular, fun regular => regular inner rfl⟩
  | number | bool | text | choice => exact iff_of_true rfl trivial

/-- The text of an instant is read as a date, before its digits are counted. -/
theorem instantOfKey?_write {time : Instant} (years : 0 ≤ time.year ∧ time.year ≤ 9999) :
    instantOfKey? (Rfc3339.write time) = some time.shown := by
  rw [instantOfKey?_eq, Rfc3339.read?_write years, Option.some_or]

/-- **The literal of a value is written as a text that is read as what it shows**, unless it is
null. -/
theorem exists_key_of_literal {t : ValueType} (exact : t.Exact) {value : t.Carrier}
    (present : t.literal value ≠ .null) (years : t.InYears value) :
    ∃ key, (t.literal value).json.key? = some key ∧ t.ofKey? key = some (t.shown value) := by
  induction t with
  | number t =>
    cases t with
    | integer t =>
      refine ⟨_, t.key?_literal value, ?_⟩
      show t.ofKey? (toString value.val) = some value
      rw [IntegerType.ofKey?_toString]
      exact dif_pos value.property
    | single | double => exact exact.elim
  | bool =>
    cases value with
    | false => exact ⟨"false", rfl, by decide⟩
    | true => exact ⟨"true", rfl, by decide⟩
  | text => exact ⟨value, rfl, rfl⟩
  | instant => exact ⟨_, rfl, instantOfKey?_write years⟩
  | choice e => exact exact.elim
  | optional t later =>
    cases value with
    | none => exact (present rfl).elim
    | some inner =>
      obtain ⟨key, written, read⟩ := later exact present (years inner rfl)
      refine ⟨key, written, ?_⟩
      show (t.ofKey? key).map some = some (some (t.shown inner))
      rw [read]
      rfl

end ValueType

/-! ### Buckets -/

namespace Bucket

/-- **A bucket with a literal for its key is read as the value that it shows.** If a value of
integers, flags, texts or instants, or of any of these or nothing, is not null, and its instants are
in years of four digits, then a bucket with its literal for a raw key is decoded, and its key is
read as the value that the literal shows; only a formatted key beside it is read before. That is the
value itself exactly if its instants are regular: leap seconds come back, but a thousand million
nanoseconds or more behind any other second come back as the next. -/
theorem literal_key_read {t : ValueType} (exact : t.Exact) {value : t.Carrier}
    (present : t.literal value ≠ .null) (years : t.InYears value) {name : String}
    {level : Json → Except Failure Outcomes} {item : Json} {count : UInt64} {outcomes : Outcomes}
    (raw : item.member? "key" = some (t.literal value).json)
    (counted : Outcome.docCount name item = .ok count) (inside : level item = .ok outcomes) :
    ∃ bucket, Outcome.bucketOf name level item = .ok bucket ∧
      ((item.member? "key_as_string").bind Json.string? = none →
        bucket.readKey t.keyReader = .ok (t.shown value)) ∧
      (∀ text, (item.member? "key_as_string").bind Json.string? = some text →
        bucket.readKey t.keyReader = .ok ((t.ofKey? text).getD (t.shown value))) ∧
      (t.shown value = value ↔ t.Regular value) := by
  obtain ⟨key, written, read⟩ := ValueType.exists_key_of_literal exact present years
  have own : (item.member? "key").bind Json.key? = some key := by
    rw [raw, Option.bind_some, written]
  obtain ⟨bucket, made⟩ : ∃ bucket, Outcome.bucketOf name level item = .ok bucket := by
    cases formatted : (item.member? "key_as_string").bind Json.string? with
    | none =>
      exact ⟨⟨_, _, _, _⟩,
        Outcome.bucketOf_eq_ok.mpr ⟨Outcome.bucketKey_raw own formatted, counted, inside⟩⟩
    | some text =>
      exact ⟨⟨_, _, _, _⟩,
        Outcome.bucketOf_eq_ok.mpr ⟨Outcome.bucketKey_formatted own formatted, counted, inside⟩⟩
  refine ⟨bucket, made, fun unformatted => ?_, fun text formatted => ?_,
    ValueType.shown_eq_self_iff⟩
  · exact readKey_of_raw made own unformatted read
  · exact readKey_of_formatted made own formatted read

/-- The middle of the leap second at the end of 2016. -/
def leapSecond : Instant := ⟨1483228799, 1500000000, by decide⟩

/-- The item of a bucket with a text for its key. -/
def textItem (key : String) : Json := .object [("doc_count", .ofInt 3), ("key", .string key)]

/-- A leap second comes back, as a value of a type with nothing among its values twice over. -/
theorem literal_key_read_leapSecond :
    ∃ bucket,
      Outcome.bucketOf "groupby_timestamp" (fun _ => .ok [])
        (textItem "2016-12-31T23:59:60.500+00:00") = .ok bucket ∧
      bucket.readKey (ValueType.optional (.optional .instant)).keyReader =
        .ok (some (some leapSecond)) := by
  have written : Rfc3339.write leapSecond = "2016-12-31T23:59:60.500+00:00" := by decide +kernel
  have exact : (ValueType.optional (.optional .instant)).Exact := trivial
  have present :
      (ValueType.optional (.optional .instant)).literal (some (some leapSecond)) ≠ .null := nofun
  have years : (ValueType.optional (.optional .instant)).InYears (some (some leapSecond)) := by
    rintro _ ⟨⟩ _ ⟨⟩
    show 0 ≤ leapSecond.year ∧ leapSecond.year ≤ 9999
    decide
  have raw : (textItem (Rfc3339.write leapSecond)).member? "key" =
      some (.string (Rfc3339.write leapSecond)) := rfl
  have regular : (ValueType.optional (.optional .instant)).Regular (some (some leapSecond)) := by
    rintro _ ⟨⟩ _ ⟨⟩
    show leapSecond.Regular
    decide
  rw [← written]
  obtain ⟨bucket, decoded, read, _, itself⟩ :=
    @literal_key_read _ exact _ present years "groupby_timestamp" (fun _ => .ok []) _
      3 [] raw rfl rfl
  rw [itself.mpr regular] at read
  exact ⟨bucket, decoded, read rfl⟩

theorem bucketOf_textItem (key : String) :
    Outcome.bucketOf "groupby_timestamp" (fun _ => .ok []) (textItem key) =
      .ok ⟨key, none, 3, []⟩ :=
  rfl

/-- A second and a half behind the thirtieth second of 1970. -/
def lateHalf : Instant := ⟨30, 1500000000, by decide⟩

/-- It is written as half a second behind the next second, and comes back as that. -/
theorem lateHalf_lost :
    Rfc3339.write lateHalf = "1970-01-01T00:00:31.500+00:00" ∧
      0 ≤ lateHalf.year ∧ lateHalf.year ≤ 9999 ∧
      (textItem (Rfc3339.write lateHalf)).member? "key" =
        some (ValueType.instant.literal lateHalf).json ∧
      ∃ bucket other,
        Outcome.bucketOf "groupby_timestamp" (fun _ => .ok [])
          (textItem (Rfc3339.write lateHalf)) = .ok bucket ∧
        bucket.readKey ValueType.instant.keyReader = .ok other ∧
        other.seconds = 31 ∧ other.nanos = 500000000 ∧ other ≠ lateHalf := by
  have years : 0 ≤ lateHalf.year ∧ lateHalf.year ≤ 9999 := by decide
  have read : ValueType.instant.ofKey? (Rfc3339.write lateHalf) = some lateHalf.shown :=
    ValueType.instantOfKey?_write years
  have written : Rfc3339.write lateHalf = "1970-01-01T00:00:31.500+00:00" := by decide +kernel
  have raw : (textItem (Rfc3339.write lateHalf)).member? "key" =
      some (ValueType.instant.literal lateHalf).json := rfl
  rw [written] at read raw ⊢
  have given :
      Bucket.readKey ValueType.instant.keyReader ⟨"1970-01-01T00:00:31.500+00:00", none, 3, []⟩ =
      .ok lateHalf.shown := readKey_of_raw (bucketOf_textItem _) rfl rfl read
  have apart : lateHalf.shown ≠ lateHalf :=
    fun same => absurd (Instant.shown_eq_self_iff.mp same) (by decide)
  exact ⟨rfl, years.1, years.2, raw, _, _, bucketOf_textItem _, given, by decide, by decide, apart⟩

end Bucket

end FacetQuery
