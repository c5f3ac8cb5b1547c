/-
**Dates as keys.**

The backend keeps a date as its milliseconds since 1970 and may write it by a format of its own. The
text is read first: as the date that it writes, else as the milliseconds that its digits count, and
only if it is neither is the raw key looked at. So a formatted date keeps its instant unless the
format writes bare digits, such as a year, that count another instant.

* `Rfc3339.read?_toString` — the text of an integer writes no date.
* `ValueType.instantOfKey?_toString` — **the text of milliseconds is read as these milliseconds.**
* `Bucket.readKey_formatted` — **which instant a formatted date is read as.**
* `Reading.formatted_date_kept_iff` — **a formatted date keeps its instant unless its digits count
  another one**, in the bucket, in a dictionary and among the different values.
-/

import FacetQuery.Proofs.BucketKeys
import FacetQuery.Proofs.IntegerKeys
import FacetQuery.Proofs.KeyedEntries

namespace FacetQuery

/-! ### Milliseconds -/

/-- The instants are covered by short integers of milliseconds. -/
theorem Instant.short_of_ofMillis? {n : Int} {time : Instant} (covered : ofMillis? n = some time) :
    n.natAbs < 9000000000000000 := by
  obtain ⟨whole, _, _⟩ := ofParts?_eq_some.mp covered
  have low : -8334601228800 ≤ time.seconds := time.inRange.1
  have high : time.seconds ≤ 8210266876799 := time.inRange.2.1
  omega

/-! ### Texts that write no date -/

namespace Rfc3339

theorem rest_of_fixed? {width n : Nat} {text rest : List Char}
    (read : fixed? width text = some (n, rest)) : rest = text.drop width := by
  unfold fixed? at read
  dsimp only at read
  split at read
  · cases read
    rfl
  · cases read

theorem expect?_eq_none {c : Char} {text : List Char} (absent : c ∉ text) :
    expect? [c] text = none := by
  cases text with
  | nil => rfl
  | cons first rest =>
    have apart : first ∉ [c] := by
      intro same
      rw [List.mem_singleton.mp same] at absent
      exact absent List.mem_cons_self
    rw [expect?, if_neg apart]

/-- A text with no minus behind its first four characters writes no date. -/
theorem read?_eq_none {text : String} (plain : '-' ∉ text.toList.drop 4) : read? text = none := by
  have date : readDate? text.toList = none := by
    unfold readDate?
    cases year : fixed? 4 text.toList with
    | none => rfl
    | some found =>
      obtain ⟨n, rest⟩ := found
      have behind : expect? ['-'] rest = none := expect?_eq_none (rest_of_fixed? year ▸ plain)
      rw [Option.bind_eq_bind, Option.bind_some]
      dsimp only
      rw [behind]
      rfl
  rw [read?, date]
  rfl

/-- **The text of an integer writes no date.** -/
theorem read?_toString (n : Int) : read? (toString n) = none := by
  apply read?_eq_none
  intro minus
  have behind : (toString n).toList.drop 4 = (toString n).toList.tail.drop 3 := List.drop_tail.symm
  rw [behind] at minus
  exact Scan.minus_notMem_tail n (List.mem_of_mem_drop minus)

end Rfc3339

/-! ### Instants of texts -/

namespace ValueType

/-- The instant that the digits of a text count in milliseconds. -/
def countedInstant? (key : String) : Option Instant :=
  ((IntegerType.signed .eight).ofKey? key).bind fun millis => Instant.ofMillis? millis.val

/-- A text is read as the date that it writes, or else as the milliseconds that it counts. -/
theorem instantOfKey?_eq (key : String) :
    instantOfKey? key = (Rfc3339.read? key).or (countedInstant? key) := by
  unfold instantOfKey?
  cases Rfc3339.read? key <;> rfl

/-- **The text of milliseconds is read as these milliseconds.** -/
theorem instantOfKey?_toString {n : Int} {time : Instant}
    (covered : Instant.ofMillis? n = some time) : instantOfKey? (toString n) = some time := by
  have short := Instant.short_of_ofMillis? covered
  have holds : (IntegerType.signed .eight).Holds n := by
    constructor
    · show -9223372036854775808 ≤ n
      omega
    · show n ≤ 9223372036854775808 - 1
      omega
  rw [instantOfKey?_eq, Rfc3339.read?_toString, Option.none_or, countedInstant?,
    IntegerType.ofKey?_toString, IntegerType.ofInt?, dif_pos holds]
  exact covered

end ValueType

/-! ### Formatted dates -/

namespace Bucket

/-- **The instant that a formatted date is read as**: the one that its text writes, else the one
that its digits count, else the raw one. -/
def formattedInstant (text : String) (time : Instant) : Instant :=
  ((Rfc3339.read? text).or (ValueType.countedInstant? text)).getD time

/-- A text that writes no date shows the raw instant exactly if its digits count no other one. -/
theorem formattedInstant_eq_iff {text : String} {time : Instant} :
    formattedInstant text time = (Rfc3339.read? text).getD time ↔
      (Rfc3339.read? text = none → ∀ other, ValueType.countedInstant? text = some other →
        other = time) := by
  unfold formattedInstant
  cases Rfc3339.read? text with
  | some date => simp
  | none => cases ValueType.countedInstant? text <;> simp

/-- A formatted date is read as its text says. -/
theorem readKey_formatted {name text : String} {level : Json → Except Failure Outcomes}
    {item : Json} {bucket : Bucket Outcome} {number : Json.Number} {n : Int} {time : Instant}
    (made : Outcome.bucketOf name level item = .ok bucket)
    (raw : item.member? "key" = some (.number number)) (value : number.Is n)
    (covered : Instant.ofMillis? n = some time)
    (formatted : item.member? "key_as_string" = some (.string text)) :
    bucket.readKey ValueType.instant.keyReader = .ok (formattedInstant text time) := by
  have key : (item.member? "key").bind Json.key? = some (toString n) := by
    rw [raw, ← Outcome.numberKey_of_is value (Instant.short_of_ofMillis? covered)]
    rfl
  have text : (item.member? "key_as_string").bind Json.string? = some text := by
    rw [formatted]
    rfl
  have back : ValueType.instant.keyReader.read (toString n) = some time :=
    ValueType.instantOfKey?_toString covered
  rw [formattedInstant, ← ValueType.instantOfKey?_eq]
  exact readKey_of_formatted made key text back

end Bucket

namespace Reading

/-- **A formatted date keeps its instant unless its digits count another one**: it is read as the
date that its text writes, else as the raw one, exactly if the text does not count the milliseconds
of a different instant, and that is its key in a dictionary and among the different values. -/
theorem formatted_date_kept_iff {name text : String} {level : Json → Except Failure Outcomes}
    {item : Json} {bucket : Bucket Outcome} {number : Json.Number} {n : Int} {time : Instant}
    (made : Outcome.bucketOf name level item = .ok bucket)
    (raw : item.member? "key" = some (.number number)) (value : number.Is n)
    (covered : Instant.ofMillis? n = some time)
    (formatted : item.member? "key_as_string" = some (.string text)) :
    (bucket.readKey ValueType.instant.keyReader = .ok ((Rfc3339.read? text).getD time) ↔
      (Rfc3339.read? text = none → ∀ other, ValueType.countedInstant? text = some other →
        other = time)) ∧
    bucket.readKey ValueType.instant.keyReader = .ok (Bucket.formattedInstant text time) ∧
    (∀ (outcomes : Outcomes) (field : Field .instant) buckets entries,
      groupBy outcomes field = .ok buckets →
      bucket ∈ buckets → dictionary outcomes field = .ok entries →
      Bucket.formattedInstant text time ∈ entries.map Prod.fst) ∧
    (∀ (outcomes : Outcomes) (field : Field .instant) filter found buckets,
      locate outcomes field .distinct filter = .ok found → found.outcome? = some (.terms buckets) →
      bucket ∈ buckets → ∃ keys, distinct outcomes field filter = .ok keys ∧
        .ok (Bucket.formattedInstant text time) ∈ keys) := by
  have told := Bucket.readKey_formatted made raw value covered formatted
  refine ⟨?_, told, ?_, ?_⟩
  · rw [← Bucket.formattedInstant_eq_iff, told]
    exact ⟨Except.ok.inj, congrArg Except.ok⟩
  · intro outcomes field buckets entries found member dict
    rw [dictionary, dictionaryMap, found, ok_bind] at dict
    exact (mem_keys_iff dict).mpr ⟨bucket, member, told⟩
  · intro outcomes field filter found buckets located terms member
    refine ⟨buckets.map (Bucket.readKey ValueType.instant.keyReader), ?_,
      List.mem_map.mpr ⟨bucket, member, told⟩⟩
    rw [distinct, located, ok_bind, Found.expect, Found.outcome, terms]
    rfl

/-- The item of a date, the first of January 2018, under a text. -/
def dateItem (text : String) : Json :=
  .record [("key", .number (.ofSigned 1514764800000)), ("key_as_string", .string text),
    ("doc_count", .ofInt 4)]

/-- The field of dates. -/
def dateField : Field .instant := ⟨"timestamp", true⟩

/-- A date by month and year keeps its instant. -/
theorem formatted_date_kept_month :
    ∃ bucket time entries keys,
      Outcome.bucketOf "groupby_timestamp" (fun _ => .ok []) (dateItem "01/2018") = .ok bucket ∧
      Instant.ofMillis? 1514764800000 = some time ∧
      bucket.readKey ValueType.instant.keyReader = .ok time ∧
      dictionary [("groupby_timestamp", .terms [bucket])] dateField = .ok entries ∧
      time ∈ entries.map Prod.fst ∧
      distinct [("distinct_timestamp", .terms [bucket])] dateField none = .ok keys ∧
      .ok time ∈ keys := by
  obtain ⟨bucket, made⟩ : ∃ bucket,
      Outcome.bucketOf "groupby_timestamp" (fun _ => .ok []) (dateItem "01/2018") = .ok bucket :=
        ⟨_, rfl⟩
  have covered : Instant.ofMillis? 1514764800000 = some ⟨1514764800, 0, by decide⟩ := by decide
  have plain :
      Bucket.formattedInstant "01/2018" ⟨1514764800, 0, by decide⟩ =
      ⟨1514764800, 0, by decide⟩ := by
    decide +kernel
  obtain ⟨_, told, inDictionary, inDistinct⟩ :=
    formatted_date_kept_iff (n := 1514764800000) made rfl rfl covered rfl
  rw [plain] at told inDictionary inDistinct
  have entries : dictionary [("groupby_timestamp", .terms [bucket])] dateField =
      .ok [(⟨1514764800, 0, by decide⟩, bucket)] := by
    show keyed ValueType.instant.keyReader (fun _ bucket => bucket) [bucket] = _
    rw [keyed, keyedFrom, told]
    rfl
  obtain ⟨keys, listed, member⟩ :=
    inDistinct [("distinct_timestamp", .terms [bucket])] dateField none
    ⟨"distinct_timestamp", some (.terms [bucket])⟩ [bucket] rfl rfl List.mem_cons_self
  exact ⟨bucket, _, _, keys, made, covered, told, entries,
    inDictionary _ dateField [bucket] _ rfl List.mem_cons_self entries, listed, member⟩

/-- A year is read as so many milliseconds after 1970. -/
theorem year_read_as_millis :
    ∃ bucket time other,
      Outcome.bucketOf "groupby_timestamp" (fun _ => .ok []) (dateItem "2018") = .ok bucket ∧
      Instant.ofMillis? 1514764800000 = some time ∧ Rfc3339.read? "2018" = none ∧
      bucket.readKey ValueType.instant.keyReader = .ok other ∧ other ≠ time := by
  refine ⟨_, ⟨1514764800, 0, by decide⟩, ⟨2, 18000000, by decide⟩,
    rfl, by decide, by decide +kernel, ?_, ?_⟩
  · decide +kernel
  · intro same
    cases congrArg Instant.seconds same

end Reading

end FacetQuery
