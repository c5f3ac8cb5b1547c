/-
**The keys of a bucket.**

A bucket has the text of its raw key, or a formatted text with the raw one beside it. It is read by
the first of the two that a reader takes, and refused with the first if it takes neither.

* `Json.key?` — the text of a raw key.
* `Outcome.bucketKey_raw`, `Outcome.bucketKey_formatted` — **the keys of an item**, without a
  formatted text or with.
* `Bucket.Converts` — **what the key of a bucket is read as.**
* `Bucket.readKey_of_raw`, `Bucket.readKey_of_formatted` — what a decoded bucket is read as, if its
  raw key is read.
-/

import FacetQuery.Proofs.LevelAnswers
import FacetQuery.Reading.Key

namespace FacetQuery

/-- The text of a document as the raw key of a bucket, if it is a scalar. -/
def Json.key? : Json → Option String
  | .string text => some text
  | .bool flag => some (if flag then "true" else "false")
  | .number n => some (Outcome.numberKey n)
  | _ => none

/-! ### Items -/

namespace Outcome

variable {name key text : String} {item : Json}

theorem rawKey?_eq (item : Json) : rawKey? item = (item.member? "key").bind Json.key? := by
  unfold rawKey?
  cases item.member? "key" with
  | none => rfl
  | some document => cases document <;> rfl

/-- An item without a formatted key has its raw key alone. -/
theorem bucketKey_raw (raw : (item.member? "key").bind Json.key? = some key)
    (unformatted : (item.member? "key_as_string").bind Json.string? = none) :
    bucketKey name item = .ok (key, none) := by
  rw [bucketKey, unformatted, rawKey?_eq, raw]
  rfl

/-- **The key of a formatted item** is the text, with the raw key beside it unless that is the
text. -/
theorem bucketKey_formatted (raw : (item.member? "key").bind Json.key? = some key)
    (formatted : (item.member? "key_as_string").bind Json.string? = some text) :
    bucketKey name item = .ok (text, (some key).filter (· ≠ text)) := by
  rw [bucketKey, formatted, rawKey?_eq, raw]

end Outcome

/-! ### Buckets -/

namespace Bucket

section Reading

variable {α κ : Type} {bucket : Bucket α} {reader : KeyReader κ} {key : String} {value : κ}

/-- **What the key of a bucket is read as**: its text, or the raw key beside it if the text cannot
be read. -/
def Converts (reader : KeyReader κ) (bucket : Bucket α) (key : κ) : Prop :=
  reader.read bucket.key = some key ∨
    reader.read bucket.key = none ∧ ∃ raw, bucket.rawKey = some raw ∧ reader.read raw = some key

theorem readKey_eq_ok : bucket.readKey reader = .ok value ↔ bucket.Converts reader value := by
  unfold readKey Converts
  cases reader.read bucket.key with
  | some own => simp
  | none =>
    rw [Option.none_or, ← Option.bind_eq_some_iff]
    cases bucket.rawKey.bind reader.read <;> simp

/-- A bucket fails, with its text, exactly if its key is read as nothing. -/
theorem readKey_eq_error {failure : Failure} : bucket.readKey reader = .error failure ↔
    (∀ key, ¬ bucket.Converts reader key) ∧ failure = .conversion bucket.key reader.label := by
  simp only [← readKey_eq_ok, readKey]
  cases (reader.read bucket.key).or (bucket.rawKey.bind reader.read) with
  | some own => simp
  | none => simp [eq_comm]

theorem readKey_of_read (read : reader.read bucket.key = some value) :
    bucket.readKey reader = .ok value :=
  readKey_eq_ok.mpr (.inl read)

/-- A bucket without a second key is refused with the text of its only one. -/
theorem readKey_of_unread (alone : bucket.rawKey = none) (unread : reader.read bucket.key = none) :
    bucket.readKey reader = .error (.conversion bucket.key reader.label) := by
  refine readKey_eq_error.mpr ⟨?_, rfl⟩
  rintro key (own | ⟨_, raw, beside, _⟩)
  · cases unread.symm.trans own
  · cases alone.symm.trans beside

/-- A key with a second one beside it, unless the two are one, is read first; the second is read if
it is not. -/
theorem readKey_of_beside (beside : bucket.rawKey = (some key).filter (· ≠ bucket.key))
    (read : reader.read key = some value) :
    bucket.readKey reader = .ok ((reader.read bucket.key).getD value) := by
  cases own : reader.read bucket.key with
  | some other => exact readKey_of_read own
  | none =>
    -- The raw key is left out only if it is the text itself, and that would have been read.
    have apart : key ≠ bucket.key := by
      rintro rfl
      cases own.symm.trans read
    rw [Option.filter_some, if_pos (decide_eq_true apart)] at beside
    exact readKey_eq_ok.mpr (.inr ⟨own, key, beside, read⟩)

end Reading

variable {κ : Type} {name key text : String} {level : Json → Except Failure Outcomes} {item : Json}
  {bucket : Bucket Outcome} {reader : KeyReader κ} {value : κ}

/-- A bucket without a formatted key has its raw key alone. -/
theorem keys_of_raw (made : Outcome.bucketOf name level item = .ok bucket)
    (raw : (item.member? "key").bind Json.key? = some key)
    (unformatted : (item.member? "key_as_string").bind Json.string? = none) :
    bucket.key = key ∧ bucket.rawKey = none := by
  have keyed := (Outcome.bucketOf_eq_ok.mp made).1
  rw [Outcome.bucketKey_raw raw unformatted, Except.ok.injEq, Prod.mk.injEq] at keyed
  exact ⟨keyed.1.symm, keyed.2.symm⟩

/-- **A bucket without a formatted key** is read as its raw key. -/
theorem readKey_of_raw (made : Outcome.bucketOf name level item = .ok bucket)
    (raw : (item.member? "key").bind Json.key? = some key)
    (unformatted : (item.member? "key_as_string").bind Json.string? = none)
    (read : reader.read key = some value) : bucket.readKey reader = .ok value :=
  readKey_of_read ((keys_of_raw made raw unformatted).1 ▸ read)

/-- **A bucket with a formatted key** is read as that, or else as its raw key. -/
theorem readKey_of_formatted (made : Outcome.bucketOf name level item = .ok bucket)
    (raw : (item.member? "key").bind Json.key? = some key)
    (formatted : (item.member? "key_as_string").bind Json.string? = some text)
    (read : reader.read key = some value) :
    bucket.readKey reader = .ok ((reader.read text).getD value) := by
  have keyed := (Outcome.bucketOf_eq_ok.mp made).1
  rw [Outcome.bucketKey_formatted raw formatted, Except.ok.injEq, Prod.mk.injEq] at keyed
  obtain ⟨rfl, beside⟩ := keyed
  exact readKey_of_beside beside.symm read

end Bucket

end FacetQuery
