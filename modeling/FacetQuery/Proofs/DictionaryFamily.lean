/-
**The ways to a dictionary.**

A dictionary is made of some buckets in one pass. Each key is read by its text, or else by the raw
key beside it; of several buckets with one key the last is kept, and the first bucket whose key
cannot be read decides the failure. All ways to a dictionary make the same pass, and reading the
different values is that pass without the buckets.

* `LastOf`, `FirstUnread` — **the bucket that a dictionary keeps for a key**, and the one that it
  fails with.
* `DictionaryOf` — **what a dictionary of some buckets is**, said without the pass.
* `keyed_map` — what is made of each bucket may be made of the buckets in the dictionary.
* `endAlike_keyed` — **the different values are the keys of the dictionary.**
* `dictionary_family` — **all ways to a dictionary agree.**
-/

import FacetQuery.Proofs.BucketKeys
import FacetQuery.Proofs.KeyedEntries

namespace FacetQuery

namespace Reading

variable {κ α β : Type}

/-! ### What a dictionary is -/

/-- **The last of some buckets whose key is read as a given one.** -/
def LastOf (reader : KeyReader κ) (key : κ) (buckets : List (Bucket α)) (bucket : Bucket α) :
    Prop :=
  ∃ before after, buckets = before ++ bucket :: after ∧ bucket.Converts reader key ∧
    ∀ other ∈ after, ¬ other.Converts reader key

/-- **The first of some buckets whose key cannot be read.** -/
def FirstUnread (reader : KeyReader κ) (buckets : List (Bucket α)) (bucket : Bucket α) : Prop :=
  ∃ before after, buckets = before ++ bucket :: after ∧
    (∀ other ∈ before, ∃ key, other.Converts reader key) ∧
    ∀ key, ¬ bucket.Converts reader key

/-- **What a dictionary of some buckets is**: it succeeds if every key can be read, and then has one
entry for each value that is read, the last bucket of that value. Otherwise it fails with the text
of the first key that cannot be read. -/
structure DictionaryOf [DecidableEq κ] (reader : KeyReader κ) (buckets : List (Bucket α))
    (result : Except Failure (Entries κ (Bucket α))) : Prop where
  succeeds : (∃ entries, result = .ok entries) ↔
    ∀ bucket ∈ buckets, ∃ key, bucket.Converts reader key
  distinct : ∀ entries, result = .ok entries → (entries.map Prod.fst).Nodup
  last : ∀ entries, result = .ok entries → ∀ key bucket,
    Entries.get? key entries = some bucket ↔ LastOf reader key buckets bucket
  fails : ∀ failure, result = .error failure ↔
    ∃ bucket, FirstUnread reader buckets bucket ∧ failure = .conversion bucket.key reader.label

/-- The last of some buckets is the one behind them if that has the key, and else the last of the
others. -/
theorem lastOf_concat {reader : KeyReader κ} {key : κ} {buckets : List (Bucket α)}
    {bucket found : Bucket α} :
    LastOf reader key (buckets ++ [bucket]) found ↔
      bucket.Converts reader key ∧ found = bucket ∨
        ¬ bucket.Converts reader key ∧ LastOf reader key buckets found := by
  constructor
  · rintro ⟨before, after, same, converts, unlike⟩
    rcases after.eq_nil_or_concat with rfl | ⟨earlier, behind, rfl⟩
    · obtain ⟨_, same⟩ := List.append_inj' same rfl
      cases same
      exact .inl ⟨converts, rfl⟩
    · rw [List.concat_eq_append, ← List.cons_append, ← List.append_assoc] at same
      obtain ⟨front, same⟩ := List.append_inj' same rfl
      cases same
      rw [List.concat_eq_append, List.forall_mem_append, List.forall_mem_singleton] at unlike
      exact .inr ⟨unlike.2, before, earlier, front, converts, unlike.1⟩
  · rintro (⟨converts, rfl⟩ | ⟨other, before, after, rfl, converts, unlike⟩)
    · exact ⟨buckets, [], rfl, converts, List.forall_mem_nil _⟩
    · refine ⟨before, after ++ [bucket], by rw [List.append_assoc, List.cons_append], converts, ?_⟩
      rw [List.forall_mem_append, List.forall_mem_singleton]
      exact ⟨unlike, other⟩

/-! ### Entries -/

namespace Entries

variable [DecidableEq κ]

theorem nodup_put {key : κ} {value : β} {entries : Entries κ β}
    (distinct : (entries.map Prod.fst).Nodup) : ((put key value entries).map Prod.fst).Nodup := by
  by_cases known : key ∈ entries.map Prod.fst
  · rwa [map_fst_put_of_mem known]
  · rw [put_of_notMem known, List.map_append, List.map_singleton, List.nodup_append_comm,
      List.singleton_append, List.nodup_cons]
    exact ⟨known, distinct⟩

/-- The keys of entries are distinct. -/
theorem nodup_ofPairs (pairs : List (κ × β)) : ((ofPairs pairs).map Prod.fst).Nodup := by
  induction pairs using List.reverseRecOn with
  | nil => exact List.nodup_nil
  | append_singleton pairs pair earlier =>
    rw [ofPairs_concat]
    exact nodup_put earlier

/-- What is made of each value, under the same keys. -/
def mapValues {γ : Type} (make : β → γ) (entries : Entries κ β) : Entries κ γ :=
  entries.map (Prod.map id make)

theorem put_mapValues {γ : Type} (make : β → γ) (key : κ) (value : β) (entries : Entries κ β) :
    put key (make value) (mapValues make entries) = mapValues make (put key value entries) := by
  induction entries with
  | nil => rfl
  | cons head rest later =>
    obtain ⟨other, old⟩ := head
    rw [put]
    by_cases same : other = key
    · rw [if_pos same]
      exact if_pos same
    · rw [if_neg same]
      refine (if_neg same).trans ?_
      rw [show put key (make value) (rest.map (Prod.map id make)) = _ from later]
      rfl

/-- What is made of the values may be made before or after they are entered. -/
theorem ofPairs_mapValues {γ : Type} (make : β → γ) (pairs : List (κ × β)) :
    ofPairs (pairs.map (Prod.map id make)) = mapValues make (ofPairs pairs) := by
  induction pairs using List.reverseRecOn with
  | nil => rfl
  | append_singleton pairs pair earlier =>
    rw [List.map_append, List.map_singleton, ofPairs_concat, ofPairs_concat, earlier]
    exact put_mapValues make pair.1 pair.2 _

end Entries

/-! ### The pass over the buckets -/

section Keyed

variable [DecidableEq κ] {reader : KeyReader κ} {buckets : List (Bucket α)}

/-- A dictionary is made of the keys beside the buckets. -/
theorem keyed_eq (make : Bucket α → β) : keyed reader (fun _ bucket => make bucket) buckets =
    (buckets.mapM (Bucket.readKey reader)).map fun keys =>
      Entries.ofPairs (keys.zip (buckets.map make)) := by
  have plain : (buckets.mapIdx fun place bucket =>
      (fun _ bucket => make bucket : Nat → Bucket α → β) (0 + place) bucket) =
        buckets.map make := by
    apply List.ext_getElem?
    intro place
    rw [List.getElem?_mapIdx, List.getElem?_map]
  rw [keyed, keyedFrom_eq, plain]
  cases buckets.mapM (Bucket.readKey reader) <;> rfl

/-- **What is made of each bucket** may be made of the buckets in the dictionary. -/
theorem keyed_map (make : Bucket α → β) : keyed reader (fun _ bucket => make bucket) buckets =
    (keyed reader (fun _ bucket => bucket) buckets).map (Entries.mapValues make) := by
  rw [keyed_eq, keyed_eq]
  cases buckets.mapM (Bucket.readKey reader) with
  | error failure => rfl
  | ok keys =>
    show Except.ok (Entries.ofPairs (keys.zip (buckets.map make))) =
      .ok (Entries.mapValues make (Entries.ofPairs (keys.zip (buckets.map id))))
    rw [List.map_id, ← Entries.ofPairs_mapValues, List.zip_map_right]

/-- Under each key stands the last bucket of that key. -/
theorem get?_ofPairs_eq_some {keys : List κ}
    (read : buckets.map (Bucket.readKey reader) = keys.map .ok) {key : κ} {found : Bucket α} :
    Entries.get? key (Entries.ofPairs (keys.zip buckets)) = some found ↔
      LastOf reader key buckets found := by
  induction buckets using List.reverseRecOn generalizing keys with
  | nil => simp [LastOf, Entries.ofPairs, Entries.get?]
  | append_singleton buckets bucket earlier =>
    rw [List.map_append, List.map_singleton] at read
    obtain ⟨front, last, rfl, readFront, readLast⟩ := List.append_eq_map_iff.mp read
    obtain ⟨own, rfl, readOwn⟩ := List.map_eq_singleton_iff.mp readLast
    have size : front.length = buckets.length := length_keys readFront.symm
    rw [List.zip_append size, List.zip_cons_cons, List.zip_nil_left, Entries.ofPairs_concat,
      Entries.get?_put, lastOf_concat, ← earlier readFront.symm, ← Bucket.readKey_eq_ok, ← readOwn,
      Except.ok.injEq]
    by_cases same : own = key
    · simp [same, eq_comm]
    · simp [same]

/-- **The pass makes a dictionary of the buckets.** -/
theorem dictionaryOf_keyed (reader : KeyReader κ) (buckets : List (Bucket α)) :
    DictionaryOf reader buckets (keyed reader (fun _ bucket => bucket) buckets) := by
  have made : keyed reader (fun _ bucket => bucket) buckets =
      (buckets.mapM (Bucket.readKey reader)).map fun keys =>
        Entries.ofPairs (keys.zip buckets) := by
    rw [keyed_eq]
    simp only [List.map_id']
  rw [made]
  constructor
  · simp only [map_eq_ok, exists_comm (α := Entries _ _), exists_and_left, exists_eq', and_true,
      exists_mapM_eq_ok, Bucket.readKey_eq_ok]
  · intro entries success
    obtain ⟨keys, _, rfl⟩ := map_eq_ok.mp success
    exact Entries.nodup_ofPairs _
  · intro entries success key bucket
    obtain ⟨keys, read, rfl⟩ := map_eq_ok.mp success
    exact get?_ofPairs_eq_some (mapM_eq_ok_iff_map.mp read)
  · intro failure
    rw [map_eq_error, mapM_eq_error]
    simp only [Bucket.readKey_eq_ok, Bucket.readKey_eq_error]
    constructor
    · rintro ⟨before, bucket, after, same, each, unread, failed⟩
      exact ⟨bucket, ⟨before, after, same, each, unread⟩, failed⟩
    · rintro ⟨bucket, ⟨before, after, same, each, unread⟩, failed⟩
      exact ⟨before, bucket, after, same, each, unread, failed⟩

/-- **The values that are read are the keys of the dictionary**, and the first that cannot be read
fails both. -/
theorem endAlike_keyed (reader : KeyReader κ) (buckets : List (Bucket α)) :
    EndAlike (fun (values : List κ) (entries : Entries κ (Bucket α)) =>
        ∀ key, key ∈ values ↔ key ∈ entries.map Prod.fst)
      (buckets.mapM (Bucket.readKey reader)) (keyed reader (fun _ bucket => bucket) buckets) := by
  rw [keyed_eq]
  cases read : buckets.mapM (Bucket.readKey reader) with
  | error failure => exact .error failure
  | ok keys =>
    refine .ok fun key => ?_
    have size : keys.length ≤ (buckets.map fun bucket => bucket).length := by
      simpa using Nat.le_of_eq (mapM_eq_ok.mp read).length_eq.symm
    rw [Entries.mem_map_fst_ofPairs, List.map_fst_zip size]

end Keyed

/-! ### The ways to a dictionary -/

variable {t : ValueType}

/-- The different values, read together. -/
def distinctValues (outcomes : Outcomes) (field : Field t) (filter : Option Predicate) :
    Except Failure (List t.Carrier) := do
  (← distinct outcomes field filter).mapM id

/-- The different values are read together as the keys of the buckets. -/
theorem distinctValues_eq {outcomes : Outcomes} {field : Field t} {filter : Option Predicate}
    {found : Found} {buckets : List (Bucket Outcome)}
    (located : locate outcomes field .distinct filter = .ok found)
    (terms : found.outcome? = some (.terms buckets)) :
    distinctValues outcomes field filter = buckets.mapM (Bucket.readKey t.keyReader) := by
  have listed :
      distinct outcomes field filter = .ok (buckets.map (Bucket.readKey t.keyReader)) := by
    rw [distinct, located, ok_bind, Found.expect, Found.outcome, terms]
    rfl
  rw [distinctValues, listed, ok_bind, List.mapM_map]
  rfl

/-- **All ways to a dictionary agree.** Of some buckets, found under a field, the dictionary by any
reader of keys is what a dictionary is, and the dictionary by the values of the field is the one by
their own reader. What is made of each bucket is made of the buckets of that dictionary; the same
buckets found under a key make the same dictionary; and the same buckets as different values give
its keys, or its failure. -/
theorem dictionary_family {outcomes : Outcomes} {field : Field t} {buckets : List (Bucket Outcome)}
    (found : groupBy outcomes field = .ok buckets) :
    DictionaryOf t.keyReader buckets (dictionary outcomes field) ∧
    (∀ (κ : Type) [DecidableEq κ] (reader : KeyReader κ),
      DictionaryOf reader buckets (dictionaryBy outcomes field reader)) ∧
    dictionaryBy outcomes field t.keyReader = dictionary outcomes field ∧
    (∀ (β : Type) (make : Bucket Outcome → β),
      dictionaryMap outcomes field (fun _ bucket => make bucket) =
      (dictionary outcomes field).map (Entries.mapValues make)) ∧
    (∀ others key, groupByKey others key = .ok buckets →
      keyDictionary others key t = dictionary outcomes field) ∧
    ∀ others (other : Field t) filter place, locate others other .distinct filter = .ok place →
      place.outcome? = some (.terms buckets) →
      EndAlike (fun values entries => ∀ key, key ∈ values ↔ key ∈ entries.map Prod.fst)
        (distinctValues others other filter) (dictionary outcomes field) := by
  have pass (κ : Type) [DecidableEq κ] (reader : KeyReader κ) :
      dictionaryBy outcomes field reader = keyed reader (fun _ bucket => bucket) buckets := by
    rw [dictionaryBy, found, ok_bind]
  have own : dictionary outcomes field = keyed t.keyReader (fun _ bucket => bucket) buckets := by
    rw [dictionary, dictionaryMap, found, ok_bind]
  rw [own]
  refine ⟨dictionaryOf_keyed _ _, fun κ _ reader => ?_, pass _ _, fun β make => ?_,
    fun others key there => ?_, ?_⟩
  · rw [pass]
    exact dictionaryOf_keyed reader buckets
  · rw [dictionaryMap, found, ok_bind]
    exact keyed_map make
  · rw [keyDictionary, there, ok_bind]
  · intro others other filter place located terms
    rw [distinctValues_eq located terms]
    exact endAlike_keyed t.keyReader buckets

/-- Buckets of years, one of them with a formatted key. -/
def years : List (Bucket Outcome) :=
  [{ key := "2018", docCount := 3 }, { key := "MMXVIII", rawKey := some "2018", docCount := 5 },
    { key := "2019", docCount := 1 }]

/-- The same buckets as the answer to a grouping by the year, to one by a key, and to the different
years. -/
def yearOutcomes (buckets : List (Bucket Outcome)) : Outcomes :=
  [("distinct_year", .terms buckets), ("groupby_year", .terms buckets), ("years", .terms buckets)]

/-- The field of years. -/
def yearField : Field .int64 := ⟨"year", true⟩

/-- Of two buckets of 2018 the later is kept, and its key is read although its text is not; a bucket
without a year behind them fails all ways alike. -/
theorem dictionary_family_years :
    groupBy (yearOutcomes years) yearField = .ok years ∧
    (∃ entries values, dictionary (yearOutcomes years) yearField = .ok entries ∧
      Entries.get? (⟨2018, by decide⟩ : (IntegerType.signed .eight).Carrier) entries =
        some { key := "MMXVIII", rawKey := some "2018", docCount := 5 } ∧
      dictionaryMap (yearOutcomes years) yearField (fun _ bucket => bucket.docCount) =
        .ok (Entries.mapValues Bucket.docCount entries) ∧
      dictionaryBy (yearOutcomes years) yearField (ValueType.keyReader .int64) = .ok entries ∧
      keyDictionary (yearOutcomes years) "years" .int64 = .ok entries ∧
      distinctValues (yearOutcomes years) yearField none = .ok values ∧
      ∀ key, key ∈ values ↔ key ∈ entries.map Prod.fst) ∧
    ∀ later, dictionary
      (yearOutcomes (years ++ { key := "late", rawKey := some "never", docCount := 1 } :: later))
      yearField = .error (.conversion "late" "i64") := by
  have found : groupBy (yearOutcomes years) yearField = .ok years := rfl
  have read : ∀ bucket ∈ years, ∃ key, bucket.Converts (ValueType.keyReader .int64) key := by
    intro bucket member
    have each : years.map (Bucket.readKey (ValueType.keyReader .int64)) =
      [⟨2018, by decide⟩, ⟨2018, by decide⟩, ⟨2019, by decide⟩].map Except.ok := by decide +kernel
    obtain ⟨key, _, same⟩ := List.mem_map.mp (each ▸ List.mem_map_of_mem member)
    exact ⟨key, Bucket.readKey_eq_ok.mp same.symm⟩
  obtain ⟨made, _, own, mapped, byKey, values⟩ := dictionary_family found
  obtain ⟨entries, success⟩ := made.succeeds.mpr read
  have alike := values (yearOutcomes years) yearField none _ rfl rfl
  obtain ⟨_, _, failed⟩ | ⟨all, _, together, failed, same⟩ := alike.cases
  · cases success.symm.trans failed
  · cases success.symm.trans failed
    refine ⟨found,
      ⟨entries, all, success, ?_, ?_, own.trans success,
      (byKey _ "years" rfl).trans success, together, same⟩, ?_⟩
    · refine (made.last entries success _ _).mpr ⟨[years[0]], [years[2]], rfl, ?_, ?_⟩
      · exact Bucket.readKey_eq_ok.mp (by decide +kernel)
      · refine List.forall_mem_singleton.mpr fun converts => ?_
        exact absurd (Bucket.readKey_eq_ok.mpr converts) (by decide +kernel)
    · rw [mapped, success]
      rfl
    · intro later
      have longer :
          groupBy (yearOutcomes
          (years ++ { key := "late", rawKey := some "never", docCount := 1 } :: later))
          yearField = .ok
            (years ++ { key := "late", rawKey := some "never", docCount := 1 } :: later) := rfl
      refine ((dictionary_family longer).1.fails _).mpr ⟨_, ⟨years, later, rfl, read, ?_⟩, rfl⟩
      intro key converts
      have failed : Bucket.readKey (α := Outcome) (ValueType.keyReader .int64)
          { key := "late", rawKey := some "never", docCount := 1 } =
            .error (.conversion "late" "i64") := by
        decide +kernel
      cases failed.symm.trans (Bucket.readKey_eq_ok.mpr converts)

end Reading

end FacetQuery
