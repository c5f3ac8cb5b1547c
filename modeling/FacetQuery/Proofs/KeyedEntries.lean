/-
**Entries of buckets.**

A dictionary of buckets is made in one pass: the key of each bucket is read, and what is made of the
bucket is written under it, over anything written there before. So nothing is lost exactly if no two
keys are read as one value, whatever their texts are.

* `Entries.length_ofPairs_eq_iff` — **there is an entry for each pair exactly if the keys are
  distinct.**
* `keyed_eq_ok` — **what a dictionary is made of**: the keys in the order of the buckets, beside
  what is made of each bucket at its place.
* `keeps_iff` — **a dictionary drops no bucket exactly if its keys are read apart.**
* `dictionaries_keep_iff` — the same for each way to a dictionary, and when distinct texts are
  enough.
-/

import FacetQuery.Proofs.Steps
import FacetQuery.Reading.Dictionary
import Mathlib.Data.List.Induction
import Mathlib.Data.List.Nodup

namespace FacetQuery.Reading

variable {κ α β : Type}

namespace Entries

variable [DecidableEq κ]

theorem ofPairs_concat (pairs : List (κ × β)) (pair : κ × β) :
    ofPairs (pairs ++ [pair]) = put pair.1 pair.2 (ofPairs pairs) := by
  unfold ofPairs
  rw [List.foldl_append]
  rfl

/-- A new key comes behind the others. -/
theorem put_of_notMem {key : κ} {value : β} {entries : Entries κ β}
    (fresh : key ∉ entries.map Prod.fst) : put key value entries = entries ++ [(key, value)] := by
  induction entries with
  | nil => rfl
  | cons head rest later =>
    obtain ⟨other, old⟩ := head
    rw [List.map_cons, List.mem_cons, not_or] at fresh
    rw [put, if_neg (Ne.symm fresh.1), later fresh.2, List.cons_append]

/-- A known key stays where it is. -/
theorem map_fst_put_of_mem {key : κ} {value : β} {entries : Entries κ β}
    (known : key ∈ entries.map Prod.fst) :
    (put key value entries).map Prod.fst = entries.map Prod.fst := by
  induction entries with
  | nil => cases known
  | cons head rest later =>
    obtain ⟨other, old⟩ := head
    rw [put]
    by_cases same : other = key
    · rw [if_pos same, List.map_cons, List.map_cons, same]
    · have behind : key ∈ rest.map Prod.fst := (List.mem_cons.mp known).resolve_left (Ne.symm same)
      rw [if_neg same, List.map_cons, List.map_cons, later behind]

theorem length_put_of_mem {key : κ} {value : β} {entries : Entries κ β}
    (known : key ∈ entries.map Prod.fst) : (put key value entries).length = entries.length := by
  rw [← List.length_map (f := Prod.fst), map_fst_put_of_mem known, List.length_map]

/-- The keys of the entries are those of the pairs. -/
theorem mem_map_fst_ofPairs {pairs : List (κ × β)} {key : κ} :
    key ∈ (ofPairs pairs).map Prod.fst ↔ key ∈ pairs.map Prod.fst := by
  induction pairs using List.reverseRecOn with
  | nil => exact Iff.rfl
  | append_singleton pairs pair earlier =>
    rw [ofPairs_concat, List.map_append, List.mem_append, ← earlier, List.map_singleton,
      List.mem_singleton]
    by_cases known : pair.1 ∈ (ofPairs pairs).map Prod.fst
    · rw [map_fst_put_of_mem known]
      constructor
      · exact .inl
      · rintro (old | rfl)
        · exact old
        · exact known
    · rw [put_of_notMem known, List.map_append, List.mem_append, List.map_singleton,
        List.mem_singleton]

/-- Pairs of distinct keys are their own entries. -/
theorem ofPairs_eq_self {pairs : List (κ × β)} (distinct : (pairs.map Prod.fst).Nodup) :
    ofPairs pairs = pairs := by
  induction pairs using List.reverseRecOn with
  | nil => rfl
  | append_singleton pairs pair earlier =>
    rw [List.map_append, List.map_singleton, List.nodup_append_comm, List.singleton_append,
      List.nodup_cons] at distinct
    have kept := earlier distinct.2
    rw [ofPairs_concat, kept, put_of_notMem distinct.1]

theorem length_ofPairs_le (pairs : List (κ × β)) : (ofPairs pairs).length ≤ pairs.length := by
  induction pairs using List.reverseRecOn with
  | nil => exact Nat.le_refl 0
  | append_singleton pairs pair earlier =>
    rw [ofPairs_concat, List.length_append, List.length_singleton]
    by_cases known : pair.1 ∈ (ofPairs pairs).map Prod.fst
    · rw [length_put_of_mem known]
      omega
    · rw [put_of_notMem known, List.length_append, List.length_singleton]
      omega

/-- **There is an entry for each pair exactly if the keys are distinct.** -/
theorem length_ofPairs_eq_iff {pairs : List (κ × β)} :
    (ofPairs pairs).length = pairs.length ↔ (pairs.map Prod.fst).Nodup := by
  constructor
  · intro full
    induction pairs using List.reverseRecOn with
    | nil => exact List.nodup_nil
    | append_singleton pairs pair earlier =>
      have room := length_ofPairs_le pairs
      rw [ofPairs_concat, List.length_append, List.length_singleton] at full
      -- A known key would write over an entry, so that there were fewer entries than pairs.
      have fresh : pair.1 ∉ (ofPairs pairs).map Prod.fst := by
        intro known
        rw [length_put_of_mem known] at full
        omega
      rw [put_of_notMem fresh, List.length_append, List.length_singleton] at full
      rw [List.map_append, List.map_singleton, List.nodup_append_comm, List.singleton_append,
        List.nodup_cons]
      exact ⟨fun again => fresh (mem_map_fst_ofPairs.mpr again), earlier (by omega)⟩
  · intro distinct
    rw [ofPairs_eq_self distinct]

theorem get?_eq_some_of_mem {entries : Entries κ β} (distinct : (entries.map Prod.fst).Nodup)
    {key : κ} {value : β} (member : (key, value) ∈ entries) : get? key entries = some value := by
  induction entries with
  | nil => cases member
  | cons head rest later =>
    obtain ⟨other, old⟩ := head
    rw [List.map_cons, List.nodup_cons] at distinct
    rw [get?]
    rcases List.mem_cons.mp member with here | behind
    · cases here
      exact if_pos rfl
    · have apart : other ≠ key := fun same => distinct.1 (List.mem_map.mpr ⟨_, behind, same.symm⟩)
      rw [if_neg apart, later distinct.2 behind]

/-- **Entries keep some buckets**: there is one for each, and under the key of a bucket stands what
is made of that bucket at its place. -/
def Keep (reader : KeyReader κ) (project : Nat → Bucket α → β) (buckets : List (Bucket α))
    (entries : Entries κ β) : Prop :=
  entries.length = buckets.length ∧ ∀ place bucket key, buckets[place]? = some bucket →
    bucket.readKey reader = .ok key → get? key entries = some (project place bucket)

end Entries

/-! ### Dictionaries -/

section Keyed

variable {reader : KeyReader κ} {project : Nat → Bucket α → β} {buckets : List (Bucket α)}

theorem keyedFrom_eq (place : Nat) : keyedFrom reader project place buckets =
    (buckets.mapM (Bucket.readKey reader)).map fun keys =>
      keys.zip (buckets.mapIdx fun i bucket => project (place + i) bucket) := by
  induction buckets generalizing place with
  | nil => rfl
  | cons bucket rest later =>
    have step : (fun i other => project (place + 1 + i) other : Nat → Bucket α → β) =
        fun i other => project (place + (i + 1)) other := by
      funext i other
      rw [Nat.add_assoc, Nat.add_comm 1 i]
    rw [keyedFrom, List.mapM_cons, later, List.mapIdx_cons, step]
    cases bucket.readKey reader with
    | error failure => rfl
    | ok key => cases rest.mapM (Bucket.readKey reader) <;> rfl

/-- There are as many keys as buckets that they are read from. -/
theorem length_keys {keys : List κ} (read : buckets.map (Bucket.readKey reader) = keys.map .ok) :
    keys.length = buckets.length := by
  have lengths := congrArg List.length read
  rw [List.length_map, List.length_map] at lengths
  exact lengths.symm

/-- The keys beside what is made of the buckets are all the keys. -/
theorem map_fst_zip_keys {keys : List κ}
    (read : buckets.map (Bucket.readKey reader) = keys.map .ok) :
    (keys.zip (buckets.mapIdx project)).map Prod.fst = keys :=
  List.map_fst_zip (Nat.le_of_eq ((length_keys read).trans List.length_mapIdx.symm))

variable [DecidableEq κ] {entries : Entries κ β}

/-- **What a dictionary is made of**: the keys in the order of the buckets, beside what is made of
each bucket. -/
theorem keyed_eq_ok : keyed reader project buckets = .ok entries ↔
    ∃ keys : List κ, buckets.map (Bucket.readKey reader) = keys.map .ok ∧
      entries = Entries.ofPairs (keys.zip (buckets.mapIdx project)) := by
  have start : (fun i bucket => project (0 + i) bucket : Nat → Bucket α → β) = project := by
    funext i bucket
    rw [Nat.zero_add]
  rw [keyed, keyedFrom_eq, start, map_eq_ok]
  constructor
  · rintro ⟨_, made, rfl⟩
    obtain ⟨keys, read, rfl⟩ := map_eq_ok.mp made
    exact ⟨keys, mapM_eq_ok_iff_map.mp read, rfl⟩
  · rintro ⟨keys, read, rfl⟩
    exact ⟨_, map_eq_ok.mpr ⟨keys, mapM_eq_ok_iff_map.mpr read, rfl⟩, rfl⟩

/-- The keys of a dictionary are those that are read from its buckets. -/
theorem mem_keys_iff (made : keyed reader project buckets = .ok entries) {key : κ} :
    key ∈ entries.map Prod.fst ↔ ∃ bucket ∈ buckets, bucket.readKey reader = .ok key := by
  obtain ⟨keys, read, rfl⟩ := keyed_eq_ok.mp made
  have listed : (.ok key ∈ keys.map (Except.ok (ε := Failure))) ↔ key ∈ keys :=
    List.mem_map_of_injective fun _ _ => Except.ok.inj
  rw [Entries.mem_map_fst_ofPairs, map_fst_zip_keys read, ← listed, ← read, List.mem_map]

/-- **A dictionary drops no bucket exactly if the keys of the buckets are read apart.** -/
theorem keep_iff (made : keyed reader project buckets = .ok entries) :
    entries.Keep reader project buckets ↔ (buckets.map (Bucket.readKey reader)).Nodup := by
  obtain ⟨keys, read, rfl⟩ := keyed_eq_ok.mp made
  have names : (keys.zip (buckets.mapIdx project)).map Prod.fst = keys := map_fst_zip_keys read
  have whole : (keys.zip (buckets.mapIdx project)).length = buckets.length := by
    rw [List.length_zip, length_keys read, List.length_mapIdx, Nat.min_self]
  have apart : (buckets.map (Bucket.readKey reader)).Nodup ↔ keys.Nodup := by
    rw [read]
    exact List.nodup_map_iff fun _ _ => Except.ok.inj
  rw [apart]
  constructor
  · rintro ⟨full, _⟩
    rw [← whole, Entries.length_ofPairs_eq_iff, names] at full
    exact full
  · intro distinct
    rw [← names] at distinct
    rw [Entries.ofPairs_eq_self distinct]
    refine ⟨whole, fun place bucket key here own => ?_⟩
    have listed : keys[place]? = some key := by
      have same := congrArg (·[place]?) read
      simp only [List.getElem?_map, here, Option.map_some, own] at same
      obtain ⟨other, there, equal⟩ := Option.map_eq_some_iff.mp same.symm
      rw [there, Except.ok.inj equal]
    apply Entries.get?_eq_some_of_mem distinct
    apply List.mem_of_getElem? (i := place)
    rw [List.getElem?_zip_eq_some]
    exact ⟨listed, by rw [List.getElem?_mapIdx, here, Option.map_some]⟩

end Keyed

/-! ### Keys read apart -/

/-- The keys of some buckets are read apart: no two of them as one value of a type. -/
def ReadApart (t : ValueType) (buckets : List (Bucket α)) : Prop :=
  (buckets.map (Bucket.readKey t.keyReader)).Nodup

end FacetQuery.Reading

namespace FacetQuery

/-- Whether the values of a type are texts, which are read as they are, or nothing. -/
def ValueType.isTextual : ValueType → Bool
  | text => true
  | optional t => t.isTextual
  | _ => false

/-- A text is read as itself. -/
theorem ValueType.ofKey?_textual {t : ValueType} (textual : t.isTextual = true) :
    ∃ read : String → t.Carrier, Function.Injective read ∧
      ∀ key, t.ofKey? key = some (read key) := by
  induction t with
  | text => exact ⟨id, Function.injective_id, fun _ => rfl⟩
  | optional t inner =>
    obtain ⟨read, injective, told⟩ := inner textual
    refine ⟨fun key => some (read key),
      fun a b same => injective (Option.some.inj same), fun key => ?_⟩
    rw [ofKey?, told]
    rfl
  | _ => cases textual

namespace Reading

variable {α : Type}

/-- Distinct texts are read apart as texts. -/
theorem readApart_of_textual {t : ValueType} {buckets : List (Bucket α)}
    (textual : t.isTextual = true) (distinct : (buckets.map Bucket.key).Nodup) :
    ReadApart t buckets := by
  obtain ⟨read, injective, told⟩ := ValueType.ofKey?_textual textual
  have keys : buckets.map (Bucket.readKey t.keyReader) =
      (buckets.map Bucket.key).map (.ok ∘ read) := by
    rw [List.map_map]
    apply List.map_congr_left
    intro bucket _
    have here : t.keyReader.read bucket.key = some (read bucket.key) := told bucket.key
    rw [Bucket.readKey, here]
    rfl
  rw [ReadApart, keys]
  exact distinct.map fun a b same => injective (Except.ok.inj same)

/-- **A dictionary drops no bucket exactly if no two keys are read as one value**, whichever way it
is made, and as texts distinct keys are read apart. -/
theorem dictionaries_keep_iff (t : ValueType) (outcomes : Outcomes)
    (buckets : List (Bucket Outcome)) :
    (∀ field : Field t, groupBy outcomes field = .ok buckets →
      (∀ (β : Type) (project : Nat → Bucket Outcome → β) (entries : Entries t.Carrier β),
        dictionaryMap outcomes field project = .ok entries →
        (entries.Keep t.keyReader project buckets ↔ ReadApart t buckets)) ∧
      ∀ entries, dictionary outcomes field = .ok entries →
        (entries.Keep t.keyReader (fun _ bucket => bucket) buckets ↔ ReadApart t buckets)) ∧
    (∀ key entries, groupByKey outcomes key = .ok buckets →
      keyDictionary outcomes key t = .ok entries →
      (entries.Keep t.keyReader (fun _ bucket => bucket) buckets ↔ ReadApart t buckets)) ∧
    (t.isTextual = true → (buckets.map Bucket.key).Nodup → ReadApart t buckets) := by
  have mapped : ∀ field : Field t, groupBy outcomes field = .ok buckets →
      ∀ (β : Type) (project : Nat → Bucket Outcome → β) (entries : Entries t.Carrier β),
        dictionaryMap outcomes field project = .ok entries →
        (entries.Keep t.keyReader project buckets ↔ ReadApart t buckets) := by
    intro field found β project entries made
    rw [dictionaryMap, found, ok_bind] at made
    exact keep_iff made
  refine ⟨fun field found => ⟨mapped field found, ?_⟩, ?_, readApart_of_textual⟩
  · intro entries made
    exact mapped field found _ _ entries made
  · intro key entries found made
    rw [keyDictionary, found, ok_bind] at made
    exact keep_iff made

/-- The answer to a grouping by kind, of one car for each of some texts. -/
def kindOutcomes (texts : List String) : Outcomes :=
  [("groupby_kind", .terms (texts.map fun text => { key := text, docCount := 1 }))]

/-- The field of kinds, by its values. -/
def kindField (t : ValueType) : Field t := ⟨"kind", true⟩

/-- Two kinds are kept as texts by each dictionary. -/
theorem dictionaries_keep_texts :
    ∃ buckets counts entries named,
      groupBy (kindOutcomes ["Sedan", "Coupe"]) (kindField .text) = .ok buckets ∧
      dictionaryMap (kindOutcomes ["Sedan", "Coupe"]) (kindField .text)
        (fun _ bucket => bucket.docCount) =
        .ok counts ∧
      counts.Keep (ValueType.keyReader .text) (fun _ bucket => bucket.docCount) buckets ∧
      dictionary (kindOutcomes ["Sedan", "Coupe"]) (kindField .text) = .ok entries ∧
      entries.Keep (ValueType.keyReader .text) (fun _ bucket => bucket) buckets ∧
      keyDictionary (kindOutcomes ["Sedan", "Coupe"]) "groupby_kind" .text = .ok named ∧
      named.Keep (ValueType.keyReader .text) (fun _ bucket => bucket) buckets := by
  obtain ⟨buckets, counts, entries, named, found, counted, made, foundByKey, madeByKey, distinct⟩ :
      ∃ buckets counts entries named,
      groupBy (kindOutcomes ["Sedan", "Coupe"]) (kindField .text) = .ok buckets ∧
      dictionaryMap (kindOutcomes ["Sedan", "Coupe"]) (kindField .text)
        (fun _ bucket => bucket.docCount) =
        .ok counts ∧
      dictionary (kindOutcomes ["Sedan", "Coupe"]) (kindField .text) = .ok entries ∧
      groupByKey (kindOutcomes ["Sedan", "Coupe"]) "groupby_kind" = .ok buckets ∧
      keyDictionary (kindOutcomes ["Sedan", "Coupe"]) "groupby_kind" .text = .ok named ∧
      (buckets.map Bucket.key).Nodup := ⟨_, _, _, _, rfl, rfl, rfl, rfl, rfl, by decide⟩
  obtain ⟨byField, byKey, textual⟩ :=
    dictionaries_keep_iff .text (kindOutcomes ["Sedan", "Coupe"]) buckets
  have apart : ReadApart .text buckets := textual rfl distinct
  refine ⟨buckets, counts, entries, named, found, counted, ?_, made, ?_, madeByKey, ?_⟩
  · exact ((byField _ found).1 _ _ counts counted).mpr apart
  · exact ((byField _ found).2 entries made).mpr apart
  · exact (byKey _ named foundByKey madeByKey).mpr apart

/-- The kinds of cars. -/
def carKinds : Enumeration := ⟨"CarKind", ["Sedan", "Coupe"]⟩

/-- Of two spellings of one kind the later is kept alone. -/
theorem spellings_share_an_entry :
    ∃ buckets entries,
      groupBy (kindOutcomes ["Sedan", "sedan"]) (kindField (.choice carKinds)) = .ok buckets ∧
      (∀ bucket ∈ buckets, bucket.rawKey = none) ∧ (buckets.map Bucket.key).Nodup ∧
      dictionary (kindOutcomes ["Sedan", "sedan"]) (kindField (.choice carKinds)) = .ok entries ∧
      buckets.length = 2 ∧ entries.length = 1 ∧
      ¬ entries.Keep (ValueType.keyReader (.choice carKinds)) (fun _ bucket => bucket) buckets := by
  refine ⟨_, _, rfl, ?_, by decide, rfl, rfl, rfl, fun kept => ?_⟩
  · intro bucket member
    obtain ⟨text, _, rfl⟩ := List.mem_map.mp member
    rfl
  · cases kept.1

end Reading

end FacetQuery
