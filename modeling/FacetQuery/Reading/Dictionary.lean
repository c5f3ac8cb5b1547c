/-
**Buckets by their keys.**

A dictionary of buckets has an entry for each key that was read; of several buckets with one key the
last counts. Every key has to be readable, and the first that is not decides the failure.

The projection of a bucket may depend on the bucket's place, counted from zero.
-/

import FacetQuery.Reading.Lookup

namespace FacetQuery.Reading

variable {κ α β : Type}

/-- Entries with different keys. -/
abbrev Entries (κ β : Type) := List (κ × β)

namespace Entries

/-- Write an entry, over any earlier one of the same key. -/
def put [DecidableEq κ] (key : κ) (value : β) : Entries κ β → Entries κ β
  | [] => [(key, value)]
  | (other, old) :: rest =>
    if other = key then (key, value) :: rest else (other, old) :: put key value rest

/-- The value of a key. -/
def get? [DecidableEq κ] (key : κ) : Entries κ β → Option β
  | [] => none
  | (other, value) :: rest => if other = key then some value else get? key rest

/-- The entries of a list of pairs, of which the later counts. -/
def ofPairs [DecidableEq κ] (pairs : List (κ × β)) : Entries κ β :=
  pairs.foldl (fun entries pair => put pair.1 pair.2 entries) []

theorem get?_put [DecidableEq κ] (key asked : κ) (value : β) (entries : Entries κ β) :
    get? asked (put key value entries) =
      if key = asked then some value else get? asked entries := by
  induction entries with
  | nil => simp [put, get?]
  | cons head rest later =>
    obtain ⟨other, old⟩ := head
    by_cases same : other = key
    · subst same
      by_cases here : other = asked <;> simp [put, get?, here]
    · rw [put, if_neg same, get?, later, get?]
      by_cases here : other = asked
      · have apart : key ≠ asked := fun eq => same (here.trans eq.symm)
        rw [if_pos here, if_neg apart, if_pos here]
      · rw [if_neg here, if_neg here]

end Entries

/-- The keys of some buckets with what is made of each, from a place on. -/
def keyedFrom (reader : KeyReader κ) (project : Nat → Bucket α → β) :
    Nat → List (Bucket α) → Except Failure (List (κ × β))
  | _, [] => .ok []
  | place, bucket :: rest => do
    let key ← bucket.readKey reader
    let later ← keyedFrom reader project (place + 1) rest
    return (key, project place bucket) :: later

/-- The dictionary of some buckets. -/
def keyed [DecidableEq κ] (reader : KeyReader κ) (project : Nat → Bucket α → β)
    (buckets : List (Bucket α)) : Except Failure (Entries κ β) :=
  (keyedFrom reader project 0 buckets).map Entries.ofPairs

variable {t : ValueType}

/-- What is made of the buckets of a grouping by a field, by keys of the field's type. -/
def dictionaryMap (outcomes : Outcomes) (field : Field t) (project : Nat → Bucket Outcome → β) :
    Except Failure (Entries t.Carrier β) := do
  keyed t.keyReader project (← groupBy outcomes field)

/-- The buckets of a grouping by a field, by keys of the field's type. -/
def dictionary (outcomes : Outcomes) (field : Field t) :
    Except Failure (Entries t.Carrier (Bucket Outcome)) :=
  dictionaryMap outcomes field fun _ bucket => bucket

/-- The buckets of a grouping by a field, by keys that the caller reads. -/
def dictionaryBy [DecidableEq κ] (outcomes : Outcomes) (field : Field t) (reader : KeyReader κ) :
    Except Failure (Entries κ (Bucket Outcome)) := do
  keyed reader (fun _ bucket => bucket) (← groupBy outcomes field)

/-- The buckets of a grouping by a key, by keys of a type. -/
def keyDictionary (outcomes : Outcomes) (key : String) (t : ValueType) :
    Except Failure (Entries t.Carrier (Bucket Outcome)) := do
  keyed t.keyReader (fun _ bucket => bucket) (← groupByKey outcomes key)

end FacetQuery.Reading
