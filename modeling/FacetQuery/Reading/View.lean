/-
**Watched reading.**

A view is one level of answers and whether someone watches. Each read through a view has the result
of the same read of the answers, and reports one event about it: under the name it looked for,
found, absent, or failed. A read whose name cannot be derived reports nothing.
-/

import FacetQuery.Reading.Dictionary
import FacetQuery.Trace.Basic

namespace FacetQuery

/-- One level of answers. -/
structure View where
  outcomes : Outcomes
  watching : Bool := false

namespace View

variable {t : ValueType} {α β κ : Type}

/-- The level inside a bucket, watched as this one is. -/
def inside (view : View) (bucket : Bucket Outcome) : View :=
  { view with outcomes := bucket.outcomes }

/-- The event about a read under a name; `present` tells whether a value stands for an answer. -/
def eventOf (kind : FacetKind) (name : String) (present : α → Bool) : Except Failure α → Event
  | .ok value => if present value then .found kind name else .absent kind name
  | .error failure =>
    if failure.isMissing then .absent kind name else .failed kind name failure.kind

/-- A result with the event about it. -/
def report (view : View) (kind : FacetKind) (name : Except Failure String) (present : α → Bool)
    (result : Except Failure α) : Watched α :=
  ⟨result, match view.watching, name with
    | true, .ok name => [eventOf kind name present result]
    | _, _ => []⟩

/-- A read for a field and a filter, with the event about it. -/
def reported (view : View) (kind : FacetKind) (field : Field t) (filter : Option Predicate)
    (result : Except Failure α) : Watched α :=
  view.report kind (Reading.lookupName field kind filter) (fun _ => true) result

/-- A metric as a number of a type. -/
def metric (view : View) (kind : FacetKind) (target : NumberType) (field : Field t)
    (filter : Option Predicate) : Watched target.Carrier :=
  view.reported kind field filter (Reading.metric view.outcomes kind target field filter)

/-- The number of values, if it was returned. -/
def count (view : View) (field : Field t) (filter : Option Predicate) : Watched (Option UInt64) :=
  view.report .count (Reading.lookupName field .count filter) Option.isSome
    (Reading.count view.outcomes field filter)

/-- The number of different values. -/
def cardinality (view : View) (field : Field t) (filter : Option Predicate) : Watched UInt64 :=
  view.reported .cardinality field filter (Reading.cardinality view.outcomes field filter)

/-- The different values, each read by itself. -/
def distinct (view : View) (field : Field t) (filter : Option Predicate) :
    Watched (List (Except Failure t.Carrier)) :=
  view.reported .distinct field filter (Reading.distinct view.outcomes field filter)

/-- The percentiles. -/
def percentiles (view : View) (field : Field t) (filter : Option Predicate) :
    Watched (List PercentileValue) :=
  view.reported .percentiles field filter (Reading.percentiles view.outcomes field filter)

/-- The statistics. -/
def stats (view : View) (field : Field t) (filter : Option Predicate) : Watched Statistics :=
  view.reported .stats field filter (Reading.stats view.outcomes field filter)

/-- The value of a field in the first hit. -/
def firstBy (view : View) (target : SourceType) (field : Field t) (filter : Option Predicate) :
    Watched (Option target.Carrier) :=
  view.reported .firstBy field filter (Reading.firstBy view.outcomes target field filter)

/-- The buckets of a grouping by a field. -/
def groupBy (view : View) (field : Field t) : Watched (List (Bucket Outcome)) :=
  view.reported .groupBy field none (Reading.groupBy view.outcomes field)

/-- The buckets of a grouping by a key. -/
def groupByKey (view : View) (key : String) : Watched (List (Bucket Outcome)) :=
  view.report .groupBy (.ok key) (fun _ => true) (Reading.groupByKey view.outcomes key)

/-- What is made of the buckets of a grouping. -/
def groupByMap (view : View) (field : Field t) (project : Bucket Outcome → β) : Watched (List β) :=
  view.reported .groupBy field none (Reading.groupByMap view.outcomes field project)

/-- The buckets of a grouping by a field, by keys of the field's type. -/
def dictionary (view : View) (field : Field t) :
    Watched (Reading.Entries t.Carrier (Bucket Outcome)) :=
  view.reported .groupBy field none (Reading.dictionary view.outcomes field)

/-- What is made of the buckets of a grouping by a field, by keys of the field's type. -/
def dictionaryMap (view : View) (field : Field t) (project : Nat → Bucket Outcome → β) :
    Watched (Reading.Entries t.Carrier β) :=
  view.reported .groupBy field none (Reading.dictionaryMap view.outcomes field project)

/-- The buckets of a grouping by a field, by keys that the caller reads. -/
def dictionaryBy [DecidableEq κ] (view : View) (field : Field t) (reader : KeyReader κ) :
    Watched (Reading.Entries κ (Bucket Outcome)) :=
  view.reported .groupBy field none (Reading.dictionaryBy view.outcomes field reader)

/-- The buckets of a grouping by a key, by keys of a type. -/
def keyDictionary (view : View) (key : String) (t : ValueType) :
    Watched (Reading.Entries t.Carrier (Bucket Outcome)) :=
  view.report .groupBy (.ok key) (fun _ => true) (Reading.keyDictionary view.outcomes key t)

/-- The view as a line of a report. -/
def describe (view : View) : String :=
  "AggsContainer \x7b aggregates: " ++ toString view.outcomes.length ++
    ", tracer: Tracer \x7b enabled: " ++ toString view.watching ++ " \x7d \x7d"

end View

end FacetQuery
