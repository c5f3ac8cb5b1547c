/-
**Reading answers.**

Every read derives the name under which the answer was requested, from the same field, kind and
filter, and finds the answer under it, inside its filter if it has one (`locate`). What is read then
depends on the kind: an absent answer is missing, except that a count may be absent, and an answer
of another shape is malformed.
-/

import FacetQuery.Clause.OfPredicate
import FacetQuery.Facet.Name
import FacetQuery.Json.Pointer
import FacetQuery.Json.Printer
import FacetQuery.Reading.Key
import FacetQuery.Reading.Source

namespace FacetQuery.Reading

variable {t : ValueType} {α β : Type}

/-! ### Finding an answer -/

/-- The name of an aggregation at its own level: the derived one, or that of its filter. -/
def lookupName (field : Field t) (kind : FacetKind) (filter : Option Predicate) :
    Except Failure String := do
  let name ← FacetName.ofField field.ref kind
  match filter with
  | none => return name
  | some predicate =>
    let clause ← Clause.ofPredicate predicate
    return FacetName.scope name clause.fingerprint

/-- What was found under a name. -/
structure Found where
  name : String
  outcome? : Option Outcome

namespace Found

/-- The answer, which has to be there. -/
def outcome (found : Found) : Except Failure Outcome :=
  match found.outcome? with
  | some outcome => .ok outcome
  | none => .error (.missing found.name)

/-- What `read` takes from an answer, which has to be there and of the expected shape. -/
def expect (found : Found) (expected : OutcomeKind) (read : Outcome → Option α) :
    Except Failure α := do
  let outcome ← found.outcome
  match read outcome with
  | some value => return value
  | none => .error (.malformed found.name (.mismatch expected outcome.kind))

end Found

/-- The answer for a field, a kind and a filter, if there is one. -/
def locate (outcomes : Outcomes) (field : Field t) (kind : FacetKind) (filter : Option Predicate) :
    Except Failure Found := do
  let name ← FacetName.ofField field.ref kind
  match filter with
  | none => return ⟨name, Dict.find? name outcomes⟩
  | some predicate =>
    let clause ← Clause.ofPredicate predicate
    let scope := FacetName.scope name clause.fingerprint
    match Dict.find? scope outcomes with
    | some (.filter _ inner) => return ⟨scope, Dict.find? name inner⟩
    | some other => .error (.malformed scope (.mismatch .filter other.kind))
    | none => return ⟨scope, none⟩

/-! ### Single values -/

/-- A metric as a number of a type. -/
def metric (outcomes : Outcomes) (kind : FacetKind) (target : NumberType) (field : Field t)
    (filter : Option Predicate) : Except Failure target.Carrier := do
  let found ← locate outcomes field kind filter
  let value ← found.expect .metric fun
    | .metric value => some value
    | _ => none
  match value with
  | none => .error (.missing found.name)
  | some x =>
    match target.ofDouble? x with
    | some number => return number
    | none => .error (.conversion (Layout.message.write x) target.label)

/-- The number of values, if it was returned. -/
def count (outcomes : Outcomes) (field : Field t) (filter : Option Predicate) :
    Except Failure (Option UInt64) := do
  let found ← locate outcomes field .count filter
  match found.outcome? with
  | none => return none
  | some (.valueCount n) => return some n
  | some other => .error (.malformed found.name (.mismatch .valueCount other.kind))

/-- The number of different values. -/
def cardinality (outcomes : Outcomes) (field : Field t) (filter : Option Predicate) :
    Except Failure UInt64 := do
  let found ← locate outcomes field .cardinality filter
  found.expect .cardinality fun
    | .cardinality n => some n
    | _ => none

/-- The percentiles. -/
def percentiles (outcomes : Outcomes) (field : Field t) (filter : Option Predicate) :
    Except Failure (List PercentileValue) := do
  let found ← locate outcomes field .percentiles filter
  found.expect .percentiles fun
    | .percentiles items => some items
    | _ => none

/-- The statistics. -/
def stats (outcomes : Outcomes) (field : Field t) (filter : Option Predicate) :
    Except Failure Statistics := do
  let found ← locate outcomes field .stats filter
  found.expect .stats fun
    | .stats statistics => some statistics
    | _ => none

/-- A value of a document as `read` makes it out; nothing for no value and for null. The label names
in messages what it is read as. -/
def converted (label : String) (read : Json → Option α) : Option Json → Except Failure (Option α)
  | none => .ok none
  | some value =>
    if value.isNull then .ok none
    else match read value with
      | some result => .ok (some result)
      | none => .error (.conversion value.text label)

/-- What the pointer of a field leads to in the first hit, as `read` makes it out. -/
def firstAs (outcomes : Outcomes) (label : String) (read : Json → Option α) (field : Field t)
    (filter : Option Predicate) : Except Failure (Option α) := do
  let found ← locate outcomes field .firstBy filter
  let sources ← found.expect .topHits fun
    | .topHits sources => some sources
    | _ => none
  converted label read (sources.head?.bind (Json.follow? (Path.pointer field.path)))

/-- The value of a field in the first hit; nothing if there is no hit or no value in it. -/
def firstBy (outcomes : Outcomes) (target : SourceType) (field : Field t)
    (filter : Option Predicate) : Except Failure (Option target.Carrier) :=
  firstAs outcomes target.label target.ofJson? field filter

/-! ### Buckets -/

/-- The buckets under a name. -/
def buckets (outcomes : Outcomes) (name : String) : Except Failure (List (Bucket Outcome)) :=
  Found.expect ⟨name, Dict.find? name outcomes⟩ .terms fun
    | .terms buckets => some buckets
    | _ => none

/-- The different values, each read by itself. -/
def distinct (outcomes : Outcomes) (field : Field t) (filter : Option Predicate) :
    Except Failure (List (Except Failure t.Carrier)) := do
  let found ← locate outcomes field .distinct filter
  let buckets ← found.expect .terms fun
    | .terms buckets => some buckets
    | _ => none
  return buckets.map (Bucket.readKey t.keyReader)

/-- The buckets of a grouping by a field. -/
def groupBy (outcomes : Outcomes) (field : Field t) : Except Failure (List (Bucket Outcome)) := do
  let name ← FacetName.ofField field.ref .groupBy
  buckets outcomes name

/-- The buckets of a grouping by a key. -/
def groupByKey (outcomes : Outcomes) (key : String) : Except Failure (List (Bucket Outcome)) :=
  buckets outcomes key

/-- What is made of the buckets of a grouping. -/
def groupByMap (outcomes : Outcomes) (field : Field t) (project : Bucket Outcome → β) :
    Except Failure (List β) :=
  (groupBy outcomes field).map (·.map project)

end FacetQuery.Reading
