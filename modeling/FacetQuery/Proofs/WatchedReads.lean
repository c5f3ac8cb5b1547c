/-
**Watched reads.**

A read through a view is the same read of the answers, and one who watches sees one event about it.
The event has a name that is derived beside the read, while the failures of the read have names that
it came by itself; the two are one name, whichever way a read ends.

* `Extraction` — **the reads of a level**, each with its arguments.
* `Subject` — what a read asks for, and the name of that.
* `Failure.About` — **a failure under a name**: it has that name, or it is about one value alone.
* `Extraction.onlyFails_plain` — reads fail in no other way, once there is a name.
* `View.watching_adds_events` — **watching adds events and nothing else.**
-/

import FacetQuery.Proofs.Resolution
import FacetQuery.Reading.View

namespace FacetQuery

/-! ### Reads -/

/-- What a read asks for: an answer for a field and a filter, or the grouping by a key. -/
inductive Subject where
  | field {t : ValueType} (field : Field t) (filter : Option Predicate)
  | key (key : String)

namespace Subject

/-- The name under which a read of a kind looks. -/
def name (kind : FacetKind) : Subject → Except Failure String
  | field source filter => Reading.lookupName source kind filter
  | key text => .ok text

/-- There is a name to look under: the path is one and the filter, if there is one, compiles. -/
def Named : Subject → Prop
  | field source filter =>
    Path.check source.path = .ok () ∧
      ∀ predicate, filter = some predicate → ∃ clause, Clause.ofPredicate predicate = .ok clause
  | key _ => True

theorem named_iff {subject : Subject} (kind : FacetKind) :
    subject.Named ↔ ∃ name, subject.name kind = .ok name := by
  cases subject with
  | key text => exact ⟨fun _ => ⟨text, rfl⟩, fun _ => trivial⟩
  | field source filter =>
    simp only [Named, name, Reading.lookupName_eq_ok]
    cases filter with
    | none => simp
    | some predicate =>
      simp only [mapM_some_eq_ok, Option.some.injEq, forall_eq']
      constructor
      · rintro ⟨valid, clause, compiled⟩
        exact ⟨_, valid, some clause, ⟨clause, compiled, rfl⟩, rfl⟩
      · rintro ⟨_, valid, _, ⟨clause, compiled, _⟩, _⟩
        exact ⟨valid, clause, compiled⟩

end Subject

/-- **The reads of a level of answers**, each with its arguments. -/
inductive Extraction : Type → Type 1 where
  | metric {t : ValueType} (kind : FacetKind) (target : NumberType) (field : Field t)
      (filter : Option Predicate) : Extraction target.Carrier
  | count {t : ValueType} (field : Field t) (filter : Option Predicate) : Extraction (Option UInt64)
  | cardinality {t : ValueType} (field : Field t) (filter : Option Predicate) : Extraction UInt64
  | distinct {t : ValueType} (field : Field t) (filter : Option Predicate) :
      Extraction (List (Except Failure t.Carrier))
  | percentiles {t : ValueType} (field : Field t) (filter : Option Predicate) :
      Extraction (List PercentileValue)
  | stats {t : ValueType} (field : Field t) (filter : Option Predicate) : Extraction Statistics
  | firstBy {t : ValueType} (target : SourceType) (field : Field t) (filter : Option Predicate) :
      Extraction (Option target.Carrier)
  | groupBy {t : ValueType} (field : Field t) : Extraction (List (Bucket Outcome))
  | groupByKey (key : String) : Extraction (List (Bucket Outcome))
  | groupByMap {t : ValueType} {β : Type} (field : Field t) (project : Bucket Outcome → β) :
      Extraction (List β)
  | dictionary {t : ValueType} (field : Field t) :
      Extraction (Reading.Entries t.Carrier (Bucket Outcome))
  | dictionaryMap {t : ValueType} {β : Type} (field : Field t)
      (project : Nat → Bucket Outcome → β) :
      Extraction (Reading.Entries t.Carrier β)
  | dictionaryBy {t : ValueType} {κ : Type} [DecidableEq κ] (field : Field t)
      (reader : KeyReader κ) :
      Extraction (Reading.Entries κ (Bucket Outcome))
  | keyDictionary (key : String) (t : ValueType) :
      Extraction (Reading.Entries t.Carrier (Bucket Outcome))

namespace Extraction

/-- What a read gives, of some answers. -/
def plain {α : Type} (outcomes : Outcomes) : Extraction α → Except Failure α
  | metric kind target field filter => Reading.metric outcomes kind target field filter
  | count field filter => Reading.count outcomes field filter
  | cardinality field filter => Reading.cardinality outcomes field filter
  | distinct field filter => Reading.distinct outcomes field filter
  | percentiles field filter => Reading.percentiles outcomes field filter
  | stats field filter => Reading.stats outcomes field filter
  | firstBy target field filter => Reading.firstBy outcomes target field filter
  | groupBy field => Reading.groupBy outcomes field
  | groupByKey key => Reading.groupByKey outcomes key
  | groupByMap field project => Reading.groupByMap outcomes field project
  | dictionary field => Reading.dictionary outcomes field
  | dictionaryMap field project => Reading.dictionaryMap outcomes field project
  | dictionaryBy field reader => Reading.dictionaryBy outcomes field reader
  | keyDictionary key t => Reading.keyDictionary outcomes key t

/-- What a read gives through a view. -/
def watched {α : Type} (view : View) : Extraction α → Watched α
  | metric kind target field filter => view.metric kind target field filter
  | count field filter => view.count field filter
  | cardinality field filter => view.cardinality field filter
  | distinct field filter => view.distinct field filter
  | percentiles field filter => view.percentiles field filter
  | stats field filter => view.stats field filter
  | firstBy target field filter => view.firstBy target field filter
  | groupBy field => view.groupBy field
  | groupByKey key => view.groupByKey key
  | groupByMap field project => view.groupByMap field project
  | dictionary field => view.dictionary field
  | dictionaryMap field project => view.dictionaryMap field project
  | dictionaryBy field reader => view.dictionaryBy field reader
  | keyDictionary key t => view.keyDictionary key t

/-- The kind of the answer that a read asks for. -/
def kind {α : Type} : Extraction α → FacetKind
  | metric kind .. => kind
  | count .. => .count
  | cardinality .. => .cardinality
  | distinct .. => .distinct
  | percentiles .. => .percentiles
  | stats .. => .stats
  | firstBy .. => .firstBy
  | groupBy .. | groupByKey .. | groupByMap .. => .groupBy
  | dictionary .. | dictionaryMap .. | dictionaryBy .. | keyDictionary .. => .groupBy

/-- What a read asks for. -/
def subject {α : Type} : Extraction α → Subject
  | metric _ _ field filter => .field field filter
  | count field filter => .field field filter
  | cardinality field filter => .field field filter
  | distinct field filter => .field field filter
  | percentiles field filter => .field field filter
  | stats field filter => .field field filter
  | firstBy _ field filter => .field field filter
  | groupBy field => .field field none
  | groupByKey key => .key key
  | groupByMap field _ => .field field none
  | dictionary field => .field field none
  | dictionaryMap field _ => .field field none
  | dictionaryBy field _ => .field field none
  | keyDictionary key _ => .key key

/-- Whether a value stands for an answer, as all do but the count that was not returned. -/
def present {α : Type} : Extraction α → α → Bool
  | count .. => Option.isSome
  | _ => fun _ => true

/-- The name under which a read looks. -/
def name {α : Type} (call : Extraction α) : Except Failure String := call.subject.name call.kind

/-- A read through a view is the read of its answers, reported under the read's own name. -/
theorem watched_eq {α : Type} (view : View) (call : Extraction α) :
    call.watched view =
      view.report call.kind call.name call.present (call.plain view.outcomes) := by
  cases call <;> rfl

end Extraction

/-! ### Failures under a name -/

/-- **A failure under a name**: an answer of that name is missing or malformed, or a value cannot be
converted, whatever its name. -/
def Failure.About (name : String) : Failure → Prop
  | missing place => place = name
  | malformed place _ => place = name
  | conversion _ _ => True
  | _ => False

namespace Reading

variable {t : ValueType} {α β κ : Type} {outcomes : Outcomes} {field : Field t} {kind : FacetKind}
  {filter : Option Predicate} {name : String}

/-- **An answer is looked for under the derived name**: what is found has that name, and so has what
is there in place of a filter. -/
theorem locate_of_lookupName (outcomes : Outcomes)
    (named : lookupName field kind filter = .ok name) :
    (∃ outcome?, locate outcomes field kind filter = .ok ⟨name, outcome?⟩) ∨
      ∃ reason, locate outcomes field kind filter = .error (.malformed name reason) := by
  obtain ⟨valid, clause, compiled, rfl⟩ := lookupName_eq_ok.mp named
  have derived : FacetName.ofField field.ref kind = .ok (FacetName.derive kind field.path) :=
    FacetName.ofField_eq_ok.mpr ⟨valid, rfl⟩
  unfold locate
  rw [derived, ok_bind]
  cases filter with
  | none =>
    rw [mapM_none, Except.ok.injEq] at compiled
    subst compiled
    exact .inl ⟨_, rfl⟩
  | some predicate =>
    obtain ⟨inner, made, rfl⟩ := mapM_some_eq_ok.mp compiled
    dsimp only [FacetName.outer]
    rw [made, ok_bind]
    split
    · exact .inl ⟨_, rfl⟩
    · exact .inr ⟨_, rfl⟩
    · exact .inl ⟨_, rfl⟩

/-- What is read of a located answer fails under the derived name, if it does under the name of what
was found. -/
theorem onlyFails_locate_bind {read : Found → Except Failure α}
    (named : lookupName field kind filter = .ok name)
    (each : ∀ outcome?, OnlyFails (Failure.About name) (read ⟨name, outcome?⟩)) :
    OnlyFails (Failure.About name) (locate outcomes field kind filter >>= read) := by
  rcases locate_of_lookupName outcomes named with ⟨outcome?, located⟩ | ⟨reason, located⟩
  · rw [located, ok_bind]
    exact each outcome?
  · rw [located, error_bind]
    exact .error rfl

/-- An answer that has to be of a shape is missing or malformed under its own name. -/
theorem onlyFails_expect (found : Found) (expected : OutcomeKind) (read : Outcome → Option α) :
    OnlyFails (Failure.About found.name) (found.expect expected read) := by
  unfold Found.expect Found.outcome
  cases found.outcome? with
  | none => exact .error rfl
  | some outcome =>
    rw [ok_bind]
    cases read outcome with
    | none => exact .error rfl
    | some value => exact .ok value

/-- The buckets under a name fail under that name. -/
theorem onlyFails_buckets (outcomes : Outcomes) (name : String) :
    OnlyFails (Failure.About name) (buckets outcomes name) := onlyFails_expect ⟨name, _⟩ _ _

/-- The buckets of a grouping by a field fail under the derived name. -/
theorem onlyFails_groupBy (named : lookupName field .groupBy none = .ok name) :
    OnlyFails (Failure.About name) (groupBy outcomes field) := by
  obtain ⟨valid, _, compiled, rfl⟩ := lookupName_eq_ok.mp named
  rw [mapM_none, Except.ok.injEq] at compiled
  subst compiled
  have derived :
      FacetName.ofField field.ref .groupBy = .ok (FacetName.derive .groupBy field.path) :=
    FacetName.ofField_eq_ok.mpr ⟨valid, rfl⟩
  rw [groupBy, derived, ok_bind]
  exact onlyFails_buckets outcomes _

theorem onlyFails_readKey (reader : KeyReader κ) (bucket : Bucket α) :
    OnlyFails (Failure.About name) (bucket.readKey reader) := by
  unfold Bucket.readKey
  split
  · exact .ok _
  · exact .error trivial

theorem onlyFails_keyedFrom (reader : KeyReader κ) (project : Nat → Bucket α → β) (place : Nat)
    (buckets : List (Bucket α)) :
    OnlyFails (Failure.About name) (keyedFrom reader project place buckets) := by
  induction buckets generalizing place with
  | nil => exact .ok []
  | cons bucket rest later =>
    rw [keyedFrom]
    exact (onlyFails_readKey reader bucket).bind fun _ => (later (place + 1)).bind fun _ => .ok _

/-- A dictionary of buckets fails, beyond the buckets, in the conversion of a key alone. -/
theorem onlyFails_keyed [DecidableEq κ] (reader : KeyReader κ) (project : Nat → Bucket α → β)
    (buckets : List (Bucket α)) : OnlyFails (Failure.About name) (keyed reader project buckets) :=
  (onlyFails_keyedFrom reader project 0 buckets).map

/-- A metric fails under the derived name, also when it is there without a value. -/
theorem onlyFails_metric (target : NumberType) (named : lookupName field kind filter = .ok name) :
    OnlyFails (Failure.About name) (metric outcomes kind target field filter) := by
  refine onlyFails_locate_bind named fun outcome? =>
    (onlyFails_expect ⟨name, outcome?⟩ _ _).bind fun value => ?_
  split
  · exact .error rfl
  · split
    · exact .ok _
    · exact .error trivial

/-- A count fails under the derived name; it is not missing when it is not there. -/
theorem onlyFails_count (named : lookupName field .count filter = .ok name) :
    OnlyFails (Failure.About name) (count outcomes field filter) := by
  refine onlyFails_locate_bind named fun outcome? => ?_
  simp only
  split
  · exact .ok _
  · exact .ok _
  · exact .error rfl

/-- The first hit fails under the derived name, or in the conversion of its value. -/
theorem onlyFails_firstBy (target : SourceType)
    (named : lookupName field .firstBy filter = .ok name) :
    OnlyFails (Failure.About name) (firstBy outcomes target field filter) := by
  refine onlyFails_locate_bind named fun outcome? =>
    (onlyFails_expect ⟨name, outcome?⟩ _ _).bind fun sources => ?_
  unfold converted
  split
  · exact .ok _
  · split
    · exact .ok _
    · split
      · exact .ok _
      · exact .error trivial

end Reading

namespace Extraction

variable {α : Type}

/-- **Every read fails under its name**, once it has one. -/
theorem onlyFails_plain (outcomes : Outcomes) (call : Extraction α) {name : String}
    (named : call.name = .ok name) : OnlyFails (Failure.About name) (call.plain outcomes) := by
  cases call with
  | metric kind target field filter => exact Reading.onlyFails_metric target named
  | count field filter => exact Reading.onlyFails_count named
  | cardinality field filter =>
    exact Reading.onlyFails_locate_bind named fun outcome? =>
      Reading.onlyFails_expect ⟨name, outcome?⟩ _ _
  | distinct field filter =>
    exact Reading.onlyFails_locate_bind named fun outcome? =>
      (Reading.onlyFails_expect ⟨name, outcome?⟩ _ _).bind fun _ => .ok _
  | percentiles field filter =>
    exact Reading.onlyFails_locate_bind named fun outcome? =>
      Reading.onlyFails_expect ⟨name, outcome?⟩ _ _
  | stats field filter =>
    exact Reading.onlyFails_locate_bind named fun outcome? =>
      Reading.onlyFails_expect ⟨name, outcome?⟩ _ _
  | firstBy target field filter => exact Reading.onlyFails_firstBy target named
  | groupBy field => exact Reading.onlyFails_groupBy named
  | groupByMap field project => exact (Reading.onlyFails_groupBy named).map
  | dictionary field =>
    exact (Reading.onlyFails_groupBy named).bind fun _ => Reading.onlyFails_keyed _ _ _
  | dictionaryMap field project =>
    exact (Reading.onlyFails_groupBy named).bind fun _ => Reading.onlyFails_keyed _ _ _
  | dictionaryBy field reader =>
    exact (Reading.onlyFails_groupBy named).bind fun _ => Reading.onlyFails_keyed _ _ _
  | groupByKey key =>
    obtain rfl : key = name := Except.ok.inj named
    exact Reading.onlyFails_buckets outcomes key
  | keyDictionary key t =>
    obtain rfl : key = name := Except.ok.inj named
    exact (Reading.onlyFails_buckets outcomes key).bind fun _ => Reading.onlyFails_keyed _ _ _

end Extraction

/-! ### Events -/

/-- **An event says how a read ended**: that an answer was found exactly if there is a value that
stands for one, that it was absent exactly if a value stands for none or the answer is missing, and
that the read failed, with the class of its failure, in all other cases. -/
structure Event.Describes {α : Type} (kind : FacetKind) (name : String) (present : α → Bool)
    (result : Except Failure α) (event : Event) : Prop where
  found : event = .found kind name ↔ ∃ value, result = .ok value ∧ present value = true
  absent : event = .absent kind name ↔
    (∃ value, result = .ok value ∧ present value = false) ∨
      ∃ place, result = .error (.missing place)
  failed : ∀ failureKind, event = .failed kind name failureKind ↔
    ∃ failure, result = .error failure ∧ failure.kind ≠ .missing ∧ failure.kind = failureKind

namespace View

variable {α : Type}

theorem describes_eventOf (kind : FacetKind) (name : String) (present : α → Bool)
    (result : Except Failure α) :
    (eventOf kind name present result).Describes kind name present result := by
  unfold eventOf
  cases result with
  | ok value => cases held : present value <;> constructor <;> simp [held]
  | error failure =>
    cases failure <;> constructor <;> simp [Failure.isMissing, Failure.kind]

/-- **Watching adds events and nothing else.** Every read through a view gives what it gives of the
answers themselves. One who does not watch sees nothing, and neither does one who watches a read
that has no name, because its path is none or its filter does not compile. One who watches a read
with a name sees one event under that name, which says how the read ended; and an answer that is
missing or malformed is so under the same name. -/
theorem watching_adds_events (view : View) (call : Extraction α) :
    (call.watched view).result = call.plain view.outcomes ∧
      (view.watching = false ∨ ¬ call.subject.Named → (call.watched view).events = []) ∧
      (call.subject.Named → ∃ name, call.name = .ok name ∧
        (view.watching = true → ∃ event, (call.watched view).events = [event] ∧
          event.Describes call.kind name call.present (call.plain view.outcomes)) ∧
        ∀ place, (call.plain view.outcomes = .error (.missing place) ∨
          ∃ reason, call.plain view.outcomes = .error (.malformed place reason)) →
            place = name) := by
  rw [call.watched_eq]
  refine ⟨rfl, ?_, fun named => ?_⟩
  · rintro (unwatched | unnamed)
    · unfold report
      rw [unwatched]
    · cases derived : call.name with
      | ok name => exact (unnamed ((Subject.named_iff call.kind).mpr ⟨name, derived⟩)).elim
      | error failure =>
        unfold report
        cases view.watching <;> rfl
  · obtain ⟨name, derived⟩ := (Subject.named_iff call.kind).mp named
    have fails := call.onlyFails_plain view.outcomes derived
    refine ⟨name, derived, fun watched => ?_, ?_⟩
    · refine ⟨eventOf call.kind name call.present (call.plain view.outcomes), ?_,
        describes_eventOf _ _ _ _⟩
      unfold report
      rw [watched, show call.name = .ok name from derived]
    · rintro place (missing | ⟨reason, malformed⟩)
      · exact fails _ missing
      · exact fails _ malformed

/-- Answers in which cars were sold, but none with a price. -/
def soldOutcomes : Outcomes :=
  [("filter_sum_price_39bcbc9af2a9a0bb", .filter 1 [("sum_price", .metric none)])]

/-- The sum of the prices of sold cars. -/
def soldPrices : Extraction (NumberType.integer (.signed .eight)).Carrier :=
  .metric .sum (.integer (.signed .eight)) (⟨"price", true⟩ : Field .int64)
    (some (.flag ⟨"sold", .bool, true⟩))

/-- A sum without a value is missing, and is seen to be absent, under the name of its filter. -/
theorem watching_adds_events_soldPrices :
    ∃ name, soldPrices.name = .ok name ∧ soldPrices.plain soldOutcomes = .error (.missing name) ∧
      (soldPrices.watched ⟨soldOutcomes, true⟩).result = .error (.missing name) ∧
      (soldPrices.watched ⟨soldOutcomes, true⟩).events = [.absent .sum name] := by
  obtain ⟨same, _, seen⟩ := watching_adds_events ⟨soldOutcomes, true⟩ soldPrices
  have missing :
      soldPrices.plain soldOutcomes = .error (.missing "filter_sum_price_39bcbc9af2a9a0bb") :=
    failure?_eq_some.mp (by decide +kernel)
  obtain ⟨name, derived, reported, about⟩ :=
    seen ⟨rfl, fun predicate here => by cases here; exact ⟨_, rfl⟩⟩
  obtain rfl := about _ (.inl missing)
  obtain ⟨event, only, reports⟩ := reported rfl
  refine ⟨_, derived, missing, same.trans missing, ?_⟩
  rw [only, reports.absent.mpr (.inr ⟨_, missing⟩)]
  rfl

end View

end FacetQuery
