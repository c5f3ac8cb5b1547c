/-
**What else stands in a bucket.**

A bucket of a response is one object: its key, also as formatted text, and its number of documents
stand there beside the answers to what was asked for inside it. No name that is derived, and no name
of a filter, is that of such a member, so the two keep apart as long as no key inside a grouping has
such a name.

* `Outcome.ownMembers` — **the members that a bucket has of its own.**
* `Outcome.bucketKey_congr`, `Outcome.ofLevel_congr` — what is read depends on the members of these
  names, and of the names of the requests, alone.
* `Request.Nested` — **the levels inside groupings**, at any depth.
* `Facet.buckets_carry` — **a bucket can hold all that is asked for** beside its own members.
-/

import FacetQuery.Proofs.FacetLevels
import FacetQuery.Proofs.LevelAnswers
import FacetQuery.Proofs.LookupNames

namespace FacetQuery

/-! ### Dictionaries from functions -/

namespace Dict

variable {α : Type}

/-- The dictionary that has, for some names, what a function has for them. -/
def tabulate (value? : String → Option α) : List String → Dict α
  | [] => []
  | name :: rest =>
    match value? name with
    | none => tabulate value? rest
    | some value => insert name value (tabulate value? rest)

theorem find?_tabulate (value? : String → Option α) (names : List String) (name : String) :
    find? name (tabulate value? names) = if name ∈ names then value? name else none := by
  induction names with
  | nil => rfl
  | cons first rest later =>
    rw [tabulate]
    by_cases same : first = name
    · subst same
      rw [if_pos List.mem_cons_self]
      cases held : value? first with
      | none =>
        simp only [later, held]
        exact ite_self none
      | some value => exact find?_insert_self first value _
    · have behind : name ∈ first :: rest ↔ name ∈ rest := by
        rw [List.mem_cons, or_iff_right (Ne.symm same)]
      simp only [behind, ← later]
      cases value? first with
      | none => rfl
      | some value => exact (find?_insert first name value _).trans (if_neg same)

theorem ordered_tabulate (value? : String → Option α) (names : List String) :
    Ordered (tabulate value? names) := by
  induction names with
  | nil => exact List.Pairwise.nil
  | cons first rest later =>
    rw [tabulate]
    cases value? first with
    | none => exact later
    | some value => exact later.insert first value

end Dict

/-! ### What a reading depends on -/

namespace Outcome

/-- The members that a bucket has of its own: its key, the key as formatted text, and the number of
its documents. -/
def ownMembers : List String := ["key", "key_as_string", "doc_count"]

/-- The key of a bucket is read from the members of its own. -/
theorem bucketKey_congr {a b : Json} (same : ∀ name ∈ ownMembers, a.member? name = b.member? name)
    (name : String) : bucketKey name a = bucketKey name b := by
  have key : a.member? "key" = b.member? "key" := same _ (by decide)
  have formatted : a.member? "key_as_string" = b.member? "key_as_string" := same _ (by decide)
  unfold bucketKey rawKey?
  rw [key, formatted]

/-- The number of documents of a bucket is read from the members of its own. -/
theorem docCount_congr {a b : Json} (same : ∀ name ∈ ownMembers, a.member? name = b.member? name)
    (name : String) : docCount name a = docCount name b := by
  have count : a.member? "doc_count" = b.member? "doc_count" := same _ (by decide)
  unfold docCount countAt
  rw [count]

/-- A level is read from the members with the names of its requests. -/
theorem collect_congr {requests : List Request} {a b : Dict Json} (found : Outcomes)
    (same : ∀ request ∈ requests, Dict.find? request.outerName a = Dict.find? request.outerName b) :
    collect requests a found = collect requests b found := by
  induction requests generalizing found with
  | nil => rw [collect, collect]
  | cons request rest later =>
    obtain ⟨here, behind⟩ := List.forall_mem_cons.mp same
    rw [collect, collect, here]
    cases Dict.find? request.outerName b with
    | none => exact later found behind
    | some body =>
      simp only
      exact congrArg _ (funext fun outcome => later _ behind)

theorem ofLevel_congr {requests : List Request} {a b : Json} {members : Dict Json}
    {outcomes : Outcomes} (object : a.members? = some members)
    (same : ∀ request ∈ requests, a.member? request.outerName = b.member? request.outerName)
    (read : ofLevel requests b = .ok outcomes) : ofLevel requests a = .ok outcomes := by
  obtain ⟨others, object', collected⟩ := ofLevel_eq_ok.mp read
  refine ofLevel_eq_ok.mpr ⟨members, object,
    (collect_congr [] fun request member => ?_).trans collected⟩
  have held := same request member
  rw [Json.member?, Json.member?, object, object', Option.bind_some, Option.bind_some] at held
  exact held

/-- The members of a bucket that has its own members from one object and the answers to some
requests from another. -/
def bucketMembers (requests : List Request) (own answers : Json) : Dict Json :=
  Dict.tabulate (fun name => if name ∈ ownMembers then own.member? name else answers.member? name)
    (ownMembers ++ requests.map Request.outerName)

section BucketMembers

variable {requests : List Request} (own answers : Json)

theorem member?_bucketMembers_own {name : String} (member : name ∈ ownMembers) :
    (Json.object (bucketMembers requests own answers)).member? name = own.member? name := by
  show Dict.find? name (bucketMembers requests own answers) = _
  rw [bucketMembers, Dict.find?_tabulate, if_pos (List.mem_append_left _ member), if_pos member]

theorem member?_bucketMembers_answer {request : Request} (member : request ∈ requests)
    (apart : request.outerName ∉ ownMembers) :
    (Json.object (bucketMembers requests own answers)).member? request.outerName =
      answers.member? request.outerName := by
  have listed : request.outerName ∈ ownMembers ++ requests.map Request.outerName :=
    List.mem_append_right _ (List.mem_map_of_mem member)
  show Dict.find? request.outerName (bucketMembers requests own answers) = _
  rw [bucketMembers, Dict.find?_tabulate, if_pos listed, if_neg apart]

/-- **A bucket can hold a level beside its own members** if no request has the name of one of these:
it is read with the key and the number of documents of the one object and the answers of the
other. -/
theorem bucketOf_bucketMembers (apart : ∀ request ∈ requests, request.outerName ∉ ownMembers)
    {name key : String} {raw : Option String} {count : UInt64} {outcomes : Outcomes}
    (keyed : bucketKey name own = .ok (key, raw)) (counted : docCount name own = .ok count)
    (read : ofLevel requests answers = .ok outcomes) :
    bucketOf name (ofLevel requests) (.object (bucketMembers requests own answers)) =
      .ok ⟨key, raw, count, outcomes⟩ := by
  have held : ∀ name ∈ ownMembers,
      (Json.object (bucketMembers requests own answers)).member? name = own.member? name :=
    fun name member => member?_bucketMembers_own own answers member
  have inside := ofLevel_congr rfl
    (fun request member => member?_bucketMembers_answer own answers member
      (apart request member)) read
  exact bucketOf_eq_ok.mpr
    ⟨(bucketKey_congr held name).trans keyed, (docCount_congr held name).trans counted, inside⟩

end BucketMembers

end Outcome

/-! ### Names of own members -/

/-- No derived name is that of a bucket's own member: none of these starts with a tag and an
underscore. -/
theorem FacetName.derive_notMem_ownMembers (kind : FacetKind) (path : String) :
    derive kind path ∉ Outcome.ownMembers := by
  have split : ∀ name ∈ Outcome.ownMembers, split? name = none := by decide +kernel
  intro own
  have derived := split _ own
  rw [split?_derive] at derived
  cases derived

/-- **Only the key of a grouping can be the name of an own member.** -/
theorem Facet.key_of_outerName_mem {facet : Facet} (own : facet.outerName ∈ Outcome.ownMembers) :
    ∃ key inner, facet = .group (.key key) inner ∧ key ∈ Outcome.ownMembers := by
  cases facet with
  | group target inner =>
    cases target with
    | key text => exact ⟨text, inner, rfl, own⟩
    | field source => exact (FacetName.derive_notMem_ownMembers _ _ own).elim
  | measure spec =>
    rw [outerName] at own
    cases clause : spec.clause? with
    | none =>
      rw [clause, FacetName.outer] at own
      exact (FacetName.derive_notMem_ownMembers _ _ own).elim
    | some filter =>
      rw [clause, FacetName.outer, FacetName.scope_eq_derive] at own
      exact (FacetName.derive_notMem_ownMembers _ _ own).elim

/-! ### Levels inside groupings -/

/-- **The levels inside the groupings of some requests**, at any depth. -/
inductive Request.Nested (requests : List Request) : List Request → Prop
  | inside {name field : String} {size : UInt32} {inner : List Request} :
      .group name field size inner ∈ requests → Nested requests inner
  | deeper {level inner : List Request} {name field : String} {size : UInt32} :
      Nested requests level → .group name field size inner ∈ level → Nested requests inner

namespace Facet

variable {settings : Settings} {facets : List Facet} {requests level : List Request}

/-- What a grouping of accepted facets has inside are the requests of the facets inside it. -/
theorem Accepted.of_group {around : List String}
    (accepted : Accepted settings around facets requests) {name field : String} {size : UInt32}
    {inner : List Request} (member : .group name field size inner ∈ requests) :
    ∃ target facetsInside, .group target facetsInside ∈ facets ∧
      Accepted settings (target.name :: around) facetsInside inner := by
  obtain ⟨facet, asked, resolved⟩ := accepted.facet member
  cases facet with
  | measure spec =>
    obtain ⟨_, _, same⟩ := Request.ofFacet_measure_eq_ok.mp resolved
    cases same
  | group target facetsInside =>
    obtain ⟨made, same, acceptedInside⟩ := accepted.of_ofFacet member resolved
    cases same
    exact ⟨target, facetsInside, asked, acceptedInside⟩

/-- The levels inside groupings are those of the facets inside groupings. -/
theorem Accepted.level_of_nested {around : List String}
    (accepted : Accepted settings around facets requests) (nested : Request.Nested requests level) :
    ∃ name deeper inside, Level around facets (name :: deeper) inside ∧
      Accepted settings (name :: deeper) inside level := by
  induction nested with
  | inside member =>
    obtain ⟨target, inside, asked, acceptedInside⟩ := accepted.of_group member
    exact ⟨target.name, around, inside, .inside .here asked, acceptedInside⟩
  | deeper _ member above =>
    obtain ⟨name, deeper, outside, below, acceptedOutside⟩ := above
    obtain ⟨target, inside, asked, acceptedInside⟩ := acceptedOutside.of_group member
    exact ⟨target.name, name :: deeper, inside, .inside below asked, acceptedInside⟩

/-- **A bucket can carry all that is asked for inside it**, if no key inside a grouping is the name
of a bucket's own member: then no name inside a grouping is, at any depth, and beside any key and
count any answers fit into one object, which is read as these. -/
theorem buckets_carry (accepted : Request.ofFacets settings facets = .ok requests)
    (unkeyed : ∀ name around inside key inner, Level [] facets (name :: around) inside →
      .group (.key key) inner ∈ inside → key ∉ Outcome.ownMembers)
    (nested : Request.Nested requests level) :
    (∀ request ∈ level, request.outerName ∉ Outcome.ownMembers) ∧
      ∀ own answers : Json, ∃ members : Dict Json, members.Ordered ∧
        (∀ name ∈ Outcome.ownMembers, (Json.object members).member? name = own.member? name) ∧
        (∀ request ∈ level,
          (Json.object members).member? request.outerName = answers.member? request.outerName) ∧
        ∀ name key raw count outcomes, Outcome.bucketKey name own = .ok (key, raw) →
          Outcome.docCount name own = .ok count → Outcome.ofLevel level answers = .ok outcomes →
          Outcome.bucketOf name (Outcome.ofLevel level) (.object members) =
            .ok ⟨key, raw, count, outcomes⟩ := by
  obtain ⟨name, around, inside, below, acceptedInside⟩ :=
    (accepted_iff.mpr accepted).level_of_nested nested
  have apart : ∀ request ∈ level, request.outerName ∉ Outcome.ownMembers := by
    intro request member own
    obtain ⟨facet, asked, resolved⟩ := acceptedInside.facet member
    rw [outerName_of_ofFacet resolved] at own
    obtain ⟨key, inner, rfl, reserved⟩ := key_of_outerName_mem own
    exact unkeyed name around inside key inner below asked reserved
  refine ⟨apart, fun own answers => ?_⟩
  refine ⟨Outcome.bucketMembers level own answers, Dict.ordered_tabulate _ _, ?_, ?_, ?_⟩
  · exact fun name member => Outcome.member?_bucketMembers_own own answers member
  · exact fun request member =>
      Outcome.member?_bucketMembers_answer own answers member (apart request member)
  · exact fun _ _ _ _ _ keyed counted read =>
      Outcome.bucketOf_bucketMembers own answers apart keyed counted read

/-- A bucket of kinds without its answers. -/
def kindBucket : Json := .record [("key", .string "Sedan"), ("doc_count", .ofInt 2)]

/-- The answers to the sum of prices. -/
def sumAnswers : Json := .record [("sum_price", .record [("value", .null)])]

/-- A kind and the sum of its prices make one bucket. -/
theorem buckets_carry_sumByKind :
    ∃ requests level, Request.ofFacets {} [.group (.key "kind") [priceSum]] = .ok requests ∧
      Request.Nested requests level ∧ (∀ request ∈ level, request.outerName ∉ Outcome.ownMembers) ∧
      ∃ members outcomes, Dict.Ordered members ∧ Outcome.ofLevel level sumAnswers = .ok outcomes ∧
        Outcome.bucketOf "kind" (Outcome.ofLevel level) (.object members) =
          .ok ⟨"Sedan", none, 2, outcomes⟩ := by
  have found : ∃ requests level outcomes,
      Request.ofFacets {} [.group (.key "kind") [priceSum]] = .ok requests ∧
        Request.Nested requests level ∧ Outcome.ofLevel level sumAnswers = .ok outcomes :=
    ⟨_, _, _, rfl, .inside List.mem_cons_self, rfl⟩
  obtain ⟨requests, level, outcomes, accepted, nested, read⟩ := found
  have levels : ∀ {around inside}, Level [] [.group (.key "kind") [priceSum]] around inside →
      around = [] ∧ inside = [.group (.key "kind") [priceSum]] ∨ inside = [priceSum] := by
    intro around inside below
    induction below with
    | here => exact .inl ⟨rfl, rfl⟩
    | inside _ member above =>
      rcases above with ⟨_, rfl⟩ | rfl
      · cases List.mem_singleton.mp member
        exact .inr rfl
      · cases List.mem_singleton.mp member
  have unkeyed : ∀ name around inside key inner,
      Level [] [.group (.key "kind") [priceSum]] (name :: around) inside →
      .group (.key key) inner ∈ inside → key ∉ Outcome.ownMembers := by
    intro name around inside key inner below member
    rcases levels below with ⟨outside, _⟩ | rfl
    · cases outside
    · cases List.mem_singleton.mp member
  obtain ⟨apart, carry⟩ := buckets_carry accepted unkeyed nested
  obtain ⟨members, ordered, _, _, decode⟩ := carry kindBucket sumAnswers
  have keyed : Outcome.bucketKey "kind" kindBucket = .ok ("Sedan", none) := by decide +kernel
  have counted : Outcome.docCount "kind" kindBucket = .ok 2 := by decide +kernel
  exact ⟨requests, level, accepted, nested, apart, members, outcomes, ordered, read,
    decode _ _ _ _ _ keyed counted read⟩

/-- Inside a grouping a key may be the name of a bucket's own member; a bucket with an answer of
that name has no key then, and cannot be read. -/
theorem bucket_without_key :
    ∃ requests level inner,
      Request.ofFacets {} [.group (.key "kind") [.group (.key "key") []]] = .ok requests ∧
      Request.Nested requests level ∧ inner ∈ level ∧ inner.outerName ∈ Outcome.ownMembers ∧
      ∀ bucket body outcome, bucket.member? inner.outerName = some body →
        Outcome.ofRequest inner body = .ok outcome → bucket.member? "key_as_string" = none →
        Outcome.bucketOf "kind" (Outcome.ofLevel level) bucket =
          .error (.malformed "kind" .noKey) := by
  refine ⟨_, _, _, rfl, .inside List.mem_cons_self, List.mem_cons_self, by decide, ?_⟩
  intro bucket body outcome held answered unformatted
  rw [Outcome.ofRequest] at answered
  obtain ⟨items, _, listed, _, _⟩ := Outcome.terms_of_termsOf answered
  have key : bucket.member? "key" = some body := held
  have raw : Outcome.rawKey? bucket = none := by
    unfold Outcome.rawKey?
    rw [key]
    cases body <;> first | rfl | cases listed
  unfold Outcome.bucketOf Outcome.bucketKey
  rw [unformatted, raw]
  rfl

end Facet

end FacetQuery
