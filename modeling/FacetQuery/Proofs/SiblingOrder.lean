/-
**The order of siblings.**

The requests of a level have distinct names. They are written into one object and answered name by
name, so the order in which they were given shows neither in what is sent nor in what is read, at
any depth.

* `Dict.Ordered.ext` — **a dictionary is what it has under each name.**
* `Outcome.Answers` — **what a level answers**, said without the order of its requests.
* `Request.Reordered`, `Request.ReorderedAll` — **requests whose siblings stand in another order**,
  anywhere.
* `Request.Reordered.json_eq`, `Request.Reordered.ofRequest_eq_ok_iff` — such requests are written
  alike and answered alike.
* `Request.reordered_unseen` — **the order of siblings cannot be seen.**
-/

import FacetQuery.Proofs.NameTrees

namespace FacetQuery

/-! ### Dictionaries by their names -/

namespace Dict

variable {α : Type} {members others : Dict α} {pairs more : List (String × α)}

/-- What an ordered dictionary has under a name is its member of that name. -/
theorem Ordered.mem_iff (ordered : members.Ordered) {name : String} {value : α} :
    (name, value) ∈ members ↔ find? name members = some value := by
  induction members with
  | nil => simp
  | cons head rest later =>
    obtain ⟨first, held⟩ := head
    obtain ⟨above, behind⟩ := List.pairwise_cons.mp ordered
    rw [find?, List.mem_cons, later behind, Prod.mk.injEq]
    by_cases here : first = name
    · subst here
      have absent : find? first rest ≠ some value := fun again =>
        String.lt_irrefl first (above _ ((later behind).mpr again))
      simp [absent, eq_comm]
    · simp [here, Ne.symm here]

theorem Ordered.nodup (ordered : members.Ordered) : members.Nodup := by
  refine List.Pairwise.imp ?_ ordered
  rintro first second below rfl
  exact String.lt_irrefl first.1 below

/-- Ordered dictionaries of the same members are the same. -/
theorem Ordered.eq_of_perm (ordered : members.Ordered) (other : others.Ordered)
    (same : members.Perm others) : members = others :=
  same.eq_of_pairwise
    (fun _ _ _ _ below above => absurd above (String.lt_asymm below)) ordered other

/-- **A dictionary is what it has under each name.** -/
theorem Ordered.ext (ordered : members.Ordered) (other : others.Ordered)
    (same : ∀ name, find? name members = find? name others) : members = others := by
  refine ordered.eq_of_perm other ((List.perm_ext_iff_of_nodup ordered.nodup other.nodup).mpr ?_)
  rintro ⟨name, value⟩
  rw [ordered.mem_iff, other.mem_iff, same]

theorem ordered_ofList (pairs : List (String × α)) : (ofList pairs).Ordered := by
  induction pairs using List.reverseRecOn with
  | nil => exact List.Pairwise.nil
  | append_singleton pairs pair earlier =>
    rw [ofList_concat]
    exact earlier.insert pair.1 pair.2

/-- Of pairs with one name the last is found. -/
theorem find?_ofList (pairs : List (String × α)) (name : String) :
    find? name (ofList pairs) = find? name pairs.reverse := by
  induction pairs using List.reverseRecOn with
  | nil => rfl
  | append_singleton pairs pair earlier =>
    rw [ofList_concat, find?_insert, earlier, List.reverse_append, List.reverse_singleton,
      List.singleton_append, find?]

/-- What is found in a dictionary once it is known what it was made of. -/
theorem find?_of_ofList {pairs : List (String × α)} {members : Dict α}
    (made : ofList pairs = members) (name : String) :
    find? name members = find? name pairs.reverse := by
  rw [← made, find?_ofList]

/-- Pairs of distinct names make one dictionary in every order. -/
theorem ofList_eq_of_perm (distinct : (pairs.map Prod.fst).Nodup) (same : pairs.Perm more) :
    ofList pairs = ofList more := by
  refine (ordered_ofList pairs).eq_of_perm (ordered_ofList more) ?_
  have distinctMore : (more.map Prod.fst).Nodup := (same.map Prod.fst).nodup_iff.mp distinct
  exact ((perm_ofList distinct).trans same).trans (perm_ofList distinctMore).symm

end Dict

/-! ### What a level answers -/

namespace Outcome

variable {requests : List Request} {members : Dict Json} {found outcomes : Outcomes}

theorem ordered_collect (ordered : found.Ordered)
    (read : collect requests members found = .ok outcomes) : outcomes.Ordered := by
  induction requests generalizing found with
  | nil =>
    rw [collect, Except.ok.injEq] at read
    exact read ▸ ordered
  | cons request rest later =>
    rcases collect_cons_eq_ok.mp read with ⟨_, behind⟩ | ⟨_, outcome, _, _, behind⟩
    · exact later ordered behind
    · exact later (ordered.insert request.outerName outcome) behind

/-- A level is answered if each of its requests is. -/
theorem exists_collect (found : Outcomes)
    (each : ∀ request ∈ requests, ∃ answer,
      (Dict.find? request.outerName members).mapM (ofRequest request) = .ok answer) :
    ∃ outcomes, collect requests members found = .ok outcomes := by
  induction requests generalizing found with
  | nil =>
    refine ⟨found, ?_⟩
    rw [collect]
  | cons request rest later =>
    obtain ⟨⟨answer, here⟩, behind⟩ := List.forall_mem_cons.mp each
    cases held : Dict.find? request.outerName members with
    | none =>
      obtain ⟨outcomes, read⟩ := later found behind
      exact ⟨outcomes, collect_cons_eq_ok.mpr (.inl ⟨held, read⟩)⟩
    | some body =>
      rw [held, mapM_some_eq_ok] at here
      obtain ⟨outcome, answered, _⟩ := here
      obtain ⟨outcomes, read⟩ := later (Dict.insert request.outerName outcome found) behind
      exact ⟨outcomes, collect_cons_eq_ok.mpr (.inr ⟨body, outcome, held, answered, read⟩)⟩

/-- **What a level answers**: under the name of each request what the member of that name answers,
and nothing under any other name. Nothing here depends on the order of the requests. -/
structure Answers (requests : List Request) (members : Dict Json) (outcomes : Outcomes) : Prop where
  ordered : outcomes.Ordered
  unasked : ∀ name, name ∉ requests.map Request.outerName → Dict.find? name outcomes = none
  each : ∀ request ∈ requests, (Dict.find? request.outerName members).mapM (ofRequest request) =
    .ok (Dict.find? request.outerName outcomes)

theorem answers_of_collect (distinct : (requests.map Request.outerName).Nodup)
    (read : collect requests members [] = .ok outcomes) : Answers requests members outcomes where
  ordered := ordered_collect List.Pairwise.nil read
  unasked _ absent := collect_of_not_mem absent read
  each := collect_find? distinct (fun _ _ => rfl) read

/-- Two answers of one level are the same. -/
theorem Answers.eq {others : Outcomes} (first : Answers requests members outcomes)
    (second : Answers requests members others) : outcomes = others := by
  refine first.ordered.ext second.ordered fun name => ?_
  by_cases asked : name ∈ requests.map Request.outerName
  · obtain ⟨request, member, rfl⟩ := List.mem_map.mp asked
    exact Except.ok.inj ((first.each request member).symm.trans (second.each request member))
  · rw [first.unasked name asked, second.unasked name asked]

/-- **A level is read as its answers**, and as nothing else. -/
theorem collect_eq_ok_iff (distinct : (requests.map Request.outerName).Nodup) :
    collect requests members [] = .ok outcomes ↔ Answers requests members outcomes := by
  refine ⟨answers_of_collect distinct, fun answers => ?_⟩
  obtain ⟨made, read⟩ := exists_collect [] fun request member => ⟨_, answers.each request member⟩
  rw [answers.eq (answers_of_collect distinct read), read]

/-- Terms depend on the levels inside their buckets through what these answer. -/
theorem termsOf_eq_ok_congr {level other : Json → Except Failure Outcomes}
    (same : ∀ body outcomes, level body = .ok outcomes ↔ other body = .ok outcomes)
    {name : String} {body : Json} {outcome : Outcome} :
    termsOf name level body = .ok outcome ↔ termsOf name other body = .ok outcome := by
  simp only [termsOf, bind_eq_ok, mapM_eq_ok, bucketOf_eq_ok, same]

end Outcome

/-! ### Other orders -/

namespace Request

/-- **A request whose siblings inside stand in another order**, at any depth. -/
inductive Reordered : Request → Request → Prop
  | measure (request : MeasureRequest) : Reordered (.measure request) (.measure request)
  | group (name field : String) (size : UInt32) {inner placed others : List Request}
      (each : List.Forall₂ Reordered inner placed) (order : placed.Perm others) :
      Reordered (.group name field size inner) (.group name field size others)

/-- **Requests that stand in another order**, as do those inside them, at any depth. -/
def ReorderedAll (requests others : List Request) : Prop :=
  ∃ placed, List.Forall₂ Reordered requests placed ∧ placed.Perm others

variable {request other : Request} {requests others : List Request}

theorem Reordered.outerName_eq (reordered : request.Reordered other) :
    other.outerName = request.outerName := by
  cases reordered <;> rfl

namespace ReorderedAll

/-- Every request has one in its place. -/
theorem exists_right (reordered : ReorderedAll requests others) (member : request ∈ requests) :
    ∃ other ∈ others, request.Reordered other := by
  obtain ⟨placed, each, order⟩ := reordered
  obtain ⟨other, there, alike⟩ := exists_of_mem_left each member
  exact ⟨other, order.mem_iff.mp there, alike⟩

/-- Every request is in the place of one. -/
theorem exists_left (reordered : ReorderedAll requests others) (member : other ∈ others) :
    ∃ request ∈ requests, request.Reordered other := by
  obtain ⟨placed, each, order⟩ := reordered
  exact exists_of_mem_right each (order.mem_iff.mpr member)

/-- What requests have in common with those in their places is only put into another order. -/
theorem perm_map {β : Type} {f : Request → β} (reordered : ReorderedAll requests others)
    (same : ∀ request ∈ requests, ∀ other, request.Reordered other → f other = f request) :
    (requests.map f).Perm (others.map f) := by
  obtain ⟨placed, each, order⟩ := reordered
  have kept : requests.map f = placed.map f := by
    -- The order comes after this, and would only be carried through the induction.
    clear order
    induction each with
    | nil => rfl
    | cons alike _ later =>
      obtain ⟨here, behind⟩ := List.forall_mem_cons.mp same
      rw [List.map_cons, List.map_cons, here _ alike, later behind]
  rw [kept]
  exact order.map f

theorem perm_outerNames (reordered : ReorderedAll requests others) :
    (requests.map outerName).Perm (others.map outerName) :=
  reordered.perm_map fun _ _ _ alike => alike.outerName_eq

theorem isEmpty_eq (reordered : ReorderedAll requests others) :
    others.isEmpty = requests.isEmpty := by
  have sizes := reordered.perm_outerNames.length_eq
  rw [List.length_map, List.length_map] at sizes
  rw [Bool.eq_iff_iff, List.isEmpty_iff_length_eq_zero, List.isEmpty_iff_length_eq_zero, sizes]

/-- Names of a level stay distinct, and apart from others, in every order, if those inside do. -/
theorem clashOfAll?_eq_none {around seen : List String} (reordered : ReorderedAll requests others)
    (inside : ∀ request ∈ requests, ∀ other, request.Reordered other →
      clash? around request = none → clash? around other = none)
    (apart : clashOfAll? around seen requests = none) : clashOfAll? around seen others = none := by
  obtain ⟨distinct, each⟩ := Request.clashOfAll?_eq_none.mp apart
  refine Request.clashOfAll?_eq_none.mpr
    ⟨reordered.perm_outerNames.nodup_iff.mp distinct, fun other member => ?_⟩
  obtain ⟨request, there, alike⟩ := reordered.exists_left member
  rw [alike.outerName_eq]
  exact ⟨(each request there).1, inside request there other alike (each request there).2⟩

/-- A level is written alike in every order, if its requests are. -/
theorem level_eq (reordered : ReorderedAll requests others)
    (distinct : (requests.map outerName).Nodup)
    (inside : ∀ request ∈ requests, ∀ other, request.Reordered other → other.json = request.json) :
    level others = level requests := by
  have members : (requests.map fun request => (request.outerName, request.json)).Perm
      (others.map fun request => (request.outerName, request.json)) :=
    reordered.perm_map fun request member other alike => by
      rw [alike.outerName_eq, inside request member other alike]
  rw [level, level, members_eq, members_eq, Json.record, Json.record]
  refine congrArg Json.object (Dict.ofList_eq_of_perm ?_ members).symm
  rwa [List.map_map]

/-- A level is answered alike in every order, if its requests are. -/
theorem ofLevel_eq_ok_iff (reordered : ReorderedAll requests others)
    (distinct : (requests.map outerName).Nodup)
    (inside : ∀ request ∈ requests, ∀ other, request.Reordered other → ∀ body outcome,
      Outcome.ofRequest request body = .ok outcome ↔ Outcome.ofRequest other body = .ok outcome)
    (body : Json) (outcomes : Outcomes) :
    Outcome.ofLevel requests body = .ok outcomes ↔ Outcome.ofLevel others body = .ok outcomes := by
  have names := reordered.perm_outerNames
  have answers {request other : Request} (member : request ∈ requests)
      (alike : request.Reordered other)
      (document : Option Json) (answer : Option Outcome) :
      document.mapM (Outcome.ofRequest request) = .ok answer ↔
        document.mapM (Outcome.ofRequest other) = .ok answer := by
    cases document with
    | none => exact Iff.rfl
    | some document => simp only [mapM_some_eq_ok, inside request member other alike]
  rw [Outcome.ofLevel_eq_ok, Outcome.ofLevel_eq_ok]
  refine exists_congr fun members => and_congr_right fun _ => ?_
  rw [Outcome.collect_eq_ok_iff distinct, Outcome.collect_eq_ok_iff (names.nodup_iff.mp distinct)]
  constructor
  · rintro ⟨ordered, unasked, each⟩
    refine ⟨ordered, fun name absent => unasked name (names.mem_iff.not.mpr absent),
      fun other there => ?_⟩
    obtain ⟨request, member, alike⟩ := reordered.exists_left there
    rw [alike.outerName_eq, ← answers member alike]
    exact each request member
  · rintro ⟨ordered, unasked, each⟩
    refine ⟨ordered, fun name absent => unasked name (names.mem_iff.not.mp absent),
      fun request member => ?_⟩
    obtain ⟨other, there, alike⟩ := reordered.exists_right member
    rw [answers member alike, ← alike.outerName_eq]
    exact each other there

end ReorderedAll

/-! ### One request -/

/-- A request is accepted with the siblings inside it in any order. -/
theorem Reordered.clash?_eq_none {around : List String} (reordered : request.Reordered other)
    (apart : clash? around request = none) : clash? around other = none := by
  induction request using inside_induction generalizing around other with
  | measure request =>
    cases reordered
    exact apart
  | group name field size inner each =>
    cases reordered with
    | group _ _ _ placed order =>
      obtain ⟨outside, inside⟩ := clash?_group_eq_none.mp apart
      refine clash?_group_eq_none.mpr ⟨outside, ?_⟩
      exact ReorderedAll.clashOfAll?_eq_none ⟨_, placed, order⟩
        (fun request member _ alike apart => each request member alike apart) inside

/-- **A request is written alike** with the siblings inside it in any order. -/
theorem Reordered.json_eq {around : List String} (reordered : request.Reordered other)
    (apart : clash? around request = none) : other.json = request.json := by
  induction request using inside_induction generalizing around other with
  | measure request =>
    cases reordered
    rfl
  | group name field size inner each =>
    cases reordered with
    | @group _ _ _ _ _ others placed order =>
      have inside : ReorderedAll inner others := ⟨_, placed, order⟩
      obtain ⟨distinct, passed⟩ := Request.clashOfAll?_eq_none.mp (clash?_group_eq_none.mp apart).2
      have levels : level others = level inner :=
        inside.level_eq distinct fun request member _ alike =>
        each request member alike (passed request member).2
      rw [json_group, json_group, aggs?, aggs?, inside.isEmpty_eq, levels]

/-- **A request is answered alike** with the siblings inside it in any order. -/
theorem Reordered.ofRequest_eq_ok_iff {around : List String} (reordered : request.Reordered other)
    (apart : clash? around request = none) (body : Json) (outcome : Outcome) :
    Outcome.ofRequest request body = .ok outcome ↔ Outcome.ofRequest other body = .ok outcome := by
  induction request using inside_induction generalizing around other body outcome with
  | measure request =>
    cases reordered
    exact Iff.rfl
  | group name field size inner each =>
    cases reordered with
    | @group _ _ _ _ _ others placed order =>
      have inside : ReorderedAll inner others := ⟨_, placed, order⟩
      obtain ⟨distinct, passed⟩ := Request.clashOfAll?_eq_none.mp (clash?_group_eq_none.mp apart).2
      rw [Outcome.ofRequest, Outcome.ofRequest]
      exact Outcome.termsOf_eq_ok_congr <|
        inside.ofLevel_eq_ok_iff distinct fun request member _ alike =>
        each request member alike (passed request member).2

/-! ### The whole -/

/-- **The order of siblings cannot be seen.** If the names of some requests can be told apart, then
whatever order the siblings of any levels are put into, the names can still be told apart, what is
written is the same document, and whatever the backend sends is read as the same answers, or cannot
be read in either order. -/
theorem reordered_unseen (accepted : checkNames requests = .ok ())
    (reordered : ReorderedAll requests others) :
    checkNames others = .ok () ∧ level others = level requests ∧
      ∀ body, (∃ outcomes, Outcome.ofLevel requests body = .ok outcomes ∧
          Outcome.ofLevel others body = .ok outcomes) ∨
        ∃ failure second, Outcome.ofLevel requests body = .error failure ∧
          Outcome.ofLevel others body = .error second := by
  have apart := checkNames_eq_ok.mp accepted
  obtain ⟨distinct, passed⟩ := Request.clashOfAll?_eq_none.mp apart
  refine ⟨checkNames_eq_ok.mpr ?_, ?_, fun body => ?_⟩
  · exact reordered.clashOfAll?_eq_none (fun _ _ _ alike apart => alike.clash?_eq_none apart) apart
  · exact reordered.level_eq distinct fun request member _ alike =>
      alike.json_eq (passed request member).2
  · have same := reordered.ofLevel_eq_ok_iff distinct
      (fun request member _ alike => alike.ofRequest_eq_ok_iff (passed request member).2) body
    cases first : Outcome.ofLevel requests body with
    | ok outcomes => exact .inl ⟨outcomes, rfl, (same outcomes).mp first⟩
    | error failure =>
      cases second : Outcome.ofLevel others body with
      | ok outcomes => exact nomatch first.symm.trans ((same outcomes).mpr second)
      | error other => exact .inr ⟨failure, other, rfl, rfl⟩

/-- A measure of all prices. -/
def ofPrices (measure : Measure) : Request :=
  .measure ⟨FacetName.derive measure.kind "price", measure, "price", none, [], none, none⟩

/-- The sum and the maximum of the prices of each kind, and the number of all prices. -/
def kindsFirst : List Request :=
  [.group "kind" "kind" 10 [ofPrices .sum, ofPrices .max], ofPrices .count]

/-- The same in another order, outside and inside. -/
def kindsLast : List Request :=
  [ofPrices .count, .group "kind" "kind" 10 [ofPrices .max, ofPrices .sum]]

/-- An answer to these, in which no truck has a price. -/
def pricesOfTrucks : Json :=
  .record [("count_price", .single "value" (.ofInt 0)), ("kind", .single "buckets" (.array [.record
    [("key", .string "truck"), ("doc_count", .ofInt 2), ("sum_price", .single "value" (.ofInt 0)),
      ("max_price", .single "value" .null)]]))]

/-- The kinds before the number of prices or after it: the same is sent, and an answer read as the
same. -/
theorem reordered_unseen_kinds :
    level kindsLast = level kindsFirst ∧
      ∃ outcomes, Outcome.ofLevel kindsFirst pricesOfTrucks = .ok outcomes ∧
        Outcome.ofLevel kindsLast pricesOfTrucks = .ok outcomes := by
  have inside :
      ([ofPrices .sum, ofPrices .max] : List Request).Perm [ofPrices .max, ofPrices .sum] :=
    .swap _ _ []
  have kept : List.Forall₂ Reordered [ofPrices .sum, ofPrices .max] [ofPrices .sum,
      ofPrices .max] :=
    .cons (.measure _) (.cons (.measure _) .nil)
  have reordered : ReorderedAll kindsFirst kindsLast :=
    ⟨_, .cons (.group "kind" "kind" 10 kept inside) (.cons (.measure _) .nil), .swap _ _ []⟩
  have accepted : checkNames kindsFirst = .ok () := by decide +kernel
  obtain ⟨_, written, read⟩ := reordered_unseen accepted reordered
  have answered : (Outcome.ofLevel kindsFirst pricesOfTrucks).isOk = true := by decide +kernel
  refine ⟨written, (read pricesOfTrucks).resolve_right ?_⟩
  rintro ⟨failure, _, refused, _⟩
  rw [refused] at answered
  exact nomatch answered

end Request

end FacetQuery
