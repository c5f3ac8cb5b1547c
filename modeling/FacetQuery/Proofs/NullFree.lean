/-
**Documents without null.**

There is no null in a document if there is none in its items and members. What a predicate compiles
to has none, since no operand that fits a field is written as null; and of the aggregations only
percentiles bring one into a body, with a percent that is not finite.

* `Json.Inside`, `Json.NullFree` — **a document inside another**, and no null among them.
* `Json.nullFree_array`, `Json.nullFree_record` — documents by their parts.
* `Clause.nullFree_of_ofPredicate` — **no query of a compiled predicate has a null in it.**
* `MeasureRequest.nullFree_body` — **a measure has none** unless it is percentiles at such a
  percent.
-/

import FacetQuery.Proofs.Compilation
import FacetQuery.Proofs.NameTrees

namespace FacetQuery

namespace Json

/-- **A document inside another**, itself among them. -/
inductive Inside (inner : Json) : Json → Prop
  | here : Inside inner inner
  | item {items : List Json} {item : Json} : item ∈ items → Inside inner item →
      Inside inner (.array items)
  | member {members : List (String × Json)} {pair : String × Json} :
      pair ∈ members → Inside inner pair.2 → Inside inner (.object members)

/-- No document inside is null. -/
def NullFree (document : Json) : Prop := ¬ Inside .null document

/-! ### Documents by their parts -/

theorem not_nullFree_null : ¬ NullFree .null := fun free => free .here

theorem nullFree_bool (flag : Bool) : NullFree (.bool flag) := nofun

theorem nullFree_number (n : Number) : NullFree (.number n) := nofun

theorem nullFree_string (text : String) : NullFree (.string text) := nofun

theorem nullFree_array {items : List Json} :
    NullFree (.array items) ↔ ∀ item ∈ items, NullFree item := by
  constructor
  · intro free item member null
    exact free (.item member null)
  · rintro each (_ | ⟨member, null⟩)
    exact each _ member null

theorem nullFree_object {members : List (String × Json)} :
    NullFree (.object members) ↔ ∀ pair ∈ members, NullFree pair.2 := by
  constructor
  · intro free pair member null
    exact free (.member member null)
  · rintro each (_ | _ | ⟨member, null⟩)
    exact each _ member null

/-- An object of members with distinct names is free of null if each of them is. -/
theorem nullFree_record {pairs : List (String × Json)} (distinct : (pairs.map Prod.fst).Nodup) :
    NullFree (.record pairs) ↔ ∀ pair ∈ pairs, NullFree pair.2 := by
  rw [record, nullFree_object]
  simp only [(Dict.perm_ofList distinct).mem_iff]

theorem nullFree_single {name : String} {value : Json} :
    NullFree (.single name value) ↔ NullFree value := by
  rw [single, nullFree_record (by simp), List.forall_mem_singleton]

/-- **A floating number is written as null exactly if it is not finite.** -/
theorem nullFree_ofDouble {x : Double} : NullFree (.ofDouble x) ↔ x.isFinite = true := by
  unfold ofDouble Number.ofDouble?
  by_cases finite : x.isFinite = true
  · rw [dif_pos finite]
    exact iff_of_true (nullFree_number _) finite
  · rw [dif_neg finite]
    exact iff_of_false not_nullFree_null finite

/-- An integer that eight bytes hold is written as it is. -/
theorem ofInt_eq {n : Int} (fits : FitsEight n) : ofInt n = .number (.whole n fits) := by
  rw [ofInt, Number.ofInt?, dif_pos fits]
  rfl

/-- A count of four bytes has room in eight. -/
theorem fitsEight_count (count : UInt32) : FitsEight count.toNat := by
  have room := count.toNat_lt
  unfold FitsEight
  omega

theorem nullFree_one : NullFree (.ofInt 1) := by
  rw [ofInt_eq (by decide)]
  exact nullFree_number _

theorem nullFree_count (count : UInt32) : NullFree (.ofInt count.toNat) := by
  rw [ofInt_eq (fitsEight_count count)]
  exact nullFree_number _

end Json

/-! ### Queries -/

/-- An operand that fits a field is not written as null, also in lower case. -/
theorem FieldRef.nullFree_adapt (field : FieldRef) {kind : FieldKind} {operand : Literal}
    (fits : operand.fits kind = true) : (field.adapt operand).json.NullFree := by
  unfold adapt
  cases operand with
  | null => exact nomatch fits
  | list items => exact nomatch fits
  | float x =>
    have finite : x.isFinite = true := (Bool.and_eq_true_iff.mp fits).1
    split <;> exact Json.nullFree_ofDouble.mpr finite
  | bool flag => split <;> exact Json.nullFree_bool flag
  | int n => split <;> exact Json.nullFree_number _
  | uint n => split <;> exact Json.nullFree_number _
  | text content => split <;> exact Json.nullFree_string _
  | choice name => split <;> exact Json.nullFree_string _
  | instant time => split <;> exact Json.nullFree_string _

/-- The query of a test is free of null if the operand is. -/
theorem Test.nullFree_json {test : Test} (free : test.operand.json.NullFree) :
    test.json.NullFree := by
  unfold Test.json
  split
  · exact Json.nullFree_single.mpr (Json.nullFree_single.mpr free)
  · refine Json.nullFree_single.mpr (Json.nullFree_single.mpr (Json.nullFree_array.mpr ?_))
    rw [List.forall_mem_singleton]
    exact Json.nullFree_single.mpr (Json.nullFree_single.mpr free)
  · exact Json.nullFree_single.mpr (Json.nullFree_single.mpr free)
  · exact Json.nullFree_single.mpr (Json.nullFree_single.mpr (Json.nullFree_single.mpr free))

/-- The query of a connective is free of null if its parts are. -/
theorem Connective.nullFree_json {connective : Connective} {parts : List Json} :
    (connective.json parts).NullFree ↔ ∀ part ∈ parts, part.NullFree := by
  unfold Connective.json
  rw [Json.nullFree_single]
  cases connective with
  | and => exact Json.nullFree_single.trans Json.nullFree_array
  | or =>
    dsimp only
    rw [Json.nullFree_record (by simp), List.forall_mem_cons, List.forall_mem_singleton,
      Json.nullFree_array]
    exact and_iff_left (Json.nullFree_one)
  | not => exact Json.nullFree_single.trans Json.nullFree_array

namespace Clause

variable {connective : Connective} {clauses : List Clause}

theorem nullFree_joined :
    (joined connective clauses).json.NullFree ↔ ∀ part ∈ clauses, part.json.NullFree := by
  rw [json, jsons_eq, Connective.nullFree_json, List.forall_mem_map]

/-- What clauses are joined to is free of null if they are. -/
theorem nullFree_join (each : ∀ clause ∈ clauses, clause.json.NullFree) :
    (join connective clauses).json.NullFree := by
  have parts : ∀ part ∈ clauses.flatMap (spliced connective), part.json.NullFree := by
    intro part member
    obtain ⟨clause, there, member⟩ := List.mem_flatMap.mp member
    have free := each clause there
    cases clause with
    | test leaf =>
      obtain rfl := List.mem_singleton.mp member
      exact free
    | joined own inner =>
      rw [spliced] at member
      split at member
      · exact nullFree_joined.mp free part member
      · obtain rfl := List.mem_singleton.mp member
        exact free
  unfold join
  split
  · rename_i part only
    exact parts part (only ▸ List.mem_singleton_self part)
  · exact nullFree_joined.mpr parts

mutual

/-- **No query of a compiled predicate has a null in it.** -/
theorem nullFree_of_ofPredicate : ∀ {predicate : Predicate} {clause : Clause},
    ofPredicate predicate = .ok clause → clause.json.NullFree
  | .compare field op operand, clause, compiled => by
    rw [ofPredicate] at compiled
    obtain ⟨_, fits, _, rfl⟩ := ofComparison_eq_ok.mp compiled
    rw [json]
    exact Test.nullFree_json (field.nullFree_adapt fits)
  | .within field operands, clause, compiled => by
    rw [ofPredicate] at compiled
    obtain ⟨_, fit, rfl⟩ := ofMembership_eq_ok.mp compiled
    rw [json]
    refine Test.nullFree_json ?_
    rw [Literal.json, Literal.jsons_eq, Json.nullFree_array, List.map_map, List.forall_mem_map]
    exact fun operand member => field.nullFree_adapt (fit operand member)
  | .flag field, clause, compiled => by
    rw [ofPredicate] at compiled
    obtain ⟨_, _, rfl⟩ := ofFlag_eq_ok.mp compiled
    rw [json]
    exact Test.nullFree_json (Json.nullFree_bool true)
  | .all parts, clause, compiled => by
    obtain ⟨_, clauses, each, rfl⟩ := ofPredicate_all_eq_ok.mp compiled
    exact nullFree_join (nullFree_of_ofPredicates each)
  | .any parts, clause, compiled => by
    obtain ⟨_, clauses, each, rfl⟩ := ofPredicate_any_eq_ok.mp compiled
    exact nullFree_join (nullFree_of_ofPredicates each)
  | .not part, clause, compiled => by
    obtain ⟨inner, made, rfl⟩ := ofPredicate_not_eq_ok.mp compiled
    refine nullFree_joined.mpr fun only member => ?_
    obtain rfl := List.mem_singleton.mp member
    exact nullFree_of_ofPredicate made

theorem nullFree_of_ofPredicates : ∀ {parts : List Predicate} {clauses : List Clause},
    ofPredicates parts = .ok clauses → ∀ clause ∈ clauses, clause.json.NullFree
  | [], clauses, each => by
    cases ofPredicates_eq_ok.mp each
    exact fun clause member => nomatch member
  | part :: rest, clauses, each => by
    obtain ⟨first, later, head, tail, rfl⟩ :=
      List.forall₂_cons_left_iff.mp (ofPredicates_eq_ok.mp each)
    intro clause member
    rcases List.mem_cons.mp member with rfl | member
    · exact nullFree_of_ofPredicate head
    · exact nullFree_of_ofPredicates (ofPredicates_eq_ok.mpr tail) clause member

end

end Clause

/-! ### Aggregations -/

/-- **A measure is written without null**, unless it is percentiles at a percent that is not
finite. -/
theorem MeasureRequest.nullFree_body {request : MeasureRequest} :
    request.body.NullFree ↔
      (request.measure = .percentiles → ∀ x ∈ request.percents, x.isFinite = true) := by
  have fielded (name : String) :
      (Json.single name (.record [("field", .string request.field)])).NullFree :=
    Json.nullFree_single.mpr (Json.nullFree_single.mpr (Json.nullFree_string _))
  unfold body
  cases measure : request.measure with
  | percentiles =>
    dsimp only
    rw [Json.nullFree_single]
    cases percents : request.percents with
    | nil =>
      simp only [List.isEmpty_nil, if_true, List.not_mem_nil, false_implies, implies_true, iff_true]
      exact Json.nullFree_single.mpr (Json.nullFree_string _)
    | cons first rest =>
      rw [List.isEmpty_cons, if_neg Bool.false_ne_true, Json.nullFree_record (by simp),
        List.forall_mem_cons, List.forall_mem_singleton, Json.nullFree_array, List.forall_mem_map]
      simp only [Json.nullFree_ofDouble, Json.nullFree_string, true_and, forall_const]
  | distinct =>
    refine iff_of_true ?_ nofun
    dsimp only
    rw [Json.nullFree_single]
    cases request.size with
    | none => exact Json.nullFree_single.mpr (Json.nullFree_string _)
    | some size =>
      refine (Json.nullFree_record (by simp)).mpr ?_
      simp [Json.nullFree_string, Json.nullFree_count]
  | firstBy =>
    refine iff_of_true ?_ nofun
    dsimp only
    rw [Json.nullFree_single]
    have includes : (Json.single "includes" (.array [.string request.field])).NullFree :=
      Json.nullFree_single.mpr (Json.nullFree_array.mpr (by simp [Json.nullFree_string]))
    cases request.order with
    | none =>
      refine (Json.nullFree_record (by simp)).mpr ?_
      simpa [includes] using Json.nullFree_one
    | some order =>
      obtain ⟨path, direction⟩ := order
      have sorted :
          (Json.array [.single path (.single "order" (.string direction.label))]).NullFree :=
        Json.nullFree_array.mpr (by simp [Json.nullFree_single, Json.nullFree_string])
      refine (Json.nullFree_record (by simp)).mpr ?_
      simpa [includes, sorted] using Json.nullFree_one
  | _ => exact iff_of_true (fielded _) nofun

end FacetQuery
