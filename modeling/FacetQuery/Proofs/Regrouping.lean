/-
**Grouping of predicates.**

How the parts of a predicate are bracketed says nothing about documents, and it shall say nothing
about the clause either: a result that was asked for under one bracketing has to be found under
every other.

* `Regrouped` — **predicates that differ in their grouping alone**: a group inside one of its own
  kind is spliced into it, a group of one part is that part, and a flag by itself is compared with
  true; anywhere and in both directions.
* `Clause.ofPredicate_splice`, `Clause.ofPredicate_single` — the two ways to regroup keep the
  clause, and the failure too.
* `Clause.ofPredicate_regrouped` — **predicates regrouped compile alike**, joining predicates is
  joining their clauses, and joining clauses is associative.
-/

import FacetQuery.Proofs.FlatClauses
import FacetQuery.Proofs.Resolution

namespace FacetQuery

/-! ### Groups -/

/-- The two kinds of groups of predicates. -/
inductive Grouping where
  | all
  | any

namespace Grouping

/-- The predicate that groups some parts. -/
def predicate : Grouping → List Predicate → Predicate
  | all, parts => .all parts
  | any, parts => .any parts

/-- The connective that a group becomes. -/
def connective : Grouping → Connective
  | all => .and
  | any => .or

theorem connective_ne_not (grouping : Grouping) : grouping.connective ≠ .not := by
  cases grouping <;> decide

end Grouping

/-- **Predicates that differ in their grouping alone.** -/
inductive Regrouped : Predicate → Predicate → Prop
  | refl (predicate : Predicate) : Regrouped predicate predicate
  | symm {p q : Predicate} : Regrouped p q → Regrouped q p
  | trans {p q r : Predicate} : Regrouped p q → Regrouped q r → Regrouped p r
  | splice (grouping : Grouping) (before after : List Predicate) {inner : List Predicate}
      (nonempty : inner ≠ []) :
      Regrouped (grouping.predicate (before ++ grouping.predicate inner :: after))
        (grouping.predicate (before ++ inner ++ after))
  | single (grouping : Grouping) (part : Predicate) : Regrouped (grouping.predicate [part]) part
  | flag (field : FieldRef) : Regrouped (.flag field) (.compare field .eq (.bool true))
  | inGroup (grouping : Grouping) (before after : List Predicate) {p q : Predicate} :
      Regrouped p q →
      Regrouped (grouping.predicate (before ++ p :: after))
        (grouping.predicate (before ++ q :: after))
  | inNot {p q : Predicate} : Regrouped p q → Regrouped p.not q.not

namespace Clause

variable {before after inner parts : List Predicate}

/-! ### Compiled groups -/

/-- A group with parts compiles by its parts, and fails as they do. -/
theorem ofPredicate_group (grouping : Grouping) (nonempty : parts ≠ []) :
    ofPredicate (grouping.predicate parts) =
      (do return join grouping.connective (← ofPredicates parts)) := by
  obtain ⟨part, rest, rfl⟩ := List.exists_cons_of_ne_nil nonempty
  cases grouping with
  | all =>
    show ofPredicate (.all (part :: rest)) = _
    rw [ofPredicate]
    rfl
  | any =>
    show ofPredicate (.any (part :: rest)) = _
    rw [ofPredicate]
    rfl

theorem ofPredicates_append :
    ofPredicates (before ++ after) =
      (do
        let first ← ofPredicates before
        let last ← ofPredicates after
        return first ++ last) := by
  simp only [ofPredicates_eq, List.mapM_append]

/-- **A group inside one of its own kind** can be spliced into it, whether all compiles or not. -/
theorem ofPredicate_splice (grouping : Grouping) (before after : List Predicate)
    (nonempty : inner ≠ []) :
    ofPredicate (grouping.predicate (before ++ grouping.predicate inner :: after)) =
      ofPredicate (grouping.predicate (before ++ inner ++ after)) := by
  rw [ofPredicate_group grouping (by simp), ofPredicate_group grouping (by simp [nonempty]),
    List.append_assoc, ofPredicates_append, ofPredicates_append, ofPredicates_append, ofPredicates,
    ofPredicate_group grouping nonempty]
  -- The first of the three lists that does not compile decides both failures.
  cases ofPredicates before with
  | error failure => rfl
  | ok first =>
    cases compiled : ofPredicates inner with
    | error failure => rfl
    | ok middle =>
      cases ofPredicates after with
      | error failure => rfl
      | ok last =>
        have flat := flat_of_ofPredicates compiled
        simp only [ok_bind, pure_eq_ok]
        rw [Flat.join_splice grouping.connective_ne_not flat, List.append_assoc]

/-- **A group of one part** compiles as the part does. -/
theorem ofPredicate_single (grouping : Grouping) (part : Predicate) :
    ofPredicate (grouping.predicate [part]) = ofPredicate part := by
  rw [ofPredicate_group grouping (List.cons_ne_nil part []), ofPredicates, ofPredicates]
  cases compiled : ofPredicate part with
  | error failure => rfl
  | ok clause =>
    simp only [ok_bind, pure_eq_ok]
    rw [(flat_of_ofPredicate compiled).join_singleton grouping.connective_ne_not]

/-- A flag by itself compiles to the comparison with true. -/
theorem ofPredicate_flag_eq_ok {field : FieldRef} {clause : Clause} :
    ofPredicate (.flag field) = .ok clause ↔
      ofPredicate (.compare field .eq (.bool true)) = .ok clause := by
  have kept : field.adapt (.bool true) = .bool true := by
    unfold FieldRef.adapt
    split <;> rfl
  rw [ofPredicate, ofPredicate, ofFlag_eq_ok, ofComparison_eq_ok, kept, Literal.fits,
    decide_eq_true_iff]
  simp [Comparison.isRange, relationOf]

/-- A group compiles exactly if it has parts and all of them do. -/
theorem ofPredicate_group_eq_ok {grouping : Grouping} {clause : Clause} :
    ofPredicate (grouping.predicate parts) = .ok clause ↔
      parts ≠ [] ∧ ∃ clauses, ofPredicates parts = .ok clauses ∧
        clause = join grouping.connective clauses := by
  cases grouping with
  | all => exact ofPredicate_all_eq_ok
  | any => exact ofPredicate_any_eq_ok

/-! ### Regrouped predicates -/

/-- Parts that compile alike can stand for each other in a group. -/
theorem ofPredicate_inGroup (grouping : Grouping) (before after : List Predicate) {p q : Predicate}
    (alike : ∀ clause, ofPredicate p = .ok clause → ofPredicate q = .ok clause) {clause : Clause}
    (compiled : ofPredicate (grouping.predicate (before ++ p :: after)) = .ok clause) :
    ofPredicate (grouping.predicate (before ++ q :: after)) = .ok clause := by
  obtain ⟨_, clauses, each, rfl⟩ := ofPredicate_group_eq_ok.mp compiled
  refine ofPredicate_group_eq_ok.mpr ⟨by simp, clauses, ?_, rfl⟩
  rw [ofPredicates_append, ofPredicates] at each ⊢
  obtain ⟨first, front, each⟩ := bind_eq_ok.mp each
  obtain ⟨last, behind, each⟩ := bind_eq_ok.mp each
  obtain ⟨own, here, tail⟩ := bind_eq_ok.mp behind
  rw [front, ok_bind, alike own here, ok_bind, tail, ok_bind]
  exact each

/-- **Predicates that differ in their grouping alone compile to the same clause**, if one of them
does. -/
theorem ofPredicate_eq_ok_of_regrouped {p q : Predicate} (regrouped : Regrouped p q) :
    ∀ clause, ofPredicate p = .ok clause ↔ ofPredicate q = .ok clause := by
  induction regrouped with
  | refl predicate => exact fun _ => Iff.rfl
  | symm _ alike => exact fun clause => (alike clause).symm
  | trans _ _ first second => exact fun clause => (first clause).trans (second clause)
  | splice grouping before after nonempty =>
    intro clause
    rw [ofPredicate_splice grouping before after nonempty]
  | single grouping part =>
    intro clause
    rw [ofPredicate_single]
  | flag field => exact fun _ => ofPredicate_flag_eq_ok
  | inGroup grouping before after _ alike =>
    intro clause
    constructor
    · exact ofPredicate_inGroup grouping before after fun clause => (alike clause).mp
    · exact ofPredicate_inGroup grouping before after fun clause => (alike clause).mpr
  | inNot _ alike =>
    intro clause
    rw [ofPredicate_not_eq_ok, ofPredicate_not_eq_ok]
    exact exists_congr fun inner => and_congr_left fun _ => alike inner

/-! ### Two clauses under one connective -/

/-- Joining predicates is joining their clauses. -/
theorem ofPredicate_pair (grouping : Grouping) {p q : Predicate} {left right : Clause}
    (first : ofPredicate p = .ok left) (second : ofPredicate q = .ok right) :
    ofPredicate (grouping.predicate [p, q]) =
      .ok (joined grouping.connective
        (left.spliced grouping.connective ++ right.spliced grouping.connective)) := by
  have compiled : ofPredicates [p, q] = .ok [left, right] :=
    ofPredicates_eq_ok.mpr (.cons first (.cons second .nil))
  rw [ofPredicate_group grouping (List.cons_ne_nil p [q]), compiled, ok_bind, pure_eq_ok,
    (flat_of_ofPredicate first).join_pair grouping.connective_ne_not (flat_of_ofPredicate second)]

theorem and_assoc (a b c : Clause) : (a.and b).and c = a.and (b.and c) := by
  unfold Clause.and
  rw [spliced_joined, spliced_joined, List.append_assoc]

theorem or_assoc (a b c : Clause) : (a.or b).or c = a.or (b.or c) := by
  unfold Clause.or
  rw [spliced_joined, spliced_joined, List.append_assoc]

/-- **Grouping says nothing.** Predicates that differ in their grouping alone both become the same
clause, and so stand for one name whatever is measured under them, or both become none. Two
predicates joined become their clauses joined, and it does not matter how three clauses of any form
are bracketed. -/
theorem ofPredicate_regrouped :
    (∀ {p q : Predicate}, Regrouped p q →
      ((∃ clause, ofPredicate p = .ok clause ∧ ofPredicate q = .ok clause) ∨
        ∃ failure other, ofPredicate p = .error failure ∧ ofPredicate q = .error other) ∧
      ∀ {t : ValueType} (field : Field t) (kind : FacetKind) (name : String),
        Reading.lookupName field kind (some p) = .ok name ↔
          Reading.lookupName field kind (some q) = .ok name) ∧
    (∀ {p q : Predicate} {left right : Clause},
      ofPredicate p = .ok left → ofPredicate q = .ok right →
      ofPredicate (p.and q) = .ok (left.and right) ∧ ofPredicate (p.or q) = .ok (left.or right)) ∧
    ∀ a b c : Clause, (a.and b).and c = a.and (b.and c) ∧ (a.or b).or c = a.or (b.or c) := by
  refine ⟨fun {p q} regrouped => ⟨?_, fun field kind name => ?_⟩, fun first second => ⟨?_, ?_⟩,
    fun a b c => ⟨and_assoc a b c, or_assoc a b c⟩⟩
  · have alike := ofPredicate_eq_ok_of_regrouped regrouped
    cases compiled : ofPredicate p with
    | ok clause => exact .inl ⟨clause, rfl, (alike clause).mp compiled⟩
    | error failure =>
      refine .inr ⟨failure, ?_⟩
      cases other : ofPredicate q with
      | ok clause => exact nomatch compiled.symm.trans ((alike clause).mpr other)
      | error failure => exact ⟨failure, rfl, rfl⟩
  · rw [Reading.lookupName_eq_ok, Reading.lookupName_eq_ok]
    simp only [mapM_some_eq_ok, ofPredicate_eq_ok_of_regrouped regrouped]
  · exact ofPredicate_pair .all first second
  · exact ofPredicate_pair .any first second

/-- Sold, and in two groups cheap, and not called Bob. -/
def soldCheap : Predicate :=
  .all [.all [.flag ⟨"sold", .bool, true⟩, .any [.compare ⟨"price", .uint, true⟩ .lt (.uint 10)]],
    .not (.all [.compare ⟨"name", .text, false⟩ .eq (.text "Bob")])]

/-- The same without any group that is not needed. -/
def soldCheapPlain : Predicate :=
  .all [.compare ⟨"sold", .bool, true⟩ .eq (.bool true),
    .compare ⟨"price", .uint, true⟩ .lt (.uint 10),
    .not (.compare ⟨"name", .text, false⟩ .eq (.text "Bob"))]

theorem regrouped_soldCheap : Regrouped soldCheap soldCheapPlain := by
  refine (Regrouped.splice .all [] [_] (List.cons_ne_nil _ _)).trans ?_
  refine (Regrouped.inGroup .all [] [_, _] (.flag _)).trans ?_
  refine (Regrouped.inGroup .all [_] [_] (.single .any _)).trans ?_
  exact Regrouped.inGroup .all [_, _] [] (.inNot (.single .all _))

theorem ofPredicate_regrouped_soldCheap :
    ∃ clause, ofPredicate soldCheap = .ok clause ∧ ofPredicate soldCheapPlain = .ok clause ∧
      ofPredicate (soldCheap.and soldCheapPlain) = .ok (clause.and clause) := by
  have compiled : ∃ clause, ofPredicate soldCheapPlain = .ok clause := ⟨_, rfl⟩
  rcases (ofPredicate_regrouped.1 regrouped_soldCheap).1 with ⟨clause, first,
      second⟩ | ⟨_, _, _, failed⟩
  · exact ⟨clause, first, second, (ofPredicate_regrouped.2.1 first second).1⟩
  · obtain ⟨clause, compiled⟩ := compiled
    exact nomatch compiled.symm.trans failed

end Clause

end FacetQuery
