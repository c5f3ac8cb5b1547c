/-
**Flat clauses.**

Compilation splices a connective into one of its own kind right above it, one level at a time. That
is enough, because the clauses that it splices are flat already: a clause brings parts into a
connective of its own kind that cannot be spliced any further, and a single part is never left under
a connective.

* `Clause.Flat` — **the form of compiled clauses**: two or more parts under a conjunction or
  disjunction, none of them of its kind, and one under a negation.
* `Clause.Flat.spliced_join`, `Clause.Flat.join_splice` — **splicing what is joined** gives the
  parts of all, so a joined part can as well be replaced by what it was joined of.
* `Clause.flat_of_ofPredicate` — **every predicate compiles to a flat clause.**
-/

import FacetQuery.Proofs.Compilation

namespace FacetQuery

namespace Clause

/-- The connective at the top of a clause. -/
def head? : Clause → Option Connective
  | .test _ => none
  | .joined connective _ => some connective

/-- **A clause in flat form.** -/
inductive Flat : Clause → Prop
  | test (leaf : Test) : Flat (.test leaf)
  | joined {connective : Connective} {parts : List Clause} (positive : connective ≠ .not)
      (several : 2 ≤ parts.length) (apart : ∀ part ∈ parts, part.head? ≠ some connective)
      (each : ∀ part ∈ parts, Flat part) : Flat (.joined connective parts)
  | not {part : Clause} (inner : Flat part) : Flat part.not

variable {connective : Connective} {clause part : Clause} {clauses others : List Clause}

/-! ### What is spliced -/

/-- A clause with another connective, or none, is spliced as it is. -/
theorem spliced_of_head?_ne (apart : clause.head? ≠ some connective) :
    clause.spliced connective = [clause] := by
  cases clause with
  | test leaf => rfl
  | joined own parts =>
    rw [spliced, if_neg]
    rintro rfl
    exact apart rfl

theorem spliced_joined (connective : Connective) (parts : List Clause) :
    (joined connective parts).spliced connective = parts := by
  rw [spliced, if_pos rfl]

/-- What is joined depends on the spliced parts alone. -/
theorem join_congr
    (same : clauses.flatMap (spliced connective) = others.flatMap (spliced connective)) :
    join connective clauses = join connective others := by
  unfold join
  rw [same]

/-- Two or more parts stay under their connective. -/
theorem join_of_several (several : 2 ≤ (clauses.flatMap (spliced connective)).length) :
    join connective clauses = joined connective (clauses.flatMap (spliced connective)) := by
  unfold join
  split
  · rename_i part only
    rw [only] at several
    exact absurd several (Nat.not_succ_le_self 1)
  · rfl

namespace Flat

/-- **What a flat clause brings into a connective** is flat and cannot be spliced further. -/
theorem of_mem_spliced (positive : connective ≠ .not) (flat : clause.Flat)
    (member : part ∈ clause.spliced connective) : part.Flat ∧ part.head? ≠ some connective := by
  by_cases own : clause.head? = some connective
  · cases flat with
    | test leaf => cases own
    | joined _ _ apart each =>
      obtain rfl := Option.some.inj own
      rw [spliced_joined] at member
      exact ⟨each part member, apart part member⟩
    | not inner => exact absurd (Option.some.inj own).symm positive
  · rw [spliced_of_head?_ne own, List.mem_singleton] at member
    exact ⟨member ▸ flat, member ▸ own⟩

/-- A flat clause either is spliced as it is or brings several parts. -/
theorem spliced_eq_or (positive : connective ≠ .not) (flat : clause.Flat) :
    clause.spliced connective = [clause] ∨
      2 ≤ (clause.spliced connective).length ∧
      clause = .joined connective (clause.spliced connective) := by
  by_cases own : clause.head? = some connective
  · right
    cases flat with
    | test leaf => cases own
    | joined _ several _ _ =>
      obtain rfl := Option.some.inj own
      rw [spliced_joined]
      exact ⟨several, rfl⟩
    | not inner => exact absurd (Option.some.inj own).symm positive
  · exact .inl (spliced_of_head?_ne own)

/-- A flat clause brings at least one part into a connective. -/
theorem one_le_length_spliced (positive : connective ≠ .not) (flat : clause.Flat) :
    1 ≤ (clause.spliced connective).length := by
  rcases flat.spliced_eq_or positive with alone | ⟨several, _⟩
  · rw [alone]
    exact Nat.le_refl 1
  · omega

/-- **A connective of one part is that part.** -/
theorem join_singleton (positive : connective ≠ .not) (flat : clause.Flat) :
    join connective [clause] = clause := by
  have parts : [clause].flatMap (spliced connective) = clause.spliced connective :=
    List.flatMap_singleton ..
  rcases flat.spliced_eq_or positive with alone | ⟨several, same⟩
  · unfold join
    rw [parts, alone]
  · rw [join_of_several (parts ▸ several), parts]
    exact same.symm

/-- Two flat clauses are joined as any two are. -/
theorem join_pair (positive : connective ≠ .not) {left right : Clause} (flatLeft : left.Flat)
    (flatRight : right.Flat) :
    join connective [left, right] =
      .joined connective (left.spliced connective ++ right.spliced connective) := by
  have parts : [left, right].flatMap (spliced connective) =
      left.spliced connective ++ right.spliced connective := by
    rw [List.flatMap_cons, List.flatMap_singleton]
  have leftBrings := flatLeft.one_le_length_spliced positive
  have rightBrings := flatRight.one_le_length_spliced positive
  rw [join_of_several, parts]
  rw [parts, List.length_append]
  omega

/-- **Splicing what is joined** gives the parts of all clauses. -/
theorem spliced_join (positive : connective ≠ .not) (flat : ∀ clause ∈ clauses, clause.Flat) :
    (join connective clauses).spliced connective = clauses.flatMap (spliced connective) := by
  unfold join
  split
  · rename_i part only
    have member : part ∈ clauses.flatMap (spliced connective) := only ▸ List.mem_singleton_self part
    obtain ⟨clause, there, member⟩ := List.mem_flatMap.mp member
    rw [spliced_of_head?_ne ((flat clause there).of_mem_spliced positive member).2, only]
  · exact spliced_joined connective _

/-- **A joined part can be replaced by what it was joined of.** -/
theorem join_splice (positive : connective ≠ .not) (flat : ∀ clause ∈ clauses, clause.Flat)
    (before after : List Clause) :
    join connective (before ++ join connective clauses :: after) =
      join connective (before ++ clauses ++ after) := by
  refine join_congr ?_
  rw [List.flatMap_append, List.flatMap_cons, spliced_join positive flat, List.flatMap_append,
    List.flatMap_append, List.append_assoc]

/-- Flat clauses are joined to a flat clause. -/
theorem join (positive : connective ≠ .not) (nonempty : clauses ≠ [])
    (flat : ∀ clause ∈ clauses, clause.Flat) : (join connective clauses).Flat := by
  have each : ∀ part ∈ clauses.flatMap (spliced connective), part.Flat ∧
      part.head? ≠ .some connective := by
    intro part member
    obtain ⟨clause, there, member⟩ := List.mem_flatMap.mp member
    exact (flat clause there).of_mem_spliced positive member
  unfold Clause.join
  split
  · rename_i part only
    exact (each part (only ▸ List.mem_singleton_self part)).1
  · rename_i notOne
    refine .joined positive ?_ (fun part member => (each part member).2) fun part member =>
      (each part member).1
    match parts : clauses.flatMap (spliced connective) with
    | [] =>
      obtain ⟨clause, rest, rfl⟩ := List.exists_cons_of_ne_nil nonempty
      have brings := (flat clause List.mem_cons_self).one_le_length_spliced positive
      rw [List.flatMap_cons, List.append_eq_nil_iff] at parts
      rw [parts.1] at brings
      exact absurd brings (by decide)
    | [part] => exact absurd parts (notOne part)
    | first :: second :: rest =>
      show 2 ≤ rest.length + 2
      omega

end Flat

/-! ### Compiled clauses -/

theorem ne_nil_of_ofPredicates {parts : List Predicate} (each : ofPredicates parts = .ok clauses)
    (nonempty : parts ≠ []) : clauses ≠ [] := by
  rintro rfl
  exact nonempty (List.forall₂_nil_right_iff.mp (ofPredicates_eq_ok.mp each))

mutual

/-- **Every predicate compiles to a flat clause.** -/
theorem flat_of_ofPredicate : ∀ {predicate : Predicate} {clause : Clause},
    ofPredicate predicate = .ok clause → clause.Flat
  | .compare field op operand, clause, compiled => by
    rw [ofPredicate] at compiled
    obtain ⟨_, _, _, rfl⟩ := ofComparison_eq_ok.mp compiled
    exact .test _
  | .within field operands, clause, compiled => by
    rw [ofPredicate] at compiled
    obtain ⟨_, _, rfl⟩ := ofMembership_eq_ok.mp compiled
    exact .test _
  | .flag field, clause, compiled => by
    rw [ofPredicate] at compiled
    obtain ⟨_, _, rfl⟩ := ofFlag_eq_ok.mp compiled
    exact .test _
  | .all parts, clause, compiled => by
    obtain ⟨nonempty, clauses, each, rfl⟩ := ofPredicate_all_eq_ok.mp compiled
    exact .join (by decide) (ne_nil_of_ofPredicates each nonempty) (flat_of_ofPredicates each)
  | .any parts, clause, compiled => by
    obtain ⟨nonempty, clauses, each, rfl⟩ := ofPredicate_any_eq_ok.mp compiled
    exact .join (by decide) (ne_nil_of_ofPredicates each nonempty) (flat_of_ofPredicates each)
  | .not part, clause, compiled => by
    obtain ⟨inner, innerCompiled, rfl⟩ := ofPredicate_not_eq_ok.mp compiled
    exact .not (flat_of_ofPredicate innerCompiled)

theorem flat_of_ofPredicates : ∀ {parts : List Predicate} {clauses : List Clause},
    ofPredicates parts = .ok clauses → ∀ clause ∈ clauses, clause.Flat
  | [], clauses, each => by
    cases ofPredicates_eq_ok.mp each
    exact fun clause member => nomatch member
  | part :: rest, clauses, each => by
    obtain ⟨first, later, head, tail, rfl⟩ :=
      List.forall₂_cons_left_iff.mp (ofPredicates_eq_ok.mp each)
    intro clause member
    rcases List.mem_cons.mp member with rfl | member
    · exact flat_of_ofPredicate head
    · exact flat_of_ofPredicates (ofPredicates_eq_ok.mpr tail) clause member

end

end Clause

end FacetQuery
