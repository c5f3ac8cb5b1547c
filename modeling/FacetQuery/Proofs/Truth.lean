/-
**Truth of predicates and of queries.**

Which documents a predicate means depends on its atoms alone: what holds of a field and an operand.
The same atoms decide the backend's queries, so a predicate and its query can be compared on every
choice of them.

* `Predicate.holds` — **what a predicate means**, straight from its form.
* `Query.holds` — **what a query means**: its clauses under `must` all hold, of those under `should`
  as many as `minimum_should_match` says, and of those under `must_not` none.
* `Clause.holds_join` — **splicing keeps the truth** of a conjunction or a disjunction.
* `Clause.query_holds_eq` — **a predicate and the query that it is compiled to mean the same.**
-/

import FacetQuery.Clause.Render
import FacetQuery.Proofs.Compilation

namespace FacetQuery

/-- What holds of a path and an operand: the path has the value, or one of the values, or lies in a
range with a bound. -/
structure Atoms where
  term : String → Json → Bool
  terms : String → List Json → Bool
  range : String → String → Json → Bool

/-! ### What predicates mean -/

/-- The truth of a comparison of a path with an operand. -/
def Comparison.holds (atoms : Atoms) (path : String) (operand : Json) : Comparison → Bool
  | eq => atoms.term path operand
  | ne => !atoms.term path operand
  | lt => atoms.range path "lt" operand
  | lte => atoms.range path "lte" operand
  | gt => atoms.range path "gt" operand
  | gte => atoms.range path "gte" operand

/-- The truth of clauses under a connective. -/
def Connective.holds (truths : List Bool) : Connective → Bool
  | and => truths.all id
  | or => truths.any id
  | not => !truths.any id

namespace Predicate

mutual

/-- The truth of a predicate. -/
def holds (atoms : Atoms) : Predicate → Bool
  | .compare field op operand => op.holds atoms field.path (field.adapt operand).json
  | .within field operands =>
    atoms.terms field.path (operands.map fun operand => (field.adapt operand).json)
  | .flag field => atoms.term field.path (.bool true)
  | .all parts => (truths atoms parts).all id
  | .any parts => (truths atoms parts).any id
  | .not part => !holds atoms part

/-- The truths of some predicates. -/
def truths (atoms : Atoms) : List Predicate → List Bool
  | [] => []
  | part :: rest => holds atoms part :: truths atoms rest

end

end Predicate

/-! ### What queries mean -/

namespace Query

/-- The truth of an atom by its kind, its path and what stands under the path. -/
def atom (atoms : Atoms) (kind path : String) (operand : Json) : Bool :=
  if kind = "term" then atoms.term path operand
  else match operand with
    | .array values => kind == "terms" && atoms.terms path values
    | .object [(bound, value)] => kind == "range" && atoms.range path bound value
    | _ => false

/-- The truth of a list of clauses by the name that it stands under; `least` of those under `should`
have to hold. -/
def occurs (least : Nat) (name : String) (truths : List Bool) : Bool :=
  if name = "must" then truths.all id
  else if name = "must_not" then !truths.any id
  else if name = "should" then decide (least ≤ truths.count true)
  else false

/-- How many clauses under `should` have to hold; none if it is not said. -/
def least (members : Dict Json) : Nat :=
  match (Dict.find? "minimum_should_match" members).bind Json.unsigned? with
  | some n => n.toNat
  | none => 0

mutual

/-- The truth of a query: an object of one member, whose name is the kind of the query. -/
def holds (atoms : Atoms) : Json → Bool
  | .object [(kind, body)] => holdsAs atoms kind body
  | _ => false

/-- The truth of a query of some kind. -/
def holdsAs (atoms : Atoms) (kind : String) : Json → Bool
  | .object members =>
    if kind = "bool" then clauses atoms (least members) members
    else match members with
      | [(path, operand)] => atom atoms kind path operand
      | _ => false
  | _ => false

/-- The truth of all lists of clauses of a query. -/
def clauses (atoms : Atoms) (least : Nat) : List (String × Json) → Bool
  | [] => true
  | (name, .array parts) :: rest =>
    occurs least name (truths atoms parts) && clauses atoms least rest
  | _ :: rest => clauses atoms least rest

/-- The truths of some queries. -/
def truths (atoms : Atoms) : List Json → List Bool
  | [] => []
  | part :: rest => holds atoms part :: truths atoms rest

end

theorem truths_eq (atoms : Atoms) (parts : List Json) :
    truths atoms parts = parts.map (holds atoms) := by
  induction parts with
  | nil => rw [truths, List.map_nil]
  | cons part rest later => rw [truths, later, List.map_cons]

end Query

/-! ### Connectives -/

namespace Connective

variable {connective : Connective}

/-- A conjunction or disjunction of one is that one. -/
theorem holds_singleton (positive : connective ≠ .not) (truth : Bool) :
    connective.holds [truth] = truth := by
  cases connective with
  | and => simp [holds]
  | or => simp [holds]
  | not => exact absurd rfl positive

/-- Truths at the front of a conjunction or disjunction can be taken together. -/
theorem holds_append (positive : connective ≠ .not) {front rest others : List Bool}
    (same : connective.holds rest = connective.holds others) :
    connective.holds (front ++ rest) = connective.holds (connective.holds front :: others) := by
  cases connective with
  | and =>
    simp only [holds] at same
    simp [holds, same]
  | or =>
    simp only [holds] at same
    simp [holds, same]
  | not => exact absurd rfl positive

/-- Some of some truths is true exactly if one of them is. -/
theorem one_le_count_true (truths : List Bool) :
    decide (1 ≤ truths.count true) = truths.any id := by
  induction truths with
  | nil => rfl
  | cons truth rest later =>
    cases truth with
    | false => simpa using later
    | true => simp

/-- The members of a disjunction, in the order of a dictionary. -/
theorem json_or (parts : List Json) :
    or.json parts =
      .single "bool"
        (.object [("minimum_should_match", .ofUnsigned 1), ("should", .array parts)]) := by
  have before : "minimum_should_match" < "should" := by decide
  have apart : "should" ≠ "minimum_should_match" := by decide
  simp only [json, Json.record, Dict.ofList, List.foldl_cons, List.foldl_nil, Dict.insert, apart,
    before, if_false, if_true]
  rfl

/-- **The query of a connective** means what the connective says of the queries of its parts. -/
theorem holds_json (atoms : Atoms) (connective : Connective) (parts : List Json) :
    Query.holds atoms (connective.json parts) =
      connective.holds (parts.map (Query.holds atoms)) := by
  rw [← Query.truths_eq]
  cases connective with
  | and =>
    show (Query.occurs 0 "must" (Query.truths atoms parts) && true) = _
    rw [Bool.and_true]
    rfl
  | or =>
    rw [json_or]
    show (Query.occurs 1 "should" (Query.truths atoms parts) && true) = _
    rw [Bool.and_true]
    exact one_le_count_true _
  | not =>
    show (Query.occurs 0 "must_not" (Query.truths atoms parts) && true) = _
    rw [Bool.and_true]
    rfl

end Connective

/-! ### Clauses -/

namespace Clause

variable {atoms : Atoms} {connective : Connective}

/-- What a clause means: what its query does. -/
def holds (atoms : Atoms) (clause : Clause) : Bool := Query.holds atoms clause.json

theorem holds_joined (parts : List Clause) :
    (joined connective parts).holds atoms = connective.holds (parts.map (holds atoms)) := by
  rw [holds, json, jsons_eq, Connective.holds_json, List.map_map]
  rfl

theorem holds_not (part : Clause) : part.not.holds atoms = !part.holds atoms := by
  rw [not, holds_joined]
  simp [Connective.holds]

/-- The parts that a clause brings into a connective mean together what the clause means. -/
theorem holds_spliced (positive : connective ≠ .not) (clause : Clause) :
    connective.holds ((clause.spliced connective).map (holds atoms)) = clause.holds atoms := by
  cases clause with
  | test leaf => exact Connective.holds_singleton positive _
  | joined own parts =>
    rw [spliced]
    by_cases same : own = connective
    · rw [if_pos same, ← same, holds_joined]
    · rw [if_neg same]
      exact Connective.holds_singleton positive _

theorem holds_flatMap_spliced (positive : connective ≠ .not) (clauses : List Clause) :
    connective.holds ((clauses.flatMap (spliced connective)).map (holds atoms)) =
      connective.holds (clauses.map (holds atoms)) := by
  induction clauses with
  | nil => rfl
  | cons clause rest later =>
    rw [List.flatMap_cons, List.map_append, Connective.holds_append positive later,
      holds_spliced positive, List.map_cons]

/-- **Joining keeps the truth**: neither splicing nor dropping a connective of one part changes what
a conjunction or a disjunction means. -/
theorem holds_join (positive : connective ≠ .not) (clauses : List Clause) :
    (join connective clauses).holds atoms = connective.holds (clauses.map (holds atoms)) := by
  rw [← holds_flatMap_spliced positive, join]
  split
  · rename_i part spliced
    rw [spliced]
    exact (Connective.holds_singleton positive _).symm
  · exact holds_joined _

/-! ### Compiled predicates -/

/-- The test of a comparison means what the comparison does. -/
theorem holds_relationOf (path : String) (op : Comparison) (operand : Literal) :
    holds atoms (.test ⟨path, relationOf op, operand⟩) = op.holds atoms path operand.json := by
  cases op with
  | ne =>
    show (Query.occurs 0 "must_not" [atoms.term path operand.json] && true) = _
    rw [Bool.and_true]
    show (!(atoms.term path operand.json || false)) = _
    rw [Bool.or_false]
    rfl
  | _ => rfl

mutual

/-- A clause means what the predicate that it was compiled from does. -/
theorem holds_of_ofPredicate : ∀ {predicate : Predicate} {clause : Clause},
    ofPredicate predicate = .ok clause → clause.holds atoms = predicate.holds atoms
  | .compare field op operand, clause, compiled => by
    rw [ofPredicate] at compiled
    obtain ⟨_, _, _, rfl⟩ := ofComparison_eq_ok.mp compiled
    rw [holds_relationOf, Predicate.holds]
  | .within field operands, clause, compiled => by
    rw [ofPredicate] at compiled
    obtain ⟨_, _, rfl⟩ := ofMembership_eq_ok.mp compiled
    show atoms.terms field.path (Literal.jsons (operands.map field.adapt)) = _
    rw [Literal.jsons_eq, List.map_map, Predicate.holds]
    rfl
  | .flag field, clause, compiled => by
    rw [ofPredicate] at compiled
    obtain ⟨_, _, rfl⟩ := ofFlag_eq_ok.mp compiled
    rfl
  | .all parts, clause, compiled => by
    obtain ⟨_, clauses, each, rfl⟩ := ofPredicate_all_eq_ok.mp compiled
    rw [holds_join (by decide), truths_of_ofPredicates each]
    rfl
  | .any parts, clause, compiled => by
    obtain ⟨_, clauses, each, rfl⟩ := ofPredicate_any_eq_ok.mp compiled
    rw [holds_join (by decide), truths_of_ofPredicates each]
    rfl
  | .not part, clause, compiled => by
    obtain ⟨inner, innerCompiled, rfl⟩ := ofPredicate_not_eq_ok.mp compiled
    rw [holds_not, holds_of_ofPredicate innerCompiled, Predicate.holds]

theorem truths_of_ofPredicates : ∀ {parts : List Predicate} {clauses : List Clause},
    ofPredicates parts = .ok clauses → clauses.map (holds atoms) = Predicate.truths atoms parts
  | [], clauses, each => by
    cases ofPredicates_eq_ok.mp each
    rfl
  | part :: rest, clauses, each => by
    obtain ⟨clause, later, head, tail, rfl⟩ :=
      List.forall₂_cons_left_iff.mp (ofPredicates_eq_ok.mp each)
    rw [List.map_cons, holds_of_ofPredicate head,
      truths_of_ofPredicates (ofPredicates_eq_ok.mpr tail), Predicate.truths]

end

/-- **A predicate and its query mean the same**, whatever holds of the atoms. -/
theorem query_holds_eq {predicate : Predicate} {clause : Clause}
    (compiled : ofPredicate predicate = .ok clause) (atoms : Atoms) :
    Query.holds atoms clause.json = predicate.holds atoms :=
  holds_of_ofPredicate compiled

/-- Sold, or not called Bob, or neither Eve nor Mallory: nested connectives, one of them with a
single part. -/
def soldOrOther : Predicate :=
  .any
    [.any [.all [.flag ⟨"sold", .bool, true⟩], .compare ⟨"name", .text, true⟩ .ne (.text "Bob")],
      .not (.within ⟨"name", .text, true⟩ [.text "Eve", .text "Mallory"])]

theorem query_holds_eq_soldOrOther :
    ∃ clause, ofPredicate soldOrOther = .ok clause ∧
      ∀ atoms, Query.holds atoms clause.json =
        ((atoms.term "sold" (.bool true) || !atoms.term "name" (.string "bob")) ||
          !atoms.terms "name" [.string "eve", .string "mallory"]) := by
  have compiled : ∃ clause, ofPredicate soldOrOther = .ok clause := ⟨_, rfl⟩
  obtain ⟨clause, compiled⟩ := compiled
  refine ⟨clause, compiled, fun atoms => (query_holds_eq compiled atoms).trans ?_⟩
  have bob : Lowercase.ofText "Bob" = "bob" := by decide +kernel
  have eve : Lowercase.ofText "Eve" = "eve" := by decide +kernel
  have mallory : Lowercase.ofText "Mallory" = "mallory" := by decide +kernel
  simp [soldOrOther, Predicate.holds, Predicate.truths, Comparison.holds, FieldRef.adapt,
    FieldRef.lowersText, FieldKind.isTextual, Literal.lowered, Literal.json, bob, eve, mallory]

end Clause

end FacetQuery
