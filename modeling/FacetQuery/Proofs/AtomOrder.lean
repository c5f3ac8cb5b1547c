/-
**Atoms in order.**

Compilation moves parts up to where they are joined and leaves out a connective of one part. The
atoms stay as they are: each becomes one test, in its place from left to right, and nothing else
becomes a test. So the clause of a predicate has as many tests as the predicate has atoms, and no
more levels.

* `Predicate.atoms`, `Clause.tests` — **the atoms of a predicate and the tests of a clause**, from
  left to right.
* `Clause.Normal` — **the form of compiled clauses**: flat, and every test with an operand of its
  relation's shape.
* `Clause.tests_join`, `Clause.depth_join_le` — **joining keeps the tests in order** and adds at
  most one level.
* `Clause.mapM_atoms` — each test is what its atom compiles to by itself.
* `Clause.atoms_kept_in_order` — **compiled clauses are in this form and keep every atom**, and
  joining two clauses of this form gives another.
-/

import FacetQuery.Proofs.Regrouping

namespace FacetQuery

/-! ### Atoms of a predicate -/

namespace Predicate

mutual

/-- **The atoms of a predicate**, from left to right: its comparisons, memberships and flags. -/
def atoms : Predicate → List Predicate
  | .compare field op operand => [.compare field op operand]
  | .within field operands => [.within field operands]
  | .flag field => [.flag field]
  | .all parts => atomsOfAll parts
  | .any parts => atomsOfAll parts
  | .not part => atoms part

/-- The atoms of some predicates. -/
def atomsOfAll : List Predicate → List Predicate
  | [] => []
  | part :: rest => atoms part ++ atomsOfAll rest

end

mutual

/-- The number of levels. -/
def depth : Predicate → Nat
  | .compare _ _ _ => 1
  | .within _ _ => 1
  | .flag _ => 1
  | .all parts => 1 + depthOfAll parts
  | .any parts => 1 + depthOfAll parts
  | .not part => 1 + depth part

/-- The greatest number of levels of some predicates, none for no predicates. -/
def depthOfAll : List Predicate → Nat
  | [] => 0
  | part :: rest => max (depth part) (depthOfAll rest)

end

/-- A predicate that joins no others. -/
def IsAtom : Predicate → Prop
  | .compare _ _ _ => True
  | .within _ _ => True
  | .flag _ => True
  | _ => False

variable {predicate : Predicate}

theorem IsAtom.atoms_eq (atom : predicate.IsAtom) : predicate.atoms = [predicate] := by
  cases predicate with
  | compare | within | flag => rw [atoms]
  | all | any | not => cases atom

theorem IsAtom.depth_eq (atom : predicate.IsAtom) : predicate.depth = 1 := by
  cases predicate with
  | compare | within | flag => rw [depth]
  | all | any | not => cases atom

theorem atoms_group (grouping : Grouping) (parts : List Predicate) :
    (grouping.predicate parts).atoms = atomsOfAll parts := by
  cases grouping with
  | all => rw [Grouping.predicate, atoms]
  | any => rw [Grouping.predicate, atoms]

theorem depth_group (grouping : Grouping) (parts : List Predicate) :
    (grouping.predicate parts).depth = 1 + depthOfAll parts := by
  cases grouping with
  | all => rw [Grouping.predicate, depth]
  | any => rw [Grouping.predicate, depth]

end Predicate

/-! ### Operands of a test -/

/-- A single value: neither nothing nor a list. -/
def Literal.IsSingle : Literal → Prop
  | .null => False
  | .list _ => False
  | _ => True

/-- **A test has an operand of its relation's shape**: a list of single values for a membership, and
a single value for every other relation. -/
def Test.WellFormed (leaf : Test) : Prop :=
  if leaf.relation = .within then
    ∃ items, leaf.operand = .list items ∧ ∀ item ∈ items, item.IsSingle
  else leaf.operand.IsSingle

theorem Literal.isSingle_of_fits {operand : Literal} {kind : FieldKind}
    (fits : operand.fits kind = true) : operand.IsSingle := by
  cases operand with
  | null | list => cases fits
  | _ => trivial

theorem Literal.isSingle_lowered {operand : Literal} (single : operand.IsSingle) :
    operand.lowered.IsSingle := by
  cases operand with
  | null | list => cases single
  | text content | choice name =>
    rw [lowered]
    trivial
  | bool | int | uint | float | instant => exact single

/-- An operand that fits is a single value in every case. -/
theorem FieldRef.isSingle_adapt {field : FieldRef} {operand : Literal}
    (fits : operand.fits field.kind = true) : (field.adapt operand).IsSingle := by
  have single := Literal.isSingle_of_fits fits
  unfold adapt
  split
  · exact Literal.isSingle_lowered single
  · exact single

namespace Clause

variable {connective : Connective} {clause part left right : Clause} {clauses : List Clause}

/-! ### Tests of a clause -/

mutual

/-- **The tests of a clause**, from left to right. -/
def tests : Clause → List Test
  | .test leaf => [leaf]
  | .joined _ parts => testsOfAll parts

/-- The tests of some clauses. -/
def testsOfAll : List Clause → List Test
  | [] => []
  | part :: rest => tests part ++ testsOfAll rest

end

theorem testsOfAll_append (clauses others : List Clause) :
    testsOfAll (clauses ++ others) = testsOfAll clauses ++ testsOfAll others := by
  induction clauses with
  | nil => rw [testsOfAll, List.nil_append, List.nil_append]
  | cons clause rest later =>
    rw [List.cons_append, testsOfAll, testsOfAll, later, List.append_assoc]

theorem testsOfAll_singleton (clause : Clause) : testsOfAll [clause] = clause.tests := by
  rw [testsOfAll, testsOfAll, List.append_nil]

mutual

/-- Counting the tests is counting the leaves. -/
theorem leaves_eq (clause : Clause) : clause.leaves = clause.tests.length := by
  cases clause with
  | test leaf =>
    rw [leaves, tests]
    rfl
  | joined connective parts => rw [leaves, tests, leavesOfAll_eq parts]

theorem leavesOfAll_eq (clauses : List Clause) :
    leavesOfAll clauses = (testsOfAll clauses).length := by
  cases clauses with
  | nil =>
    rw [leavesOfAll, testsOfAll]
    rfl
  | cons clause rest =>
    rw [leavesOfAll, testsOfAll, List.length_append, leaves_eq clause, leavesOfAll_eq rest]

end

/-- What a clause brings into a connective has the tests of the clause. -/
theorem testsOfAll_spliced (connective : Connective) (clause : Clause) :
    testsOfAll (clause.spliced connective) = clause.tests := by
  cases clause with
  | test leaf => exact testsOfAll_singleton (.test leaf)
  | joined own parts =>
    rw [spliced]
    split
    · rw [tests]
    · exact testsOfAll_singleton (.joined own parts)

theorem testsOfAll_flatMap_spliced (connective : Connective) (clauses : List Clause) :
    testsOfAll (clauses.flatMap (spliced connective)) = testsOfAll clauses := by
  induction clauses with
  | nil => rfl
  | cons clause rest later =>
    rw [List.flatMap_cons, testsOfAll_append, testsOfAll_spliced, later, testsOfAll]

/-- **Joining keeps the tests in order**, none of them left out or doubled. -/
theorem tests_join (connective : Connective) (clauses : List Clause) :
    (join connective clauses).tests = testsOfAll clauses := by
  rw [← testsOfAll_flatMap_spliced connective, join]
  split
  · rename_i part only
    rw [only, testsOfAll_singleton]
  · rw [tests]

/-! ### Levels of a clause -/

theorem depth_le_depthOfAll (member : clause ∈ clauses) : clause.depth ≤ depthOfAll clauses := by
  induction clauses with
  | nil => cases member
  | cons first rest later =>
    rw [depthOfAll]
    rcases List.mem_cons.mp member with rfl | member
    · exact Nat.le_max_left ..
    · exact Nat.le_trans (later member) (Nat.le_max_right ..)

theorem depthOfAll_le {bound : Nat} (each : ∀ clause ∈ clauses, clause.depth ≤ bound) :
    depthOfAll clauses ≤ bound := by
  induction clauses with
  | nil =>
    rw [depthOfAll]
    exact Nat.zero_le bound
  | cons first rest later =>
    rw [depthOfAll]
    have behind := later fun clause member => each clause (List.mem_cons_of_mem _ member)
    exact Nat.max_le.mpr ⟨each first List.mem_cons_self, behind⟩

/-- What a clause brings into a connective has no more levels than the clause. -/
theorem depth_le_of_mem_spliced (member : part ∈ clause.spliced connective) :
    part.depth ≤ clause.depth := by
  cases clause with
  | test leaf => exact Nat.le_of_eq (congrArg depth (List.mem_singleton.mp member))
  | joined own parts =>
    rw [spliced] at member
    split at member
    · have below := depth_le_depthOfAll member
      rw [depth]
      omega
    · exact Nat.le_of_eq (congrArg depth (List.mem_singleton.mp member))

/-- **Joining adds at most one level.** -/
theorem depth_join_le (connective : Connective) (clauses : List Clause) :
    (join connective clauses).depth ≤ 1 + depthOfAll clauses := by
  have each : ∀ part ∈ clauses.flatMap (spliced connective), part.depth ≤ depthOfAll clauses := by
    intro part member
    obtain ⟨clause, there, member⟩ := List.mem_flatMap.mp member
    exact Nat.le_trans (depth_le_of_mem_spliced member) (depth_le_depthOfAll there)
  rw [join]
  split
  · rename_i part only
    have alone := each part (only ▸ List.mem_singleton_self part)
    omega
  · rw [depth]
    exact Nat.add_le_add_left (depthOfAll_le each) 1

/-! ### The normal form -/

/-- **The form of compiled clauses**: flat, and every test with an operand of its relation's
shape. -/
structure Normal (clause : Clause) : Prop where
  flat : clause.Flat
  wellFormed : ∀ leaf ∈ clause.tests, leaf.WellFormed

/-- Two flat clauses are joined as any number of clauses are. -/
theorem and_eq_join (flatLeft : left.Flat) (flatRight : right.Flat) :
    left.and right = join .and [left, right] :=
  (flatLeft.join_pair (by decide) flatRight).symm

theorem or_eq_join (flatLeft : left.Flat) (flatRight : right.Flat) :
    left.or right = join .or [left, right] :=
  (flatLeft.join_pair (by decide) flatRight).symm

/-- **Joining two clauses in normal form** gives a clause in normal form, with the tests of both. -/
theorem Normal.join_pair (positive : connective ≠ .not) (normalLeft : left.Normal)
    (normalRight : right.Normal) :
    (join connective [left, right]).Normal ∧
      (join connective [left, right]).tests = left.tests ++ right.tests := by
  have both : (join connective [left, right]).tests = left.tests ++ right.tests := by
    rw [tests_join, testsOfAll, testsOfAll_singleton]
  refine ⟨⟨.join positive (List.cons_ne_nil _ _) ?_, ?_⟩, both⟩
  · rw [List.forall_mem_cons, List.forall_mem_singleton]
    exact ⟨normalLeft.flat, normalRight.flat⟩
  · rw [both, List.forall_mem_append]
    exact ⟨normalLeft.wellFormed, normalRight.wellFormed⟩

/-! ### Compiled predicates -/

/-- **An atom compiles to one test**, with an operand of its relation's shape. -/
theorem exists_test_of_isAtom {atom : Predicate} (isAtom : atom.IsAtom)
    (compiled : ofPredicate atom = .ok clause) : ∃ leaf, clause = .test leaf ∧ leaf.WellFormed := by
  cases atom with
  | compare field op operand =>
    rw [ofPredicate] at compiled
    obtain ⟨_, fits, _, rfl⟩ := ofComparison_eq_ok.mp compiled
    have other : relationOf op ≠ .within := by cases op <;> decide
    refine ⟨_, rfl, ?_⟩
    rw [Test.WellFormed, if_neg other]
    exact FieldRef.isSingle_adapt fits
  | within field operands =>
    rw [ofPredicate] at compiled
    obtain ⟨_, fits, rfl⟩ := ofMembership_eq_ok.mp compiled
    refine ⟨_, rfl, ?_⟩
    rw [Test.WellFormed, if_pos rfl]
    refine ⟨operands.map field.adapt, rfl, List.forall_mem_map.mpr fun operand member => ?_⟩
    exact FieldRef.isSingle_adapt (fits operand member)
  | flag field =>
    rw [ofPredicate] at compiled
    obtain ⟨_, _, rfl⟩ := ofFlag_eq_ok.mp compiled
    exact ⟨_, rfl, trivial⟩
  | all | any | not => cases isAtom

/-- A relation between predicates and clauses that holds of atoms, and of what is joined or negated
if it holds of the parts. -/
structure Respects (related : Predicate → Clause → Prop) : Prop where
  atom : ∀ {atom : Predicate} {leaf : Test}, atom.IsAtom → ofPredicate atom = .ok (.test leaf) →
    leaf.WellFormed → related atom (.test leaf)
  group : ∀ {parts : List Predicate} {clauses : List Clause} (grouping : Grouping),
    List.Forall₂ related parts clauses →
    related (grouping.predicate parts) (join grouping.connective clauses)
  negation : ∀ {part : Predicate} {inner : Clause}, related part inner → related part.not inner.not

namespace Respects

variable {related : Predicate → Clause → Prop}

theorem of_isAtom (respects : Respects related) {atom : Predicate} (isAtom : atom.IsAtom)
    (compiled : ofPredicate atom = .ok clause) : related atom clause := by
  obtain ⟨leaf, rfl, wellFormed⟩ := exists_test_of_isAtom isAtom compiled
  exact respects.atom isAtom compiled wellFormed

mutual

/-- **What holds of atoms and is kept by joining and negating** holds of every predicate and its
clause. -/
theorem of_ofPredicate (respects : Respects related) : ∀ {predicate : Predicate} {clause : Clause},
    ofPredicate predicate = .ok clause → related predicate clause
  | .compare _ _ _, _, compiled => respects.of_isAtom trivial compiled
  | .within _ _, _, compiled => respects.of_isAtom trivial compiled
  | .flag _, _, compiled => respects.of_isAtom trivial compiled
  | .all parts, clause, compiled => by
    obtain ⟨_, clauses, each, rfl⟩ := ofPredicate_all_eq_ok.mp compiled
    exact respects.group .all (respects.of_ofPredicates each)
  | .any parts, clause, compiled => by
    obtain ⟨_, clauses, each, rfl⟩ := ofPredicate_any_eq_ok.mp compiled
    exact respects.group .any (respects.of_ofPredicates each)
  | .not part, clause, compiled => by
    obtain ⟨inner, innerCompiled, rfl⟩ := ofPredicate_not_eq_ok.mp compiled
    exact respects.negation (respects.of_ofPredicate innerCompiled)

theorem of_ofPredicates (respects : Respects related) :
    ∀ {parts : List Predicate} {clauses : List Clause},
    ofPredicates parts = .ok clauses → List.Forall₂ related parts clauses
  | [], clauses, each => by
    cases ofPredicates_eq_ok.mp each
    exact .nil
  | part :: rest, clauses, each => by
    obtain ⟨first, later, head, tail, rfl⟩ :=
      List.forall₂_cons_left_iff.mp (ofPredicates_eq_ok.mp each)
    exact .cons (respects.of_ofPredicate head)
      (respects.of_ofPredicates (ofPredicates_eq_ok.mpr tail))

end

end Respects

/-- The tests of a clause are what the atoms of a predicate compile to, each by itself. -/
def KeepsAtoms (predicate : Predicate) (clause : Clause) : Prop :=
  predicate.atoms.mapM ofPredicate = .ok (clause.tests.map .test)

theorem keepsAtoms_all {parts : List Predicate} (each : List.Forall₂ KeepsAtoms parts clauses) :
    (Predicate.atomsOfAll parts).mapM ofPredicate = .ok ((testsOfAll clauses).map .test) := by
  induction each with
  | nil =>
    rw [Predicate.atomsOfAll, testsOfAll]
    rfl
  | cons head _ later =>
    rw [KeepsAtoms] at head
    rw [Predicate.atomsOfAll, testsOfAll, List.mapM_append, head, later, List.map_append]
    rfl

/-- **Each test is what its atom compiles to by itself**, in the order of the atoms. -/
theorem respects_keepsAtoms : Respects KeepsAtoms where
  atom isAtom compiled _ := by
    rw [KeepsAtoms, isAtom.atoms_eq, mapM_eq_ok, tests]
    exact .cons compiled .nil
  group grouping each := by
    rw [KeepsAtoms, Predicate.atoms_group, tests_join]
    exact keepsAtoms_all each
  negation kept := by
    rw [KeepsAtoms, Predicate.atoms, not, tests, testsOfAll_singleton]
    exact kept

theorem wellFormed_all {parts : List Predicate}
    (each : List.Forall₂ (fun _ clause => ∀ leaf ∈ clause.tests, leaf.WellFormed) parts clauses) :
    ∀ leaf ∈ testsOfAll clauses, leaf.WellFormed := by
  induction each with
  | nil =>
    rw [testsOfAll]
    exact fun leaf member => nomatch member
  | cons head _ later =>
    rw [testsOfAll, List.forall_mem_append]
    exact ⟨head, later⟩

/-- **Every test has an operand of its relation's shape.** -/
theorem respects_wellFormed : Respects fun _ clause => ∀ leaf ∈ clause.tests, leaf.WellFormed where
  atom _ _ wellFormed := by
    rw [tests, List.forall_mem_singleton]
    exact wellFormed
  group grouping each := by
    rw [tests_join]
    exact wellFormed_all each
  negation inner := by
    rw [not, tests, testsOfAll_singleton]
    exact inner

theorem depthOfAll_le_depthOfAll {parts : List Predicate}
    (each : List.Forall₂ (fun part clause => clause.depth ≤ part.depth) parts clauses) :
    depthOfAll clauses ≤ Predicate.depthOfAll parts := by
  induction each with
  | nil =>
    rw [depthOfAll]
    exact Nat.zero_le _
  | cons head _ later =>
    rw [depthOfAll, Predicate.depthOfAll]
    omega

/-- **A clause has no more levels than its predicate.** -/
theorem respects_depth : Respects fun predicate clause => clause.depth ≤ predicate.depth where
  atom {atom leaf} isAtom _ _ := by
    have single : depth (.test leaf) = 1 := by rw [depth]
    exact Nat.le_of_eq (single.trans isAtom.depth_eq.symm)
  group grouping each := by
    rw [Predicate.depth_group]
    exact Nat.le_trans (depth_join_le _ _) (Nat.add_le_add_left (depthOfAll_le_depthOfAll each) 1)
  negation inner := by
    rw [not, depth, depthOfAll, depthOfAll, Predicate.depth, Nat.max_zero]
    exact Nat.add_le_add_left inner 1

/-- **Compiled clauses are in normal form and keep every atom.** The clause of a predicate is flat,
its tests are what the atoms of the predicate compile to, each by itself and in their order, so
there are as many of them, and it has no more levels than the predicate. Joining two clauses in
normal form gives one, with the tests of both. -/
theorem atoms_kept_in_order :
    (∀ {predicate : Predicate} {clause : Clause}, ofPredicate predicate = .ok clause →
      clause.Normal ∧ predicate.atoms.mapM ofPredicate = .ok (clause.tests.map .test) ∧
        clause.leaves = predicate.atoms.length ∧ clause.depth ≤ predicate.depth) ∧
    ∀ {left right : Clause}, left.Normal → right.Normal →
      ((left.and right).Normal ∧ (left.and right).tests = left.tests ++ right.tests) ∧
        (left.or right).Normal ∧ (left.or right).tests = left.tests ++ right.tests := by
  constructor
  · intro predicate clause compiled
    have kept : KeepsAtoms predicate clause := respects_keepsAtoms.of_ofPredicate compiled
    refine ⟨⟨flat_of_ofPredicate compiled, respects_wellFormed.of_ofPredicate compiled⟩, kept, ?_,
      respects_depth.of_ofPredicate compiled⟩
    have paired := (mapM_eq_ok.mp kept).length_eq
    rw [leaves_eq, paired, List.length_map]
  · intro left right normalLeft normalRight
    rw [and_eq_join normalLeft.flat normalRight.flat, or_eq_join normalLeft.flat normalRight.flat]
    exact ⟨normalLeft.join_pair (by decide) normalRight,
      normalLeft.join_pair (by decide) normalRight⟩

/-- Four levels of groups become two, with the three tests of the atoms in their order. -/
theorem atoms_kept_in_order_soldCheap :
    ∃ clause, ofPredicate soldCheap = .ok clause ∧ clause.Normal ∧ clause.depth ≤ soldCheap.depth ∧
      clause.tests =
        [⟨"sold", .eq, .bool true⟩, ⟨"price", .lt, .uint 10⟩, ⟨"name", .eq, .text "Bob"⟩] ∧
      (clause.and clause).Normal ∧ (clause.or clause).tests = clause.tests ++ clause.tests := by
  obtain ⟨clause, compiled⟩ : ∃ clause, ofPredicate soldCheap = .ok clause := ⟨_, rfl⟩
  obtain ⟨normal, kept, _, levels⟩ := atoms_kept_in_order.1 compiled
  obtain ⟨⟨conjunction, _⟩, _, both⟩ := atoms_kept_in_order.2 normal normal
  have tests : (soldCheap.atoms.mapM ofPredicate) = .ok
      ([⟨"sold", .eq, .bool true⟩, ⟨"price", .lt, .uint 10⟩,
        ⟨"name", .eq, .text "Bob"⟩].map Clause.test) := rfl
  have same := Except.ok.inj (kept.symm.trans tests)
  refine ⟨clause, compiled, normal, levels, ?_, conjunction, both⟩
  exact List.map_injective_iff.mpr (fun _ _ => Clause.test.inj) same

end Clause

end FacetQuery
