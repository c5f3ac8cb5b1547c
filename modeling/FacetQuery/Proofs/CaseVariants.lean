/-
**Letters in either case.**

The backend keeps analyzed text in lower case, and so do clauses: the texts compared with analyzed
fields are lowered. Whether their ASCII letters were capitals to begin with is then lost, also
around a sigma, which asks what stands next to it but not in which case. Texts compared with other
fields are kept as they are, so a change of any of them shows.

* `Predicate.small` — the texts compared with analyzed fields in small letters; predicates are
  **variants in case** if this makes them one.
* `Predicate.outline`, `Predicate.kept` — a predicate without its operands, and **the tests of the
  operands that are not lowered**.
* `Clause.ofPredicate_small_eq_ok` — **a variant in case compiles to the same clause.**
* `Clause.kept_sublist_tests` — operands that are not lowered stand in the clause as they are.
* `Clause.case_of_operands` — **case is lost on analyzed fields and nowhere else.**
-/

import FacetQuery.Proofs.Agreement
import FacetQuery.Proofs.AtomOrder
import FacetQuery.Proofs.LowerCase

namespace FacetQuery

/-! ### Literals -/

namespace Literal

mutual

/-- Texts and names of choices with their ASCII letters small, everything else as it is. -/
def small : Literal → Literal
  | .text content => .text (Lowercase.small content)
  | .choice name => .choice (Lowercase.small name)
  | .list items => .list (smallItems items)
  | other => other

/-- The items of a list with their ASCII letters small. -/
def smallItems : List Literal → List Literal
  | [] => []
  | item :: rest => small item :: smallItems rest

end

mutual

theorem lowered_small (operand : Literal) : operand.small.lowered = operand.lowered := by
  cases operand with
  | text content | choice name => rw [small, lowered, lowered, Lowercase.ofText_small]
  | list items => rw [small, lowered, lowered, loweredItems_small items]
  | null | bool | int | uint | float | instant => rfl

theorem loweredItems_small (items : List Literal) :
    loweredItems (smallItems items) = loweredItems items := by
  cases items with
  | nil => rw [smallItems]
  | cons item rest =>
    rw [smallItems, loweredItems, loweredItems, lowered_small item, loweredItems_small rest]

end

theorem fits_small (operand : Literal) (kind : FieldKind) :
    operand.small.fits kind = operand.fits kind := by
  cases operand <;> rfl

end Literal

namespace FieldRef

variable {field : FieldRef}

/-- The operand of a field with its ASCII letters small, if texts compared with the field are
lowered. -/
def small (field : FieldRef) (operand : Literal) : Literal :=
  if field.lowersText then operand.small else operand

theorem adapt_small (field : FieldRef) (operand : Literal) :
    field.adapt (field.small operand) = field.adapt operand := by
  unfold adapt small
  split
  · exact operand.lowered_small
  · rfl

theorem fits_small (field : FieldRef) (operand : Literal) :
    (field.small operand).fits field.kind = operand.fits field.kind := by
  unfold small
  split
  · exact operand.fits_small field.kind
  · rfl

end FieldRef

/-! ### Predicates -/

namespace Predicate

mutual

/-- **The texts compared with analyzed fields in small letters**, everything else as it is. -/
def small : Predicate → Predicate
  | .compare field op operand => .compare field op (field.small operand)
  | .within field operands => .within field (operands.map field.small)
  | .flag field => .flag field
  | .all parts => .all (smallParts parts)
  | .any parts => .any (smallParts parts)
  | .not part => .not (small part)

/-- Some predicates in small letters. -/
def smallParts : List Predicate → List Predicate
  | [] => []
  | part :: rest => small part :: smallParts rest

end

mutual

/-- **A predicate without its operands.** -/
def outline : Predicate → Predicate
  | .compare field op _ => .compare field op .null
  | .within field _ => .within field []
  | .flag field => .flag field
  | .all parts => .all (outlines parts)
  | .any parts => .any (outlines parts)
  | .not part => .not (outline part)

/-- Some predicates without their operands. -/
def outlines : List Predicate → List Predicate
  | [] => []
  | part :: rest => outline part :: outlines rest

end

/-- Whether an atom compares its field with operands that are not lowered. -/
def keeps : Predicate → Bool
  | .compare field _ _ => !field.lowersText
  | .within field _ => !field.lowersText
  | _ => false

/-- The test of an atom with its operands as they are, if these are not lowered. -/
def keptHere : Predicate → List Test
  | .compare field op operand =>
    if field.lowersText then [] else [⟨field.path, Clause.relationOf op, operand⟩]
  | .within field operands =>
    if field.lowersText then [] else [⟨field.path, .within, .list operands⟩]
  | _ => []

/-- **The tests of operands that are not lowered**, from left to right, with these operands as they
are. -/
def kept (predicate : Predicate) : List Test := predicate.atoms.flatMap keptHere

mutual

theorem atoms_outline (predicate : Predicate) :
    predicate.outline.atoms = predicate.atoms.map outline := by
  cases predicate with
  | compare field op operand => simp [outline, atoms]
  | within field operands => simp [outline, atoms]
  | flag field => simp [outline, atoms]
  | all parts | any parts => rw [outline, atoms, atoms, atomsOfAll_outlines parts]
  | not part => rw [outline, atoms, atoms, atoms_outline part]

theorem atomsOfAll_outlines (parts : List Predicate) :
    atomsOfAll (outlines parts) = (atomsOfAll parts).map outline := by
  cases parts with
  | nil => simp [outlines, atomsOfAll]
  | cons part rest =>
    rw [outlines, atomsOfAll, atomsOfAll, atoms_outline part, atomsOfAll_outlines rest,
      List.map_append]

end

/-- Whether an atom keeps its operand is a matter of its field. -/
theorem keeps_outline (atom : Predicate) : atom.outline.keeps = atom.keeps := by
  cases atom <;> simp [outline, keeps]

end Predicate

namespace Clause

variable {predicate : Predicate} {clause : Clause}

/-! ### Variants in case -/

theorem ofPredicates_ne_nil {parts : List Predicate} :
    Predicate.smallParts parts ≠ [] ↔ parts ≠ [] := by
  cases parts <;> simp [Predicate.smallParts]

mutual

/-- **A predicate compiles as it does in small letters.** -/
theorem ofPredicate_small_eq_ok (predicate : Predicate) (clause : Clause) :
    ofPredicate predicate.small = .ok clause ↔ ofPredicate predicate = .ok clause := by
  cases predicate with
  | compare field op operand =>
    rw [Predicate.small, ofPredicate, ofPredicate, ofComparison_eq_ok, ofComparison_eq_ok,
      FieldRef.adapt_small, FieldRef.fits_small]
  | within field operands =>
    have adapted : (operands.map field.small).map field.adapt = operands.map field.adapt := by
      rw [List.map_map]
      exact List.map_congr_left fun operand _ => field.adapt_small operand
    rw [Predicate.small, ofPredicate, ofPredicate, ofMembership_eq_ok, ofMembership_eq_ok, adapted,
      List.forall_mem_map]
    simp only [FieldRef.fits_small]
  | flag field => rw [Predicate.small]
  | all parts =>
    rw [Predicate.small, ofPredicate_all_eq_ok, ofPredicate_all_eq_ok, ofPredicates_ne_nil]
    simp only [ofPredicates_small_eq_ok parts]
  | any parts =>
    rw [Predicate.small, ofPredicate_any_eq_ok, ofPredicate_any_eq_ok, ofPredicates_ne_nil]
    simp only [ofPredicates_small_eq_ok parts]
  | not part =>
    rw [Predicate.small, ofPredicate_not_eq_ok, ofPredicate_not_eq_ok]
    simp only [ofPredicate_small_eq_ok part]

theorem ofPredicates_small_eq_ok (parts : List Predicate) (clauses : List Clause) :
    ofPredicates (Predicate.smallParts parts) = .ok clauses ↔ ofPredicates parts = .ok clauses := by
  cases parts with
  | nil => rw [Predicate.smallParts]
  | cons part rest =>
    rw [Predicate.smallParts, ofPredicates_eq_ok, ofPredicates_eq_ok, List.forall₂_cons_left_iff,
      List.forall₂_cons_left_iff]
    simp only [← ofPredicates_eq_ok, ofPredicate_small_eq_ok part, ofPredicates_small_eq_ok rest]

end

/-- Variants in case compile alike. -/
theorem ofPredicate_eq_ok_of_small {variant : Predicate} (same : predicate.small = variant.small)
    (clause : Clause) : ofPredicate predicate = .ok clause ↔ ofPredicate variant = .ok clause := by
  rw [← ofPredicate_small_eq_ok, same, ofPredicate_small_eq_ok]

end Clause

/-- Variants in case are read by one name. -/
theorem Reading.lookupName_eq_ok_of_small {predicate variant : Predicate}
    (same : predicate.small = variant.small) {t : ValueType} (field : Field t) (kind : FacetKind)
    (name : String) :
    lookupName field kind (some predicate) = .ok name ↔
      lookupName field kind (some variant) = .ok name := by
  simp only [lookupName_eq_ok, mapM_some_eq_ok, Clause.ofPredicate_eq_ok_of_small same]

namespace Clause

variable {p q : Predicate} {c d : Clause}

/-! ### Operands that are not lowered -/

mutual

/-- Clauses that agree have tests that agree, one by one. -/
theorem tests_of_agrees {a b : Clause} (agree : a.agrees b = true) :
    List.Forall₂ (fun leaf other => leaf.agrees other = true) a.tests b.tests := by
  cases a with
  | test leaf =>
    obtain ⟨other, rfl, leaves⟩ := agrees_test_iff.mp agree
    rw [tests, tests]
    exact .cons leaves .nil
  | joined connective parts =>
    obtain ⟨others, rfl, each⟩ := agrees_joined_iff.mp agree
    rw [tests, tests]
    exact testsOfAll_of_agreeAll each

theorem testsOfAll_of_agreeAll {a b : List Clause} (agree : agreeAll a b = true) :
    List.Forall₂ (fun leaf other => leaf.agrees other = true) (testsOfAll a) (testsOfAll b) := by
  cases a with
  | nil =>
    obtain rfl := agreeAll_nil_iff.mp agree
    exact .nil
  | cons part parts =>
    obtain ⟨other, others, rfl, here, rest⟩ := agreeAll_cons_iff.mp agree
    rw [testsOfAll, testsOfAll]
    exact List.rel_append (tests_of_agrees here) (testsOfAll_of_agreeAll rest)

end

/-- The tests of a clause are those of the atoms of its predicate. -/
theorem forall₂_atoms_tests (compiled : ofPredicate p = .ok c) :
    List.Forall₂ (fun atom leaf => ofPredicate atom = .ok (.test leaf)) p.atoms c.tests := by
  have kept : KeepsAtoms p c := respects_keepsAtoms.of_ofPredicate compiled
  have each := mapM_eq_ok.mp kept
  rwa [List.forall₂_map_right_iff] at each

/-- **The test of an operand that is not lowered** has it as it is. -/
theorem keptHere_eq {atom : Predicate} {leaf : Test}
    (compiled : ofPredicate atom = .ok (.test leaf)) :
    atom.keptHere = if atom.keeps then [leaf] else [] := by
  cases atom with
  | compare field op operand =>
    rw [ofPredicate] at compiled
    obtain ⟨_, _, _, same⟩ := ofComparison_eq_ok.mp compiled
    obtain rfl := Clause.test.inj same
    cases lowers : field.lowersText with
    | true => simp [Predicate.keptHere, Predicate.keeps, lowers]
    | false => simp [Predicate.keptHere, Predicate.keeps, FieldRef.adapt, lowers]
  | within field operands =>
    rw [ofPredicate] at compiled
    obtain ⟨_, _, same⟩ := ofMembership_eq_ok.mp compiled
    obtain rfl := Clause.test.inj same
    have adapted (lowers : field.lowersText = false) : operands.map field.adapt = operands :=
      (List.map_congr_left fun operand _ => by simp [FieldRef.adapt, lowers]).trans
        (List.map_id' operands)
    cases lowers : field.lowersText with
    | true => simp [Predicate.keptHere, Predicate.keeps, lowers]
    | false => simp [Predicate.keptHere, Predicate.keeps, adapted lowers, lowers]
  | flag | all | any | not => rfl

/-- **Operands that are not lowered are kept**, in tests of the clause. -/
theorem kept_sublist_tests (compiled : ofPredicate p = .ok c) : p.kept.Sublist c.tests := by
  have each := forall₂_atoms_tests compiled
  unfold Predicate.kept
  generalize p.atoms = atoms, c.tests = tests at each
  induction each with
  | nil => exact .slnil
  | @cons atom leaf atoms leaves here _ later =>
    rw [List.flatMap_cons, keptHere_eq here]
    split
    · exact later.cons_cons leaf
    · exact later.cons leaf

/-- Predicates of one outline keep operands in the same places: what relates their tests relates the
kept ones. -/
theorem forall₂_kept {R : Test → Test → Prop} {atoms others : List Predicate}
    {tests leaves : List Test}
    (here : List.Forall₂ (fun atom leaf => ofPredicate atom = .ok (.test leaf)) atoms tests)
    (there : List.Forall₂ (fun atom leaf => ofPredicate atom = .ok (.test leaf)) others leaves)
    (outlines : atoms.map Predicate.outline = others.map Predicate.outline)
    (related : List.Forall₂ R tests leaves) :
    List.Forall₂ R (atoms.flatMap Predicate.keptHere) (others.flatMap Predicate.keptHere) := by
  induction here generalizing others leaves with
  | nil =>
    cases related
    cases there
    exact .nil
  | @cons atom leaf atoms tests first _ later =>
    cases related with
    | cons alike related =>
      cases there with
      | @cons other next others leaves second there =>
        rw [List.map_cons, List.map_cons, List.cons.injEq] at outlines
        have places : atom.keeps = other.keeps := by
          rw [← atom.keeps_outline, outlines.1, other.keeps_outline]
        rw [List.flatMap_cons, List.flatMap_cons, keptHere_eq first, keptHere_eq second, places]
        refine List.rel_append ?_ (later there outlines.2 related)
        split
        · exact .cons alike .nil
        · exact .nil

/-- What relates the tests of two clauses relates those of the operands that are not lowered. -/
theorem forall₂_kept_of_tests {R : Test → Test → Prop} (outlines : p.outline = q.outline)
    (compiled : ofPredicate p = .ok c) (compiledOther : ofPredicate q = .ok d)
    (related : List.Forall₂ R c.tests d.tests) : List.Forall₂ R p.kept q.kept := by
  refine forall₂_kept (forall₂_atoms_tests compiled) (forall₂_atoms_tests compiledOther) ?_ related
  rw [← p.atoms_outline, outlines, q.atoms_outline]

/-! ### Case -/

/-- **Case is lost on analyzed fields and nowhere else.** Predicates that become one in small
letters compile to the same clauses, with one fingerprint and one name for every read, or both to
none. Operands of other fields are kept as they are; predicates that differ in one of those, and
otherwise at most in operands, do not compile to the same clause, nor to clauses that agree unless
all of those do. -/
theorem case_of_operands :
    (∀ {p q : Predicate}, p.small = q.small →
      (∀ clause, ofPredicate p = .ok clause ↔ ofPredicate q = .ok clause) ∧
      (∀ digest, (ofPredicate p).map fingerprint = .ok digest ↔
        (ofPredicate q).map fingerprint = .ok digest) ∧
      ∀ {t : ValueType} (field : Field t) (kind : FacetKind) (name : String),
        Reading.lookupName field kind (some p) = .ok name ↔
          Reading.lookupName field kind (some q) = .ok name) ∧
    (∀ {p : Predicate} {c : Clause}, ofPredicate p = .ok c → p.kept.Sublist c.tests) ∧
    ∀ {p q : Predicate} {c d : Clause}, p.outline = q.outline → ofPredicate p = .ok c →
      ofPredicate q = .ok d →
      (p.kept ≠ q.kept → c ≠ d) ∧
      (c.agrees d = true →
        List.Forall₂ (fun leaf other => leaf.agrees other = true) p.kept q.kept) := by
  refine ⟨fun same => ?_, kept_sublist_tests,
    fun outlines compiled compiledOther => ⟨?_, fun agree => ?_⟩⟩
  · have alike := ofPredicate_eq_ok_of_small same
    refine ⟨alike, fun digest => ?_, Reading.lookupName_eq_ok_of_small same⟩
    simp only [map_eq_ok, alike]
  · rintro different rfl
    have all : List.Forall₂ Eq _ _ :=
      forall₂_kept_of_tests outlines compiled compiledOther (List.forall₂_refl _)
    exact different (List.forall₂_eq_eq_eq ▸ all)
  · exact forall₂_kept_of_tests outlines compiled compiledOther (tests_of_agrees agree)

/-- A street by its name, which is analyzed, without some codes, which are not. -/
def street (name : String) (codes : List String) : Predicate :=
  .all [.compare ⟨"street", .text, true⟩ .eq (.text name),
    .not (.within ⟨"code", .text, false⟩ (codes.map .text))]

/-- The case of letters before a sigma does not matter, and that of a code does. -/
theorem case_of_operands_street :
    ∃ clause other, ofPredicate (street "ODOΣ" ["x", "aB"]) = .ok clause ∧
      ofPredicate (street "odoΣ" ["x", "aB"]) = .ok clause ∧
      [⟨"code", .within, .list [.text "x", .text "aB"]⟩].Sublist clause.tests ∧
      ofPredicate (street "ODOΣ" ["x", "ab"]) = .ok other ∧ clause ≠ other ∧
      clause.agrees other = false := by
  obtain ⟨clause, compiled⟩ : ∃ clause, ofPredicate (street "ODOΣ" ["x", "aB"]) = .ok clause :=
    ⟨_, rfl⟩
  obtain ⟨other, compiledOther⟩ : ∃ clause, ofPredicate (street "ODOΣ" ["x", "ab"]) = .ok clause :=
    ⟨_, rfl⟩
  have letters : Lowercase.small "ODOΣ" = Lowercase.small "odoΣ" := by decide +kernel
  have variants : (street "ODOΣ" ["x", "aB"]).small = (street "odoΣ" ["x", "aB"]).small := by
    simp [street, Predicate.small, Predicate.smallParts, FieldRef.small, FieldRef.lowersText,
      FieldKind.isTextual, Literal.small, letters]
  have outlines : (street "ODOΣ" ["x", "aB"]).outline = (street "ODOΣ" ["x", "ab"]).outline := rfl
  have codes (name : String) (codes : List String) :
      (street name codes).kept = [⟨"code", .within, .list (codes.map .text)⟩] := by
    simp [street, Predicate.kept, Predicate.atoms, Predicate.atomsOfAll, Predicate.keptHere,
      FieldRef.lowersText, FieldKind.isTextual]
  obtain ⟨alike, kept, differ⟩ := case_of_operands
  obtain ⟨different, apart⟩ := differ outlines compiled compiledOther
  refine ⟨clause, other, compiled, ((alike variants).1 clause).mp compiled,
    kept compiled, compiledOther, different ?_, Bool.eq_false_iff.mpr fun agree => ?_⟩
  · simp [codes]
  · have both := apart agree
    rw [codes, codes, List.forall₂_cons] at both
    exact absurd both.1 (by decide +kernel)

end Clause

end FacetQuery
