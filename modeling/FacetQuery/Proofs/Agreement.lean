/-
**What agrees, and what is the same.**

Predicates, clauses and literals agree when they are alike with floating numbers compared by value,
while a stream writes all bits of a number. The two differ in one point: a zero has two signs.

* `Clause.zeroSigns` — the signs of the zeros in a clause.
* `Clause.eq_of_agrees` — **clauses that agree are the same** once their zeros have the same signs.
* `Clause.agrees_of_ofPredicate` — **predicates that agree compile to clauses that agree.**
* `Clause.fingerprint_eq_of_agrees` — **one fingerprint and one name** for what agrees down to those
  signs, and two streams for what does not.
-/

import FacetQuery.Proofs.Magnitudes
import FacetQuery.Proofs.LookupNames
import FacetQuery.Proofs.StreamInjective

namespace FacetQuery

/-! ### Literals -/

namespace Literal

theorem agrees_float_iff {x : Double} {b : Literal} :
    (Literal.float x).agrees b = true ↔ ∃ y, b = .float y ∧ x.sameValue y = true := by
  cases b <;> simp [agrees]

theorem agrees_list_iff {items : List Literal} {b : Literal} :
    (Literal.list items).agrees b = true ↔
      ∃ others, b = .list others ∧ agreeAll items others = true := by
  cases b <;> simp [agrees]

theorem agreeAll_nil_iff {b : List Literal} : agreeAll [] b = true ↔ b = [] := by
  cases b <;> simp [agreeAll]

theorem agreeAll_cons_iff {item : Literal} {items b : List Literal} :
    agreeAll (item :: items) b = true ↔
      ∃ other others, b = other :: others ∧ item.agrees other = true ∧
        agreeAll items others = true := by
  cases b <;> simp [agreeAll, and_assoc]

/-- Literals that agree are the same, unless they are floating numbers or lists. -/
theorem eq_of_agrees_plain {a b : Literal} (agree : a.agrees b = true)
    (notFloat : ∀ x, a ≠ .float x) (notList : ∀ items, a ≠ .list items) : a = b := by
  cases a <;> cases b <;> simp_all [agrees]

mutual

/-- The signs of the zeros in a literal, in order. -/
def zeroSigns : Literal → List Bool
  | .float x => if x.code = 0 then [x.negative] else []
  | .list items => zeroSignsOfAll items
  | _ => []

/-- The signs of the zeros in some literals, in order. -/
def zeroSignsOfAll : List Literal → List Bool
  | [] => []
  | item :: rest => zeroSigns item ++ zeroSignsOfAll rest

end

mutual

theorem length_zeroSigns_of_agrees {a b : Literal} (agree : a.agrees b = true) :
    a.zeroSigns.length = b.zeroSigns.length := by
  cases a with
  | list items =>
    obtain ⟨others, rfl, each⟩ := agrees_list_iff.mp agree
    exact length_zeroSignsOfAll_of_agreeAll each
  | float x =>
    obtain ⟨y, rfl, value⟩ := agrees_float_iff.mp agree
    have code : x.code = y.code := (Binary.sameValue_iff.mp value).2.2.1
    rw [zeroSigns, zeroSigns, code]
    split <;> rfl
  | _ => rw [eq_of_agrees_plain agree nofun nofun]

theorem length_zeroSignsOfAll_of_agreeAll {a b : List Literal} (agree : agreeAll a b = true) :
    (zeroSignsOfAll a).length = (zeroSignsOfAll b).length := by
  cases a with
  | nil =>
    obtain rfl := agreeAll_nil_iff.mp agree
    rfl
  | cons item items =>
    obtain ⟨other, others, rfl, here, rest⟩ := agreeAll_cons_iff.mp agree
    rw [zeroSignsOfAll, zeroSignsOfAll, List.length_append, List.length_append,
      length_zeroSigns_of_agrees here, length_zeroSignsOfAll_of_agreeAll rest]

end

mutual

/-- **Literals that agree are the same**, if their zeros have the same signs. -/
theorem eq_of_agrees {a b : Literal} (agree : a.agrees b = true)
    (same : a.zeroSigns = b.zeroSigns) : a = b := by
  cases a with
  | float x =>
    obtain ⟨y, rfl, value⟩ := agrees_float_iff.mp agree
    obtain ⟨_, _, code, sign | zero⟩ := Binary.sameValue_iff.mp value
    · rw [Binary.eq_of_code code sign]
    · rw [zeroSigns, zeroSigns, if_pos zero, if_pos (code.symm.trans zero)] at same
      rw [Binary.eq_of_code code (List.cons.inj same).1]
  | list items =>
    obtain ⟨others, rfl, each⟩ := agrees_list_iff.mp agree
    rw [eq_of_agreeAll each same]
  | _ => exact eq_of_agrees_plain agree nofun nofun

theorem eq_of_agreeAll {a b : List Literal} (agree : agreeAll a b = true)
    (same : zeroSignsOfAll a = zeroSignsOfAll b) : a = b := by
  cases a with
  | nil =>
    obtain rfl := agreeAll_nil_iff.mp agree
    rfl
  | cons item items =>
    obtain ⟨other, others, rfl, here, rest⟩ := agreeAll_cons_iff.mp agree
    obtain ⟨first, later⟩ := List.append_inj same (length_zeroSigns_of_agrees here)
    rw [eq_of_agrees here first, eq_of_agreeAll rest later]

end

/-! ### Literals beside a field -/

/-- Literals that agree fit the same kinds of fields. -/
theorem fits_of_agrees {a b : Literal} (agree : a.agrees b = true) (kind : FieldKind) :
    a.fits kind = b.fits kind := by
  cases a with
  | float x =>
    obtain ⟨y, rfl, value⟩ := agrees_float_iff.mp agree
    have code : x.code = y.code := (Binary.sameValue_iff.mp value).2.2.1
    have finite : x.isFinite = y.isFinite := by
      unfold Binary.isFinite
      rw [code]
    rw [fits, fits, finite]
  | list items =>
    obtain ⟨others, rfl, _⟩ := agrees_list_iff.mp agree
    rfl
  | _ => rw [eq_of_agrees_plain agree nofun nofun]

theorem allFit_of_agreeAll {a b : List Literal} {kind : FieldKind} (agree : agreeAll a b = true)
    (fit : ∀ operand ∈ a, operand.fits kind = true) : ∀ operand ∈ b, operand.fits kind = true := by
  induction a generalizing b with
  | nil =>
    obtain rfl := agreeAll_nil_iff.mp agree
    exact fit
  | cons item items later =>
    obtain ⟨other, others, rfl, here, rest⟩ := agreeAll_cons_iff.mp agree
    obtain ⟨first, behind⟩ := List.forall_mem_cons.mp fit
    exact List.forall_mem_cons.mpr ⟨(fits_of_agrees here kind).symm.trans first, later rest behind⟩

mutual

/-- Literals that agree do so in lower case. -/
theorem lowered_agrees {a b : Literal} (agree : a.agrees b = true) :
    a.lowered.agrees b.lowered = true := by
  cases a with
  | list items =>
    obtain ⟨others, rfl, each⟩ := agrees_list_iff.mp agree
    exact loweredItems_agree each
  | float x =>
    obtain ⟨y, rfl, _⟩ := agrees_float_iff.mp agree
    exact agree
  | text content =>
    obtain rfl := eq_of_agrees_plain agree nofun nofun
    simp [lowered, agrees]
  | choice name =>
    obtain rfl := eq_of_agrees_plain agree nofun nofun
    simp [lowered, agrees]
  | _ =>
    obtain rfl := eq_of_agrees_plain agree nofun nofun
    exact agree

theorem loweredItems_agree {a b : List Literal} (agree : agreeAll a b = true) :
    agreeAll (loweredItems a) (loweredItems b) = true := by
  cases a with
  | nil =>
    obtain rfl := agreeAll_nil_iff.mp agree
    rfl
  | cons item items =>
    obtain ⟨other, others, rfl, here, rest⟩ := agreeAll_cons_iff.mp agree
    exact agreeAll_cons_iff.mpr ⟨_, _, rfl, lowered_agrees here, loweredItems_agree rest⟩

end

end Literal

/-- A field compares literals that agree with literals that agree. -/
theorem FieldRef.adapt_agrees (field : FieldRef) {a b : Literal} (agree : a.agrees b = true) :
    (field.adapt a).agrees (field.adapt b) = true := by
  unfold adapt
  by_cases lowers : field.lowersText = true
  · rw [if_pos lowers, if_pos lowers]
    exact Literal.lowered_agrees agree
  · rw [if_neg lowers, if_neg lowers]
    exact agree

theorem FieldRef.map_adapt_agree (field : FieldRef) {a b : List Literal}
    (agree : Literal.agreeAll a b = true) :
    Literal.agreeAll (a.map field.adapt) (b.map field.adapt) = true := by
  induction a generalizing b with
  | nil =>
    obtain rfl := Literal.agreeAll_nil_iff.mp agree
    rfl
  | cons item items later =>
    obtain ⟨other, others, rfl, here, rest⟩ := Literal.agreeAll_cons_iff.mp agree
    exact Literal.agreeAll_cons_iff.mpr ⟨_, _, rfl, field.adapt_agrees here, later rest⟩

/-! ### Predicates -/

namespace Predicate

theorem agreeAll_nil_iff {q : List Predicate} : agreeAll [] q = true ↔ q = [] := by
  cases q <;> simp [agreeAll]

theorem agreeAll_cons_iff {part : Predicate} {parts q : List Predicate} :
    agreeAll (part :: parts) q = true ↔
      ∃ other others, q = other :: others ∧ part.agrees other = true ∧
        agreeAll parts others = true := by
  cases q <;> simp [agreeAll, and_assoc]

/-- A connective with parts agrees only with one that has parts. -/
theorem ne_nil_of_agreeAll {p q : List Predicate} (agree : agreeAll p q = true)
    (nonempty : p ≠ []) : q ≠ [] := by
  cases p with
  | nil => exact (nonempty rfl).elim
  | cons part parts =>
    obtain ⟨other, others, rfl, _⟩ := agreeAll_cons_iff.mp agree
    exact List.cons_ne_nil other others

end Predicate

/-! ### Clauses -/

/-- The signs of the zeros in the operand of a test. -/
def Test.zeroSigns (test : Test) : List Bool := test.operand.zeroSigns

/-- Tests that agree have one field and one relation, and operands that agree. -/
theorem Test.agrees_iff {a b : Test} :
    a.agrees b = true ↔
      a.field = b.field ∧ a.relation = b.relation ∧ a.operand.agrees b.operand = true := by
  rw [agrees, Bool.and_eq_true, Bool.and_eq_true, beq_iff_eq, beq_iff_eq, and_assoc]

theorem Test.eq_of_agrees {a b : Test} (agree : a.agrees b = true)
    (same : a.zeroSigns = b.zeroSigns) : a = b := by
  obtain ⟨field, relation, operand⟩ := Test.agrees_iff.mp agree
  have operands : a.operand = b.operand := Literal.eq_of_agrees operand same
  obtain ⟨_, _, _⟩ := a
  obtain rfl : _ = b.field := field
  obtain rfl : _ = b.relation := relation
  obtain rfl : _ = b.operand := operands
  rfl

namespace Clause

variable {connective : Connective}

theorem agrees_test_iff {leaf : Test} {b : Clause} :
    (Clause.test leaf).agrees b = true ↔ ∃ other, b = .test other ∧ leaf.agrees other = true := by
  cases b <;> simp [agrees]

theorem agrees_joined_iff {parts : List Clause} {b : Clause} :
    (Clause.joined connective parts).agrees b = true ↔
      ∃ others, b = .joined connective others ∧ agreeAll parts others = true := by
  cases b with
  | test other => simp [agrees]
  | joined own others =>
    rw [agrees, Bool.and_eq_true, beq_iff_eq]
    constructor
    · rintro ⟨rfl, each⟩
      exact ⟨others, rfl, each⟩
    · rintro ⟨_, same, each⟩
      cases same
      exact ⟨rfl, each⟩

theorem agreeAll_nil_iff {b : List Clause} : agreeAll [] b = true ↔ b = [] := by
  cases b <;> simp [agreeAll]

theorem agreeAll_cons_iff {part : Clause} {parts b : List Clause} :
    agreeAll (part :: parts) b = true ↔
      ∃ other others, b = other :: others ∧ part.agrees other = true ∧
        agreeAll parts others = true := by
  cases b <;> simp [agreeAll, and_assoc]

theorem agreeAll_single {a b : Clause} (agree : a.agrees b = true) : agreeAll [a] [b] = true :=
  agreeAll_cons_iff.mpr ⟨b, [], rfl, agree, rfl⟩

theorem agreeAll_append {a b c d : List Clause} (front : agreeAll a b = true)
    (rest : agreeAll c d = true) : agreeAll (a ++ c) (b ++ d) = true := by
  induction a generalizing b with
  | nil =>
    obtain rfl := agreeAll_nil_iff.mp front
    exact rest
  | cons part parts later =>
    obtain ⟨other, others, rfl, here, behind⟩ := agreeAll_cons_iff.mp front
    exact agreeAll_cons_iff.mpr ⟨_, _, rfl, here, later behind⟩

mutual

/-- The signs of the zeros in a clause, in order. -/
def zeroSigns : Clause → List Bool
  | .test leaf => leaf.zeroSigns
  | .joined _ parts => zeroSignsOfAll parts

/-- The signs of the zeros in some clauses, in order. -/
def zeroSignsOfAll : List Clause → List Bool
  | [] => []
  | part :: rest => zeroSigns part ++ zeroSignsOfAll rest

end

mutual

theorem length_zeroSigns_of_agrees {a b : Clause} (agree : a.agrees b = true) :
    a.zeroSigns.length = b.zeroSigns.length := by
  cases a with
  | test leaf =>
    obtain ⟨other, rfl, leaves⟩ := agrees_test_iff.mp agree
    exact Literal.length_zeroSigns_of_agrees (Test.agrees_iff.mp leaves).2.2
  | joined connective parts =>
    obtain ⟨others, rfl, each⟩ := agrees_joined_iff.mp agree
    exact length_zeroSignsOfAll_of_agreeAll each

theorem length_zeroSignsOfAll_of_agreeAll {a b : List Clause} (agree : agreeAll a b = true) :
    (zeroSignsOfAll a).length = (zeroSignsOfAll b).length := by
  cases a with
  | nil =>
    obtain rfl := agreeAll_nil_iff.mp agree
    rfl
  | cons part parts =>
    obtain ⟨other, others, rfl, here, rest⟩ := agreeAll_cons_iff.mp agree
    rw [zeroSignsOfAll, zeroSignsOfAll, List.length_append, List.length_append,
      length_zeroSigns_of_agrees here, length_zeroSignsOfAll_of_agreeAll rest]

end

mutual

/-- **Clauses that agree are the same**, if their zeros have the same signs. -/
theorem eq_of_agrees {a b : Clause} (agree : a.agrees b = true) (same : a.zeroSigns = b.zeroSigns) :
    a = b := by
  cases a with
  | test leaf =>
    obtain ⟨other, rfl, leaves⟩ := agrees_test_iff.mp agree
    rw [Test.eq_of_agrees leaves same]
  | joined connective parts =>
    obtain ⟨others, rfl, each⟩ := agrees_joined_iff.mp agree
    rw [eq_of_agreeAll each same]

theorem eq_of_agreeAll {a b : List Clause} (agree : agreeAll a b = true)
    (same : zeroSignsOfAll a = zeroSignsOfAll b) : a = b := by
  cases a with
  | nil =>
    obtain rfl := agreeAll_nil_iff.mp agree
    rfl
  | cons part parts =>
    obtain ⟨other, others, rfl, here, rest⟩ := agreeAll_cons_iff.mp agree
    obtain ⟨first, later⟩ := List.append_inj same (length_zeroSigns_of_agrees here)
    rw [eq_of_agrees here first, eq_of_agreeAll rest later]

end

/-! ### Joining -/

/-- Clauses that agree bring parts that agree into a connective. -/
theorem spliced_agree (connective : Connective) {a b : Clause} (agree : a.agrees b = true) :
    agreeAll (a.spliced connective) (b.spliced connective) = true := by
  cases a with
  | test leaf =>
    obtain ⟨other, rfl, _⟩ := agrees_test_iff.mp agree
    exact agreeAll_single agree
  | joined own parts =>
    obtain ⟨others, rfl, each⟩ := agrees_joined_iff.mp agree
    rw [spliced, spliced]
    by_cases same : own = connective
    · rw [if_pos same, if_pos same]
      exact each
    · rw [if_neg same, if_neg same]
      exact agreeAll_single agree

theorem flatMap_spliced_agree (connective : Connective) {a b : List Clause}
    (agree : agreeAll a b = true) :
    agreeAll (a.flatMap (spliced connective)) (b.flatMap (spliced connective)) = true := by
  induction a generalizing b with
  | nil =>
    obtain rfl := agreeAll_nil_iff.mp agree
    rfl
  | cons part parts later =>
    obtain ⟨other, others, rfl, here, rest⟩ := agreeAll_cons_iff.mp agree
    rw [List.flatMap_cons, List.flatMap_cons]
    exact agreeAll_append (spliced_agree connective here) (later rest)

/-- **Joining keeps agreement.** -/
theorem join_agrees (connective : Connective) {a b : List Clause} (agree : agreeAll a b = true) :
    (join connective a).agrees (join connective b) = true := by
  have parts := flatMap_spliced_agree connective agree
  unfold join
  generalize a.flatMap (spliced connective) = left at parts
  generalize b.flatMap (spliced connective) = right at parts
  -- Lists that agree have one length, so both or none of them have a single part.
  match left, right, parts with
  | [], [], parts => exact agrees_joined_iff.mpr ⟨[], rfl, parts⟩
  | [part], [other], parts => exact (Bool.and_eq_true_iff.mp parts).1
  | first :: second :: rest, other :: next :: more, parts =>
    exact agrees_joined_iff.mpr ⟨_, rfl, parts⟩
  | [_], _ :: _ :: _, parts => cases (Bool.and_eq_true_iff.mp parts).2
  | _ :: _ :: _, [_], parts => cases (Bool.and_eq_true_iff.mp parts).2

/-! ### Compiled predicates -/

mutual

/-- **Predicates that agree compile to clauses that agree**: if one of them compiles, so does the
other. -/
theorem agrees_of_ofPredicate {p q : Predicate} {a : Clause} (agree : p.agrees q = true)
    (compiled : ofPredicate p = .ok a) : ∃ b, ofPredicate q = .ok b ∧ a.agrees b = true := by
  cases p with
  | compare field op operand =>
    cases q with
    | compare other op' operand' =>
      simp only [Predicate.agrees, Bool.and_eq_true, beq_iff_eq] at agree
      obtain ⟨⟨rfl, rfl⟩, operands⟩ := agree
      rw [ofPredicate] at compiled
      obtain ⟨valid, fits, ordered, rfl⟩ := ofComparison_eq_ok.mp compiled
      have fitsOther : operand'.fits field.kind = true :=
        (Literal.fits_of_agrees operands _).symm.trans fits
      have tests : Test.agrees ⟨field.path, relationOf op, field.adapt operand⟩
          ⟨field.path, relationOf op, field.adapt operand'⟩ = true :=
        Test.agrees_iff.mpr ⟨rfl, rfl, field.adapt_agrees operands⟩
      refine ⟨_, ?_, agrees_test_iff.mpr ⟨_, rfl, tests⟩⟩
      rw [ofPredicate]
      exact ofComparison_eq_ok.mpr ⟨valid, fitsOther, ordered, rfl⟩
    | _ => cases agree
  | within field operands =>
    cases q with
    | within other operands' =>
      simp only [Predicate.agrees, Bool.and_eq_true, beq_iff_eq] at agree
      obtain ⟨rfl, each⟩ := agree
      rw [ofPredicate] at compiled
      obtain ⟨valid, fit, rfl⟩ := ofMembership_eq_ok.mp compiled
      have tests : Test.agrees ⟨field.path, .within, .list (operands.map field.adapt)⟩
          ⟨field.path, .within, .list (operands'.map field.adapt)⟩ = true :=
        Test.agrees_iff.mpr
          ⟨rfl, rfl, Literal.agrees_list_iff.mpr ⟨_, rfl, field.map_adapt_agree each⟩⟩
      refine ⟨_, ?_, agrees_test_iff.mpr ⟨_, rfl, tests⟩⟩
      rw [ofPredicate]
      exact ofMembership_eq_ok.mpr ⟨valid, Literal.allFit_of_agreeAll each fit, rfl⟩
    | _ => cases agree
  | flag field =>
    cases q with
    | flag other =>
      obtain rfl : field = other := beq_iff_eq.mp agree
      rw [ofPredicate] at compiled
      obtain ⟨_, _, rfl⟩ := ofFlag_eq_ok.mp compiled
      refine ⟨_, ?_, agrees_test_iff.mpr ⟨_, rfl, Test.agrees_iff.mpr ⟨rfl, rfl, rfl⟩⟩⟩
      rw [ofPredicate, compiled]
    | _ => cases agree
  | all parts =>
    cases q with
    | all others =>
      obtain ⟨nonempty, clauses, each, rfl⟩ := ofPredicate_all_eq_ok.mp compiled
      obtain ⟨otherClauses, eachOther, clausesAgree⟩ := agreeAll_of_ofPredicates agree each
      have nonemptyOther : others ≠ [] := Predicate.ne_nil_of_agreeAll agree nonempty
      exact ⟨_, ofPredicate_all_eq_ok.mpr ⟨nonemptyOther, _, eachOther, rfl⟩,
        join_agrees .and clausesAgree⟩
    | _ => cases agree
  | any parts =>
    cases q with
    | any others =>
      obtain ⟨nonempty, clauses, each, rfl⟩ := ofPredicate_any_eq_ok.mp compiled
      obtain ⟨otherClauses, eachOther, clausesAgree⟩ := agreeAll_of_ofPredicates agree each
      have nonemptyOther : others ≠ [] := Predicate.ne_nil_of_agreeAll agree nonempty
      exact ⟨_, ofPredicate_any_eq_ok.mpr ⟨nonemptyOther, _, eachOther, rfl⟩,
        join_agrees .or clausesAgree⟩
    | _ => cases agree
  | not part =>
    cases q with
    | not other =>
      have partsAgree : part.agrees other = true := agree
      obtain ⟨inner, compiledPart, rfl⟩ := ofPredicate_not_eq_ok.mp compiled
      obtain ⟨innerOther, compiledOther, innerAgree⟩ :=
        agrees_of_ofPredicate partsAgree compiledPart
      exact ⟨_, ofPredicate_not_eq_ok.mpr ⟨_, compiledOther, rfl⟩,
        agrees_joined_iff.mpr ⟨_, rfl, agreeAll_single innerAgree⟩⟩
    | _ => cases agree

theorem agreeAll_of_ofPredicates {parts others : List Predicate} {a : List Clause}
    (agree : Predicate.agreeAll parts others = true) (compiled : ofPredicates parts = .ok a) :
    ∃ b, ofPredicates others = .ok b ∧ agreeAll a b = true := by
  cases parts with
  | nil =>
    obtain rfl := Predicate.agreeAll_nil_iff.mp agree
    cases ofPredicates_eq_ok.mp compiled
    exact ⟨[], ofPredicates_eq_ok.mpr .nil, rfl⟩
  | cons part rest =>
    obtain ⟨other, more, rfl, here, behind⟩ := Predicate.agreeAll_cons_iff.mp agree
    obtain ⟨clause, later, head, tail, rfl⟩ :=
      List.forall₂_cons_left_iff.mp (ofPredicates_eq_ok.mp compiled)
    obtain ⟨clauseOther, headOther, headAgree⟩ := agrees_of_ofPredicate here head
    obtain ⟨laterOther, tailOther, tailAgree⟩ :=
      agreeAll_of_ofPredicates behind (ofPredicates_eq_ok.mpr tail)
    exact ⟨_, ofPredicates_eq_ok.mpr (.cons headOther (ofPredicates_eq_ok.mp tailOther)),
      agreeAll_cons_iff.mpr ⟨_, _, rfl, headAgree, tailAgree⟩⟩

end

/-! ### Fingerprints and names -/

/-- **What agrees has one fingerprint and one name, if its zeros have the same signs**; and only
then has it one stream. Predicates that agree compile to clauses that agree, so this is all that can
tell them apart, and otherwise what was requested with one of them is found with the other. -/
theorem fingerprint_eq_of_agrees {a b : Clause} {p q : Predicate} :
    (a.agrees b = true → a.zeroSigns = b.zeroSigns → a.fingerprint = b.fingerprint) ∧
      (a.agrees b = true → a.Counted → b.Counted →
        (a.stream = b.stream ↔ a.zeroSigns = b.zeroSigns)) ∧
      (p.agrees q = true → ofPredicate p = .ok a → ofPredicate q = .ok b →
        a.agrees b = true ∧
          (a.zeroSigns = b.zeroSigns → ∀ {t : ValueType} (field : Field t) (kind : FacetKind),
            Reading.lookupName field kind (some p) = Reading.lookupName field kind (some q) ∧
              ∀ outcomes, Reading.locate outcomes field kind (some p) =
                Reading.locate outcomes field kind (some q))) := by
  refine ⟨fun agree same => ?_,
    fun agree counted countedOther => ⟨fun streams => ?_, fun same => ?_⟩, ?_⟩
  · rw [eq_of_agrees agree same]
  · have followed : a.stream ++ [] = b.stream ++ [] := by rw [streams]
    rw [(stream_append_inj counted countedOther followed).1]
  · rw [eq_of_agrees agree same]
  · intro agree compiled compiledOther
    obtain ⟨other, alsoCompiled, clausesAgree⟩ := agrees_of_ofPredicate agree compiled
    obtain rfl : other = b := Except.ok.inj (alsoCompiled.symm.trans compiledOther)
    refine ⟨clausesAgree, fun same t field kind => ?_⟩
    obtain rfl : a = other := eq_of_agrees clausesAgree same
    unfold Reading.lookupName Reading.locate
    simp only [compiled, compiledOther, implies_true, and_self]

/-- The ratio is a number. -/
def ratioIs (x : Double) : Predicate := .compare ⟨"ratio", .float, true⟩ .eq (.float x)

/-- The test of a ratio. -/
def ratioTest (x : Double) : Clause := .test ⟨"ratio", .eq, .float x⟩

theorem ofPredicate_ratioIs {x : Double} (finite : x.isFinite = true) :
    ofPredicate (ratioIs x) = .ok (ratioTest x) := by
  have fits : (Literal.float x).fits .float = true := Bool.and_eq_true_iff.mpr ⟨finite, rfl⟩
  rw [ratioIs, ofPredicate]
  exact ofComparison_eq_ok.mpr ⟨rfl, fits, nofun, rfl⟩

/-- The field that is summed where the ratio is a number. -/
def price : Field .int64 := ⟨"price", true⟩

/-- A half as a quotient and as a decimal. -/
theorem fingerprint_eq_of_agrees_half :
    ∃ a b, ofPredicate (ratioIs (.ofQuotient false 1 2)) = .ok a ∧
      ofPredicate (ratioIs (.ofDecimal false 5 (-1))) = .ok b ∧ a.agrees b = true ∧
      a.fingerprint = b.fingerprint ∧ (a.stream = b.stream ↔ a.zeroSigns = b.zeroSigns) ∧
      Reading.lookupName price .sum (some (ratioIs (.ofQuotient false 1 2))) =
        Reading.lookupName price .sum (some (ratioIs (.ofDecimal false 5 (-1)))) := by
  have agree :
      (ratioIs (.ofQuotient false 1 2)).agrees (ratioIs (.ofDecimal false 5 (-1))) = true := by
    decide +kernel
  have compiled := ofPredicate_ratioIs (x := .ofQuotient false 1 2) (by decide +kernel)
  have compiledOther := ofPredicate_ratioIs (x := .ofDecimal false 5 (-1)) (by decide +kernel)
  have signs :
      (ratioTest (.ofQuotient false 1 2)).zeroSigns =
        (ratioTest (.ofDecimal false 5 (-1))).zeroSigns := by
    decide +kernel
  have room : "ratio".utf8ByteSize < Octets.capacity := by decide
  have counted (x : Double) : (ratioTest x).Counted := ⟨room, trivial⟩
  obtain ⟨fingerprints, streams, predicates⟩ :=
    fingerprint_eq_of_agrees (a := ratioTest (.ofQuotient false 1 2))
      (b := ratioTest (.ofDecimal false 5 (-1)))
      (p := ratioIs (.ofQuotient false 1 2)) (q := ratioIs (.ofDecimal false 5 (-1)))
  obtain ⟨clauses, names⟩ := predicates agree compiled compiledOther
  exact ⟨_, _, compiled, compiledOther, clauses, fingerprints clauses signs,
    streams clauses (counted _) (counted _), (names signs price .sum).1⟩

/-- Zero and minus zero agree, but neither their fingerprints nor their names do. -/
theorem fingerprint_ne_of_zeros :
    (ratioIs (.zero false)).agrees (ratioIs (.zero true)) = true ∧
      ∃ a b, ofPredicate (ratioIs (.zero false)) = .ok a ∧
        ofPredicate (ratioIs (.zero true)) = .ok b ∧
        a.agrees b = true ∧ a.fingerprint ≠ b.fingerprint ∧
        Reading.lookupName price .sum (some (ratioIs (.zero false))) ≠
          Reading.lookupName price .sum (some (ratioIs (.zero true))) := by
  have digits :
      (ratioTest (.zero false)).fingerprint.short ≠ (ratioTest (.zero true)).fingerprint.short := by
    decide +kernel
  have compiled := ofPredicate_ratioIs (x := .zero false) (by decide +kernel)
  have compiledOther := ofPredicate_ratioIs (x := .zero true) (by decide +kernel)
  have name (x : Double) (finite : x.isFinite = true) :
      Reading.lookupName price .sum (some (ratioIs x)) =
        .ok (FacetName.scope (FacetName.derive .sum "price") (ratioTest x).fingerprint) :=
    Reading.lookupName_eq_ok.mpr
      ⟨rfl, some (ratioTest x), mapM_some_eq_ok.mpr ⟨_, ofPredicate_ratioIs finite, rfl⟩, rfl⟩
  refine ⟨by decide +kernel, _, _, compiled, compiledOther, by decide +kernel,
    fun same => ?_, fun same => ?_⟩
  · exact digits (congrArg Fingerprint.short same)
  · rw [name _ (by decide +kernel), name _ (by decide +kernel), Except.ok.injEq,
      FacetName.scope_eq_iff] at same
    exact digits same.2

end Clause

end FacetQuery
