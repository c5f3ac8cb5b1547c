/-
**Predicates over typed fields.**

A predicate that is made of typed fields compares every field with values of its own type alone, so
what is checked of an operand at last, that it is one for the kind of its field, has been decided by
the type. Left are a path that is none, nothing as an operand, a number that is not finite, and an
order where there is none.

* `ValueType.judged` — **the literal of a value fits the kind of its type**, but for two flaws.
* `TypedPredicate` — **what typed fields make**, with the four flaws of it (`TypedPredicate.Has`).
* `TypedPredicate.refused_iff_flawed` — **it is refused exactly for its flaws.**
-/

import FacetQuery.Proofs.Magnitudes
import FacetQuery.Proofs.PathGrammar
import FacetQuery.Proofs.Regrouping

namespace FacetQuery

/-! ### Values of a type -/

/-- **What a predicate over typed fields can have wrong with it**: a path that is none, nothing as
an operand, a number that is not finite, and an order of flags. -/
inductive Flaw where
  | path
  | nothing
  | unbounded
  | unordered
deriving DecidableEq, Repr

/-- The flaw that a refusal tells of; the others tell of what typed fields do not make. -/
def Refusal.flaw? : Refusal → Option Flaw
  | emptyPath => some .path
  | segment _ => some .path
  | nullOperand => some .nothing
  | unboundedOperand => some .unbounded
  | unorderedField => some .unordered
  | mismatch _ _ => none
  | bareField => none
  | noOperands => none
  | other _ => none

namespace ValueType

/-- The type of flags, or of flags that may be absent, to any depth. -/
def IsFlags : ValueType → Prop
  | bool => True
  | optional t => t.IsFlags
  | _ => False

/-- A value is nothing, or holds something that is. -/
def IsNothing : (t : ValueType) → t.Carrier → Prop
  | optional t, value => Option.elim value True t.IsNothing
  | _, _ => False

/-- A value is, or holds, a floating number that is not finite. -/
def IsUnbounded : (t : ValueType) → t.Carrier → Prop
  | number .single, x => Binary.isFinite (f := .single) x = false
  | number .double, x => Binary.isFinite (f := .double) x = false
  | optional t, value => Option.elim value False t.IsUnbounded
  | _, _ => False

/-- The flaws of an operand. -/
def Flawed (t : ValueType) (value : t.Carrier) : Flaw → Prop
  | .nothing => t.IsNothing value
  | .unbounded => t.IsUnbounded value
  | _ => False

theorem kind_eq_bool {t : ValueType} : t.kind = .bool ↔ t.IsFlags := by
  induction t with
  | number t =>
    rcases t with (_ | _) | _ | _ <;> simp [kind, NumberType.kind, IntegerType.kind, IsFlags]
  | bool => simp [kind, IsFlags]
  | text => simp [kind, IsFlags]
  | instant => simp [kind, IsFlags]
  | choice e => simp [kind, IsFlags]
  | optional t inner => exact inner

/-- The literal of a value is taken by the kind of its type, and the value has no flaw, or it is
refused for a flaw that the value has. -/
def Judged (t : ValueType) (value : t.Carrier) : Prop :=
  (t.literal value).fits t.kind = true ∧ (∀ flaw, ¬ t.Flawed value flaw) ∨
    (t.literal value).fits t.kind = false ∧
      ∃ flaw, ((t.literal value).refusal t.kind).flaw? = some flaw ∧ t.Flawed value flaw

variable {t : ValueType} {value : t.Carrier}

theorem judged_of_fits (fits : (t.literal value).fits t.kind = true)
    (something : ¬ t.IsNothing value) (bounded : ¬ t.IsUnbounded value) : t.Judged value := by
  refine .inl ⟨fits, ?_⟩
  rintro (_ | _ | _ | _) flawed
  · exact flawed
  · exact something flawed
  · exact bounded flawed
  · exact flawed

/-- A floating number is judged by whether it is finite. -/
theorem judged_of_float {x : Double} (written : t.literal value = .float x) (kept : t.kind = .float)
    (something : ¬ t.IsNothing value) (unbounded : t.IsUnbounded value ↔ x.isFinite = false) :
    t.Judged value := by
  cases finite : x.isFinite with
  | true =>
    refine judged_of_fits ?_ something fun flawed => nomatch finite.symm.trans (unbounded.mp flawed)
    rw [written, kept]
    simp [Literal.fits, finite]
  | false =>
    refine .inr ⟨?_, .unbounded, ?_, unbounded.mpr finite⟩
    · rw [written]
      simp [Literal.fits, finite]
    · rw [written]
      simp [Literal.refusal, finite, Refusal.flaw?]

/-- **The literal of a value fits the kind of its type**, unless the value is nothing, which is
refused as null, or not finite, which is refused as that. -/
theorem judged (t : ValueType) (value : t.Carrier) : t.Judged value := by
  induction t with
  | number t =>
    cases t with
    | integer t => cases t <;> exact judged_of_fits rfl id id
    | single =>
      have widened := Binary.isFinite_widened value
      exact judged_of_float rfl rfl id ⟨widened.trans, widened.symm.trans⟩
    | double => exact judged_of_float rfl rfl id Iff.rfl
  | bool => exact judged_of_fits rfl id id
  | text => exact judged_of_fits rfl id id
  | instant => exact judged_of_fits rfl id id
  | choice e => exact judged_of_fits rfl id id
  | optional t inner =>
    -- A value that is there has the literal and the kind of the type inside.
    cases value with
    | none => exact .inr ⟨rfl, .nothing, rfl, trivial⟩
    | some value => exact inner value

end ValueType

/-! ### Predicates -/

/-- **What typed fields make.** A field is compared with a value of its type, or asked for one of
some such values, or is a flag by itself; and predicates are joined, turned round and restricted
further. -/
inductive TypedPredicate where
  | compare {t : ValueType} (field : Field t) (op : Comparison) (value : t.Carrier)
  | within {t : ValueType} (field : Field t) (values : List t.Carrier)
  | isTrue (field : Field .bool)
  | isPresentAndTrue (field : Field (.optional .bool))
  | and (a b : TypedPredicate)
  | or (a b : TypedPredicate)
  | not (a : TypedPredicate)
  | andWithin {t : ValueType} (a : TypedPredicate) (field : Field t) (values : List t.Carrier)

/-- The flaws of a field with its operands. -/
def Field.Flawed {t : ValueType} (field : Field t) (values : List t.Carrier) (flaw : Flaw) : Prop :=
  flaw = .path ∧ ¬ Path.IsPath field.path ∨ ∃ value ∈ values, t.Flawed value flaw

namespace TypedPredicate

/-- The predicate, its types forgotten. -/
def predicate : TypedPredicate → Predicate
  | compare field op value => field.compare op value
  | within field values => field.within values
  | isTrue field => field.isTrue
  | isPresentAndTrue field => field.isPresentAndTrue
  | and a b => a.predicate.and b.predicate
  | or a b => a.predicate.or b.predicate
  | not a => .not a.predicate
  | andWithin a field values => a.predicate.andWithin field values

/-- **The flaws of a predicate** are those of its atoms. -/
def Has (flaw : Flaw) : TypedPredicate → Prop
  | @compare t field op value =>
    field.Flawed [value] flaw ∨ flaw = .unordered ∧ op.isRange = true ∧ t.IsFlags
  | within field values => field.Flawed values flaw
  | isTrue field => field.Flawed [] flaw
  | isPresentAndTrue field => field.Flawed [] flaw
  | and a b => a.Has flaw ∨ b.Has flaw
  | or a b => a.Has flaw ∨ b.Has flaw
  | not a => a.Has flaw
  | andWithin a field values => a.Has flaw ∨ field.Flawed values flaw

end TypedPredicate

/-! ### How parts fail -/

/-- A failure tells of one of some flaws: it refuses an expression for a reason that tells of it. -/
def Failure.TellsOf (has : Flaw → Prop) (failure : Failure) : Prop :=
  ∃ expression reason flaw, failure = .unsupported expression reason ∧
    reason.flaw? = some flaw ∧ has flaw

/-- A step whose failures tell of some flaws tells of no others than more of them. -/
theorem OnlyFails.mono {has more : Flaw → Prop} {α : Type} {step : Except Failure α}
    (fails : OnlyFails (Failure.TellsOf has) step) (all : ∀ flaw, has flaw → more flaw) :
    OnlyFails (Failure.TellsOf more) step := by
  intro failure failed
  obtain ⟨expression, reason, flaw, same, told, here⟩ := fails failure failed
  exact ⟨expression, reason, flaw, same, told, all flaw here⟩

theorem Path.onlyFails_check {path : String} {has : Flaw → Prop}
    (lacking : ¬ IsPath path → has .path) : OnlyFails (Failure.TellsOf has) (check path) := by
  intro failure failed
  have unfit : ¬ IsPath path := fun fit => nomatch failed.symm.trans (check_eq_ok.mpr fit)
  unfold check at failed
  split at failed
  · exact ⟨_, _, .path, (Except.error.inj failed).symm, rfl, lacking unfit⟩
  · split at failed
    · exact ⟨_, _, .path, (Except.error.inj failed).symm, rfl, lacking unfit⟩
    · exact nomatch failed

namespace Clause

variable {has : Flaw → Prop} {expected : Failure → Prop}

theorem onlyFails_refuseIf {expression : Predicate} {reason? : Option Refusal}
    (told : ∀ reason, reason? = some reason → ∃ flaw, reason.flaw? = some flaw ∧ has flaw) :
    OnlyFails (Failure.TellsOf has) (refuseIf expression reason?) := by
  cases reason? with
  | none => exact .ok ()
  | some reason =>
    obtain ⟨flaw, tells, here⟩ := told reason rfl
    exact .error ⟨_, reason, flaw, rfl, tells, here⟩

/-- Operands of a type are refused for their flaws. -/
theorem operandFailure?_literals {t : ValueType} {values : List t.Carrier} {reason : Refusal}
    (refused : operandFailure? t.kind (values.map t.literal) = some reason) :
    ∃ flaw, reason.flaw? = some flaw ∧ ∃ value ∈ values, t.Flawed value flaw := by
  obtain ⟨operand, found, rfl⟩ := Option.map_eq_some_iff.mp refused
  obtain ⟨value, member, rfl⟩ := List.mem_map.mp (List.mem_of_find?_eq_some found)
  have unfit : (t.literal value).fits t.kind = false := by simpa using List.find?_some found
  rcases t.judged value with ⟨fits, _⟩ | ⟨_, flaw, told, flawed⟩
  · exact nomatch fits.symm.trans unfit
  · exact ⟨flaw, told, value, member, flawed⟩

/-- Two joined predicates fail as one of them does. -/
theorem onlyFails_pair (grouping : Grouping) {p q : Predicate}
    (first : OnlyFails expected (ofPredicate p)) (second : OnlyFails expected (ofPredicate q)) :
    OnlyFails expected (ofPredicate (grouping.predicate [p, q])) := by
  rw [ofPredicate_group grouping (List.cons_ne_nil p [q]), ofPredicates_eq]
  refine (OnlyFails.mapM fun part member => ?_).bind fun _ => .ok _
  rcases List.mem_pair.mp member with rfl | rfl
  · exact first
  · exact second

end Clause

namespace Field

variable {t : ValueType} {field : Field t} {values : List t.Carrier} {has : Flaw → Prop}

/-- The path of a field is refused if it is none. -/
theorem onlyFails_resolve (told : ∀ flaw, field.Flawed values flaw → has flaw) :
    OnlyFails (Failure.TellsOf has) field.ref.resolve :=
  (Path.onlyFails_check fun unfit => told .path (.inl ⟨rfl, unfit⟩)).bind fun _ => .ok _

/-- The operands of a field are refused for their flaws. -/
theorem onlyFails_operands {expression : Predicate} (values : List t.Carrier)
    (told : ∀ flaw, field.Flawed values flaw → has flaw) :
    OnlyFails (Failure.TellsOf has)
      (Clause.refuseIf expression
        (Clause.operandFailure? field.ref.kind (values.map t.literal))) := by
  refine Clause.onlyFails_refuseIf fun reason refused => ?_
  obtain ⟨flaw, tells, flawed⟩ := Clause.operandFailure?_literals refused
  exact ⟨flaw, tells, told flaw (.inr flawed)⟩

theorem onlyFails_within (field : Field t) (values : List t.Carrier) :
    OnlyFails (Failure.TellsOf (field.Flawed values))
      (Clause.ofPredicate (field.within values)) := by
  rw [within, Clause.ofPredicate]
  exact (onlyFails_resolve fun _ => id).bind fun _ =>
    (onlyFails_operands values fun _ => id).bind fun _ => .ok _

/-- A flag by itself is refused for its path alone. -/
theorem onlyFails_flag (field : Field t) (flags : t.IsFlags) :
    OnlyFails (Failure.TellsOf (field.Flawed [])) (Clause.ofPredicate (.flag field.ref)) := by
  rw [Clause.ofPredicate]
  refine (onlyFails_resolve fun _ => id).bind fun _ =>
    (Clause.onlyFails_refuseIf fun reason refused => ?_).bind fun _ => .ok _
  have kept : field.ref.kind = .bool := ValueType.kind_eq_bool.mpr flags
  rw [if_pos kept] at refused
  exact nomatch refused

theorem onlyFails_compare (field : Field t) (op : Comparison) (value : t.Carrier) :
    OnlyFails (Failure.TellsOf ((TypedPredicate.compare field op value).Has ·))
      (Clause.ofPredicate (field.compare op value)) := by
  rw [compare, Clause.ofPredicate]
  refine (onlyFails_resolve fun _ => Or.inl).bind fun _ =>
    (onlyFails_operands [value] fun _ => Or.inl).bind fun _ =>
      (Clause.onlyFails_refuseIf fun reason refused => ?_).bind fun _ => .ok _
  split at refused
  · rename_i ranged
    obtain ⟨range, unordered⟩ := Bool.and_eq_true_iff.mp ranged
    have flags : field.ref.kind = .bool := by simpa [FieldKind.isOrdered] using unordered
    exact ⟨.unordered, by rw [← Option.some.inj refused]; rfl,
      .inr ⟨rfl, range, ValueType.kind_eq_bool.mp flags⟩⟩
  · exact nomatch refused

end Field

/-! ### What compiles -/

namespace Field

variable {t : ValueType} {field : Field t} {clause : Clause}

/-- Operands that fit have no flaw. -/
theorem not_flawed {values : List t.Carrier} (valid : Path.check field.path = .ok ())
    (fit : ∀ operand ∈ values.map t.literal, operand.fits t.kind = true) (flaw : Flaw) :
    ¬ field.Flawed values flaw := by
  rintro (⟨_, unfit⟩ | ⟨value, member, flawed⟩)
  · exact unfit (Path.check_eq_ok.mp valid)
  · have fits := fit _ (List.mem_map_of_mem member)
    rcases t.judged value with ⟨_, sound⟩ | ⟨unfit, _⟩
    · exact sound flaw flawed
    · exact nomatch fits.symm.trans unfit

theorem not_flawed_within {values : List t.Carrier}
    (compiled : Clause.ofPredicate (field.within values) = .ok clause) (flaw : Flaw) :
    ¬ field.Flawed values flaw := by
  rw [within, Clause.ofPredicate] at compiled
  obtain ⟨valid, fit, _⟩ := Clause.ofMembership_eq_ok.mp compiled
  exact not_flawed valid fit flaw

theorem not_flawed_flag (compiled : Clause.ofPredicate (.flag field.ref) = .ok clause)
    (flaw : Flaw) : ¬ field.Flawed [] flaw := by
  rw [Clause.ofPredicate] at compiled
  obtain ⟨valid, _⟩ := Clause.ofFlag_eq_ok.mp compiled
  exact not_flawed valid (by simp) flaw

end Field

namespace Clause

/-- Both of two joined predicates compile if they do together. -/
theorem exists_of_pair (grouping : Grouping) {p q : Predicate} {clause : Clause}
    (compiled : ofPredicate (grouping.predicate [p, q]) = .ok clause) :
    (∃ left, ofPredicate p = .ok left) ∧ ∃ right, ofPredicate q = .ok right := by
  obtain ⟨_, clauses, each, _⟩ := ofPredicate_group_eq_ok.mp compiled
  obtain ⟨left, _, first, behind, _⟩ := List.forall₂_cons_left_iff.mp (ofPredicates_eq_ok.mp each)
  obtain ⟨right, _, second, _⟩ := List.forall₂_cons_left_iff.mp behind
  exact ⟨⟨left, first⟩, right, second⟩

end Clause

namespace TypedPredicate

/-- A predicate over typed fields is refused for its flaws alone. -/
theorem onlyFails (p : TypedPredicate) :
    OnlyFails (Failure.TellsOf (p.Has ·)) (Clause.ofPredicate p.predicate) := by
  induction p with
  | compare field op value => exact field.onlyFails_compare op value
  | within field values => exact field.onlyFails_within values
  | isTrue field => exact field.onlyFails_flag trivial
  | isPresentAndTrue field => exact field.onlyFails_flag trivial
  | and a b first second =>
    exact Clause.onlyFails_pair .all (first.mono fun _ => Or.inl) (second.mono fun _ => Or.inr)
  | or a b first second =>
    exact Clause.onlyFails_pair .any (first.mono fun _ => Or.inl) (second.mono fun _ => Or.inr)
  | not a inner =>
    rw [predicate, Clause.ofPredicate]
    exact inner.bind fun _ => .ok _
  | andWithin a field values inner =>
    refine Clause.onlyFails_pair .all (inner.mono fun _ => Or.inl) ?_
    exact (field.onlyFails_within values).mono fun _ => Or.inr

/-- A predicate that compiles has no flaw. -/
theorem not_has_of_ok {p : TypedPredicate} {clause : Clause}
    (compiled : Clause.ofPredicate p.predicate = .ok clause) (flaw : Flaw) : ¬ p.Has flaw := by
  induction p generalizing clause with
  | @compare t field op value =>
    rw [predicate, Field.compare, Clause.ofPredicate] at compiled
    obtain ⟨valid, fits, ordered, _⟩ := Clause.ofComparison_eq_ok.mp compiled
    rintro (flawed | ⟨_, range, flags⟩)
    · refine Field.not_flawed valid (fun operand member => ?_) flaw flawed
      obtain rfl := List.mem_singleton.mp member
      exact fits
    · have kept : field.ref.kind = .bool := ValueType.kind_eq_bool.mpr flags
      exact absurd (ordered range) (by rw [kept]; decide)
  | within field values => exact Field.not_flawed_within compiled flaw
  | isTrue field => exact Field.not_flawed_flag compiled flaw
  | isPresentAndTrue field => exact Field.not_flawed_flag compiled flaw
  | and a b first second =>
    obtain ⟨⟨_, left⟩, _, right⟩ := Clause.exists_of_pair .all compiled
    exact not_or.mpr ⟨first left, second right⟩
  | or a b first second =>
    obtain ⟨⟨_, left⟩, _, right⟩ := Clause.exists_of_pair .any compiled
    exact not_or.mpr ⟨first left, second right⟩
  | not a inner =>
    obtain ⟨_, made, _⟩ := Clause.ofPredicate_not_eq_ok.mp compiled
    exact inner made
  | andWithin a field values inner =>
    obtain ⟨⟨_, left⟩, _, right⟩ := Clause.exists_of_pair .all compiled
    exact not_or.mpr ⟨inner left, Field.not_flawed_within right flaw⟩

/-- **A predicate over typed fields is refused exactly for its flaws.** It does not compile exactly
if a field in it has no path, an operand is nothing or a number that is not finite, or flags are
compared by order; and the failure tells of such a flaw. That an operand is not one for its field,
that a field by itself is not a flag, and that there is nothing to join, is never said of it. -/
theorem refused_iff_flawed (p : TypedPredicate) :
    ((∃ failure, Clause.ofPredicate p.predicate = .error failure) ↔ ∃ flaw, p.Has flaw) ∧
      ∀ failure, Clause.ofPredicate p.predicate = .error failure →
        ∃ expression reason flaw, failure = .unsupported expression reason ∧
          reason.flaw? = some flaw ∧ p.Has flaw ∧
          (∀ operand kind, reason ≠ .mismatch operand kind) ∧ reason ≠ .bareField ∧
            reason ≠ .noOperands := by
  refine ⟨⟨?_, ?_⟩, ?_⟩
  · -- The failure itself tells which flaw there is.
    rintro ⟨failure, failed⟩
    obtain ⟨_, _, flaw, _, _, flawed⟩ := p.onlyFails failure failed
    exact ⟨flaw, flawed⟩
  · rintro ⟨flaw, flawed⟩
    cases compiled : Clause.ofPredicate p.predicate with
    | error failure => exact ⟨failure, rfl⟩
    | ok clause => exact (not_has_of_ok compiled flaw flawed).elim
  · intro failure failed
    obtain ⟨expression, reason, flaw, same, told, flawed⟩ := p.onlyFails failure failed
    refine ⟨expression, reason, flaw, same, told, flawed, ?_, ?_, ?_⟩
    · rintro operand kind rfl
      exact nomatch told
    · rintro rfl
      exact nomatch told
    · rintro rfl
      exact nomatch told

end TypedPredicate

end FacetQuery
