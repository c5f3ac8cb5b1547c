/-
**The first offence.**

A predicate is supported if each of its parts is, by itself: paths are paths, operands go with their
fields, flags alone stand by themselves and have no order, and what joins predicates joins some.
Otherwise the first part that is not, a whole before its parts and these from left to right, says
how the predicate is refused: under its path, if that is none, and else under its own text.

* `Literal.Fits` — **which operands go with which fields.**
* `Predicate.parts` — **the parts of a predicate in order**, itself the first.
* `Predicate.Supported`, `Predicate.Refused` — **what is wrong with a part by itself**, and what is
  said about it.
* `Predicate.failure?_ofPredicate` — a predicate fails to compile as the first of its parts that is
  refused.
* `Predicate.Shows.ne_display` — nothing is refused under the text of what it is inside of.
* `Predicate.ofPredicate_decided` — **what compiles, and what is refused how.**
-/

import FacetQuery.Proofs.Refusals
import FacetQuery.Proofs.TypedPredicates

namespace FacetQuery

/-! ### Operands -/

/-- **Which operands go with which fields.** -/
inductive Literal.Fits : Literal → FieldKind → Prop
  | bool (flag : Bool) : Fits (.bool flag) .bool
  | int (n : Int64) {kind : FieldKind} (numeric : kind ∈ [.int, .uint, .float]) : Fits (.int n) kind
  | uint (n : UInt64) {kind : FieldKind} (numeric : kind ∈ [.int, .uint, .float]) :
      Fits (.uint n) kind
  | float {x : Double} (finite : x.isFinite = true) : Fits (.float x) .float
  | text (content : String) {kind : FieldKind} (textual : kind ∈ [.text, .choice]) :
      Fits (.text content) kind
  | choice (name : String) : Fits (.choice name) .choice
  | instant (time : Instant) : Fits (.instant time) .instant

theorem FieldKind.isNumeric_iff {kind : FieldKind} :
    kind.isNumeric = true ↔ kind ∈ [.int, .uint, .float] := by
  cases kind <;> decide

theorem FieldKind.isTextual_iff {kind : FieldKind} :
    kind.isTextual = true ↔ kind ∈ [.text, .choice] := by
  cases kind <;> decide

theorem Literal.fits_iff {operand : Literal} {kind : FieldKind} :
    operand.fits kind = true ↔ operand.Fits kind := by
  constructor
  · intro fits
    cases operand with
    | null | list => cases fits
    | bool flag =>
      cases of_decide_eq_true fits
      exact .bool flag
    | int n => exact .int n (FieldKind.isNumeric_iff.mp fits)
    | uint n => exact .uint n (FieldKind.isNumeric_iff.mp fits)
    | float x =>
      obtain ⟨finite, same⟩ := Bool.and_eq_true_iff.mp fits
      cases of_decide_eq_true same
      exact .float finite
    | text content => exact .text content (FieldKind.isTextual_iff.mp fits)
    | choice name =>
      cases of_decide_eq_true fits
      exact .choice name
    | instant time =>
      cases of_decide_eq_true fits
      exact .instant time
  · intro fits
    cases fits with
    | bool | choice | instant => rfl
    | int n numeric | uint n numeric => exact FieldKind.isNumeric_iff.mpr numeric
    | float finite => exact Bool.and_eq_true_iff.mpr ⟨finite, rfl⟩
    | text content textual => exact FieldKind.isTextual_iff.mpr textual

/-! ### Parts -/

namespace Predicate

mutual

/-- The parts inside a predicate. -/
def inside : Predicate → List Predicate
  | .compare _ _ _ | .within _ _ | .flag _ => []
  | .all parts | .any parts => preorder parts
  | .not part => part :: inside part

/-- Some predicates with what is inside them, each before that and from left to right. -/
def preorder : List Predicate → List Predicate
  | [] => []
  | part :: rest => part :: (inside part ++ preorder rest)

end

/-- **The parts of a predicate in order**, itself the first. -/
def parts (predicate : Predicate) : List Predicate := predicate :: predicate.inside

/-- The field of a predicate about one. -/
def field? : Predicate → Option FieldRef
  | .compare field _ _ | .within field _ | .flag field => some field
  | .all _ | .any _ | .not _ => none

/-- **A predicate that is supported by itself**, whatever is wrong inside it. -/
def Supported : Predicate → Prop
  | .compare field op operand =>
    Path.IsPath field.path ∧ operand.Fits field.kind ∧ (op.isRange = true → field.kind ≠ .bool)
  | .within field operands => Path.IsPath field.path ∧ ∀ operand ∈ operands, operand.Fits field.kind
  | .flag field => Path.IsPath field.path ∧ field.kind = .bool
  | .all parts | .any parts => parts ≠ []
  | .not _ => True

/-- **What is wrong with a predicate by itself**, its path apart: its operands from left to right,
and then its order. -/
inductive Flawed : Predicate → Refusal → Prop
  | operand {field : FieldRef} {op : Comparison} {operand : Literal}
      (unfit : ¬ operand.Fits field.kind) :
      Flawed (.compare field op operand) (operand.refusal field.kind)
  | order {field : FieldRef} {op : Comparison} {operand : Literal} (fits : operand.Fits field.kind)
      (range : op.isRange = true) (flag : field.kind = .bool) :
        Flawed (.compare field op operand) .unorderedField
  | operands {field : FieldRef} {before after : List Literal} {operand : Literal}
      (first : ∀ other ∈ before, other.Fits field.kind) (unfit : ¬ operand.Fits field.kind) :
      Flawed (.within field (before ++ operand :: after)) (operand.refusal field.kind)
  | bare {field : FieldRef} (noFlag : field.kind ≠ .bool) : Flawed (.flag field) .bareField
  | all : Flawed (.all []) .noOperands
  | any : Flawed (.any []) .noOperands

/-- **How a predicate is refused by itself**, the text that is shown and the reason: under its path,
if that is none, and else under its own text. -/
inductive Refused : Predicate → String → Refusal → Prop
  | path {part : Predicate} {field : FieldRef} {reason : Refusal} (about : part.field? = some field)
      (lacks : Path.Lacks field.path reason) : Refused part field.path reason
  | itself {part : Predicate} {reason : Refusal}
      (path : ∀ field, part.field? = some field → Path.IsPath field.path)
      (flawed : part.Flawed reason) : Refused part part.display reason

/-! ### Refusals of parts -/

/-- The reason to refuse a predicate by itself, its path apart. -/
def flaw? : Predicate → Option Refusal
  | .compare field op operand =>
    (Clause.operandFailure? field.kind [operand]).or
      (if op.isRange && !field.kind.isOrdered then some .unorderedField else none)
  | .within field operands => Clause.operandFailure? field.kind operands
  | .flag field => if field.kind = .bool then none else some .bareField
  | .all parts | .any parts => if parts = [] then some .noOperands else none
  | .not _ => none

/-- The refusal of a predicate by itself. -/
def refusal? (part : Predicate) : Option Failure :=
  (part.field?.bind fun field => failure? (Path.check field.path)).or
    (part.flaw?.map (.unsupported part.display))

theorem operandFailure?_eq_some {kind : FieldKind} {operands : List Literal} {reason : Refusal} :
    Clause.operandFailure? kind operands = some reason ↔
      ∃ before operand after, operands = before ++ operand :: after ∧
        (∀ other ∈ before, other.Fits kind) ∧
        ¬ operand.Fits kind ∧ operand.refusal kind = reason := by
  unfold Clause.operandFailure?
  simp only [Option.map_eq_some_iff, List.find?_eq_some_iff_append, Bool.not_not, Literal.fits_iff,
    Bool.not_eq_true', ← Bool.not_eq_true]
  constructor
  · rintro ⟨operand, ⟨unfit, before, after, split, first⟩, same⟩
    exact ⟨before, operand, after, split, first, unfit, same⟩
  · rintro ⟨before, operand, after, split, first, unfit, same⟩
    exact ⟨operand, ⟨unfit, before, after, split, first⟩, same⟩

theorem operandFailure?_singleton_eq_some {kind : FieldKind} {operand : Literal}
    {reason : Refusal} :
    Clause.operandFailure? kind [operand] = some reason ↔
      ¬ operand.Fits kind ∧ operand.refusal kind = reason := by
  rw [operandFailure?_eq_some]
  constructor
  · rintro ⟨before, other, after, split, _, unfit, same⟩
    obtain ⟨rfl, rfl⟩ : before = [] ∧ other = operand := by
      cases before <;> simp_all
    exact ⟨unfit, same⟩
  · rintro ⟨unfit, same⟩
    exact ⟨[], operand, [], rfl, nofun, unfit, same⟩

theorem operandFailure?_eq_none_iff {kind : FieldKind} {operands : List Literal} :
    Clause.operandFailure? kind operands = none ↔ ∀ operand ∈ operands, operand.Fits kind := by
  rw [Clause.operandFailure?_eq_none]
  exact forall₂_congr fun _ _ => Literal.fits_iff

theorem flaw?_eq_some {part : Predicate} {reason : Refusal} :
    part.flaw? = some reason ↔ part.Flawed reason := by
  constructor
  · intro flawed
    cases part with
    | compare field op operand =>
      rcases Option.or_eq_some_iff.mp flawed with refused | ⟨fits, order⟩
      · obtain ⟨unfit, rfl⟩ := operandFailure?_singleton_eq_some.mp refused
        exact .operand unfit
      · have fits := List.forall_mem_singleton.mp (operandFailure?_eq_none_iff.mp fits)
        obtain ⟨noOrder, same⟩ := Option.ite_none_right_eq_some.mp order
        cases same
        simp only [FieldKind.isOrdered, bne, Bool.not_not, Bool.and_eq_true, beq_iff_eq] at noOrder
        exact .order fits noOrder.1 noOrder.2
    | within field operands =>
      obtain ⟨before, operand, after, rfl, first, unfit, rfl⟩ := operandFailure?_eq_some.mp flawed
      exact .operands first unfit
    | flag field =>
      obtain ⟨noFlag, same⟩ := Option.ite_none_left_eq_some.mp flawed
      cases same
      exact .bare noFlag
    | all parts =>
      obtain ⟨rfl, same⟩ := Option.ite_none_right_eq_some.mp flawed
      cases same
      exact .all
    | any parts =>
      obtain ⟨rfl, same⟩ := Option.ite_none_right_eq_some.mp flawed
      cases same
      exact .any
    | not part => cases flawed
  · intro flawed
    cases flawed with
    | operand unfit =>
      exact Option.or_eq_some_iff.mpr (.inl (operandFailure?_singleton_eq_some.mpr ⟨unfit, rfl⟩))
    | @order field op operand fits range flag =>
      have fits := operandFailure?_eq_none_iff.mpr (List.forall_mem_singleton.mpr fits)
      refine Option.or_eq_some_iff.mpr (.inr ⟨fits, ?_⟩)
      rw [range, flag]
      rfl
    | operands first unfit => exact operandFailure?_eq_some.mpr ⟨_, _, _, rfl, first, unfit, rfl⟩
    | bare noFlag => exact if_neg noFlag
    | all => rfl
    | any => rfl

theorem refusal?_eq_some {part : Predicate} {failure : Failure} :
    part.refusal? = some failure ↔
      ∃ expression reason, part.Refused expression reason ∧
        failure = .unsupported expression reason := by
  unfold refusal?
  rw [Option.or_eq_some_iff, Option.bind_eq_some_iff, Option.bind_eq_none_iff,
    Option.map_eq_some_iff]
  constructor
  · rintro (⟨field, about, refused⟩ | ⟨paths, reason, flawed, rfl⟩)
    · obtain ⟨reason, lacks, rfl⟩ := Path.check_eq_error.mp (failure?_eq_some.mp refused)
      exact ⟨field.path, reason, .path about lacks, rfl⟩
    · refine ⟨part.display, reason, .itself (fun field about => ?_) (flaw?_eq_some.mp flawed), rfl⟩
      exact Path.check_eq_ok.mp (Facet.failure?_check_eq_none.mp (paths field about))
  · rintro ⟨expression, reason, refused, rfl⟩
    cases refused with
    | path about lacks =>
      exact .inl ⟨_, about, failure?_eq_some.mpr (Path.check_eq_error.mpr ⟨reason, lacks, rfl⟩)⟩
    | itself paths flawed =>
      refine .inr ⟨fun field about => ?_, reason, flaw?_eq_some.mpr flawed, rfl⟩
      exact Facet.failure?_check_eq_none.mpr (Path.check_eq_ok.mpr (paths field about))

/-- **A predicate is supported by itself exactly if it is not refused.** -/
theorem refusal?_eq_none {part : Predicate} : part.refusal? = none ↔ part.Supported := by
  unfold refusal?
  rw [Option.or_eq_none_iff, Option.map_eq_none_iff, Option.bind_eq_none_iff]
  simp only [Facet.failure?_check_eq_none, Path.check_eq_ok]
  cases part with
  | compare field op operand =>
    simp only [field?, flaw?, Supported, Option.some.injEq, forall_eq', Option.or_eq_none_iff,
      operandFailure?_eq_none_iff, List.forall_mem_singleton]
    refine and_congr_right fun _ => and_congr_right fun _ => ?_
    cases op.isRange <;> cases field.kind <;> simp [FieldKind.isOrdered]
  | within field operands =>
    simp only [field?, flaw?, Supported, Option.some.injEq, forall_eq', operandFailure?_eq_none_iff]
  | flag field => simp [field?, flaw?, Supported]
  | all parts | any parts => simp [field?, flaw?, Supported]
  | not part => simp [field?, flaw?, Supported]

/-! ### The first refusal -/

/-- The first refusal of some predicates. -/
def firstRefusal? (parts : List Predicate) : Option Failure := parts.findSome? refusal?

theorem firstRefusal?_cons {part : Predicate} {rest : List Predicate} :
    firstRefusal? (part :: rest) = part.refusal?.or (firstRefusal? rest) := by
  unfold firstRefusal?
  rw [List.findSome?_cons]
  cases part.refusal? <;> rfl

theorem failure?_refuseIf (expression : Predicate) (reason : Option Refusal) :
    failure? (Clause.refuseIf expression reason) =
      reason.map (.unsupported expression.display) := by
  cases reason <;> rfl

theorem failure?_ofComparison (field : FieldRef) (op : Comparison) (operand : Literal) :
    failure? (Clause.ofComparison field op operand) = (compare field op operand).refusal? := by
  rw [refusal?, flaw?, Option.map_or, ← failure?_refuseIf, ← failure?_refuseIf]
  refine (failure?_bind fun _ _ => failure?_bind fun _ _ => failure?_bind_ok fun _ => rfl).trans ?_
  rw [field.failure?_resolve]
  rfl

theorem failure?_ofMembership (field : FieldRef) (operands : List Literal) :
    failure? (Clause.ofMembership field operands) = (within field operands).refusal? := by
  rw [refusal?, flaw?, ← failure?_refuseIf]
  refine (failure?_bind fun _ _ => failure?_bind_ok fun _ => rfl).trans ?_
  rw [field.failure?_resolve]
  rfl

theorem failure?_ofFlag (field : FieldRef) :
    failure? (Clause.ofFlag field) = (flag field).refusal? := by
  rw [refusal?, flaw?, ← failure?_refuseIf]
  refine (failure?_bind fun _ _ => failure?_bind_ok fun _ => rfl).trans ?_
  rw [field.failure?_resolve]
  rfl

mutual

/-- **A predicate fails to compile as the first of its parts that is refused.** -/
theorem failure?_ofPredicate (predicate : Predicate) :
    failure? (Clause.ofPredicate predicate) = firstRefusal? predicate.parts := by
  rw [parts, firstRefusal?_cons]
  cases predicate with
  | compare field op operand =>
    rw [Clause.ofPredicate, inside, failure?_ofComparison]
    exact Option.or_none.symm
  | within field operands =>
    rw [Clause.ofPredicate, inside, failure?_ofMembership]
    exact Option.or_none.symm
  | flag field =>
    rw [Clause.ofPredicate, inside, failure?_ofFlag]
    exact Option.or_none.symm
  | all parts | any parts =>
    cases parts with
    | nil =>
      rw [Clause.ofPredicate, inside]
      rfl
    | cons part rest =>
      -- With parts there is nothing wrong with a group by itself.
      rw [Clause.ofPredicate, inside, ← failure?_ofPredicates (part :: rest)]
      exact failure?_bind_ok fun _ => rfl
  | not part =>
    rw [Clause.ofPredicate, inside]
    have within := failure?_ofPredicate part
    rw [parts] at within
    rw [← within]
    exact failure?_bind_ok fun _ => rfl

theorem failure?_ofPredicates (predicates : List Predicate) :
    failure? (Clause.ofPredicates predicates) = firstRefusal? (preorder predicates) := by
  cases predicates with
  | nil =>
    rw [Clause.ofPredicates, preorder]
    rfl
  | cons part rest =>
    have split : firstRefusal? (part.parts ++ preorder rest) =
        (firstRefusal? part.parts).or (firstRefusal? (preorder rest)) := List.findSome?_append
    rw [Clause.ofPredicates, preorder, ← List.cons_append]
    rw [parts] at split
    rw [split, ← parts, ← failure?_ofPredicate part, ← failure?_ofPredicates rest]
    exact failure?_bind fun _ _ => failure?_bind_ok fun _ => rfl

end

/-! ### Texts -/

/-- What a predicate is refused under: its path, if that is none, and else its text. -/
def Shows (part : Predicate) (expression : String) : Prop :=
  (∃ field, part.field? = some field ∧ ¬ Path.IsPath field.path ∧ expression = field.path) ∨
    (∀ field, part.field? = some field → Path.IsPath field.path) ∧ expression = part.display

variable {part whole : Predicate} {expression : String} {reason : Refusal}

theorem Refused.shows (refused : part.Refused expression reason) : part.Shows expression := by
  cases refused with
  | path about lacks => exact .inl ⟨_, about, lacks.not_isPath, rfl⟩
  | itself paths flawed => exact .inr ⟨paths, rfl⟩

theorem Refused.not_supported (refused : part.Refused expression reason) : ¬ part.Supported := by
  intro supported
  have failed := refusal?_eq_some.mpr ⟨expression, reason, refused, rfl⟩
  rw [refusal?_eq_none.mpr supported] at failed
  cases failed

theorem length_le_intercalate (separator : String) {text : String} {texts : List String}
    (member : text ∈ texts) : text.length ≤ (separator.intercalate texts).length := by
  induction texts with
  | nil => cases member
  | cons first rest later =>
    by_cases last : rest = []
    · subst last
      rw [List.mem_singleton.mp member, String.intercalate_singleton]
    · rw [String.intercalate_cons_of_ne_nil last, String.length_append, String.length_append]
      rcases List.mem_cons.mp member with rfl | member
      · omega
      · have behind := later member
        omega

theorem length_lt_joined {separator text : String} {texts : List String} (member : text ∈ texts) :
    text.length < (joined separator texts).length := by
  have inner := length_le_intercalate separator member
  simp only [joined, String.length_append]
  have bracket : "(".length = 1 := rfl
  omega

mutual

/-- What is inside a predicate has a shorter text. -/
theorem length_display_lt {part : Predicate} (whole : Predicate) (member : part ∈ whole.inside) :
    part.display.length < whole.display.length := by
  cases whole with
  | compare | within | flag =>
    rw [inside] at member
    cases member
  | all parts | any parts =>
    rw [inside] at member
    obtain ⟨top, there, below⟩ := exists_top member
    rw [display, displays_eq]
    exact below.trans_lt (length_lt_joined (List.mem_map_of_mem there))
  | not inner =>
    rw [inside] at member
    have shorter : inner.display.length < (Predicate.not inner).display.length := by
      rw [display]
      simp only [String.length_append, toString]
      have bracket : ")".length = 1 := rfl
      omega
    rcases List.mem_cons.mp member with rfl | member
    · exact shorter
    · exact (length_display_lt inner member).trans shorter

/-- What is among some predicates, at any depth, has a text that is no longer than one of theirs. -/
theorem exists_top {part : Predicate} {parts : List Predicate} (member : part ∈ preorder parts) :
    ∃ top ∈ parts, part.display.length ≤ top.display.length := by
  cases parts with
  | nil =>
    rw [preorder] at member
    cases member
  | cons first rest =>
    rw [preorder, List.mem_cons, List.mem_append] at member
    rcases member with rfl | below | later
    · exact ⟨part, List.mem_cons_self, Nat.le_refl _⟩
    · exact ⟨first, List.mem_cons_self, (length_display_lt first below).le⟩
    · obtain ⟨top, there, below⟩ := exists_top later
      exact ⟨top, List.mem_cons_of_mem _ there, below⟩

end

theorem length_path_le {field : FieldRef} (about : part.field? = some field) :
    field.path.length ≤ part.display.length := by
  cases part with
  | all | any | not => cases about
  | compare | within =>
    cases about
    rw [display]
    simp only [String.length_append, toString]
    omega
  | flag =>
    cases about
    rw [display]

/-- **Nothing is refused under the text of what it is inside of.** -/
theorem Shows.ne_display (shown : part.Shows expression) (member : part ∈ whole.inside) :
    expression ≠ whole.display := by
  rintro rfl
  have shorter := length_display_lt whole member
  rcases shown with ⟨field, about, _, same⟩ | ⟨_, same⟩
  · have path := length_path_le about
    rw [← same] at path
    omega
  · rw [same] at shorter
    omega

/-! ### Decisions -/

/-- **What compiles, and what is refused how.** A predicate compiles exactly if each of its parts is
supported by itself. Otherwise it is refused for the first that is not, under the path of that part,
if that is none, or else under its text, and never under the text of a predicate around it. -/
theorem ofPredicate_decided (predicate : Predicate) :
    ((∃ clause, Clause.ofPredicate predicate = .ok clause) ↔
      ∀ part ∈ predicate.parts, part.Supported) ∧
    ∀ failure, Clause.ofPredicate predicate = .error failure ↔
      ∃ before part after expression reason, predicate.parts = before ++ part :: after ∧
        (∀ other ∈ before, other.Supported) ∧ ¬ part.Supported ∧ part.Refused expression reason ∧
        failure = .unsupported expression reason ∧ part.Shows expression ∧
        ∀ whole : Predicate, part ∈ whole.inside → expression ≠ whole.display := by
  constructor
  · rw [← failure?_eq_none, failure?_ofPredicate, firstRefusal?, List.findSome?_eq_none_iff]
    exact forall₂_congr fun _ _ => refusal?_eq_none
  · intro failure
    rw [← failure?_eq_some, failure?_ofPredicate, firstRefusal?, List.findSome?_eq_some_iff]
    constructor
    · rintro ⟨before, part, after, split, found, first⟩
      obtain ⟨expression, reason, refused, rfl⟩ := refusal?_eq_some.mp found
      refine ⟨before, part, after, expression, reason, split, ?_,
        refused.not_supported, refused, rfl, refused.shows, fun _ => refused.shows.ne_display⟩
      exact fun other member => refusal?_eq_none.mp (first other member)
    · rintro ⟨before, part, after, expression, reason, split, first, _, refused, rfl, _⟩
      refine ⟨before, part, after, split,
        refusal?_eq_some.mpr ⟨expression, reason, refused, rfl⟩, ?_⟩
      exact fun other member => refusal?_eq_none.mpr (first other member)

/-- A price that is compared with nothing is refused behind a flag, before a path that is none, and
under the text of the comparison alone. -/
theorem ofPredicate_decided_nullPrice :
    Clause.ofPredicate
      (.not (.all [.flag ⟨"sold", .bool, true⟩, .compare ⟨"price", .float, true⟩ .lt .null,
      .flag ⟨"a..b", .bool, true⟩])) = .error (.unsupported "price < null" .nullOperand) := by
  have sold : Path.IsPath "sold" := Path.check_eq_ok.mp (by decide +kernel)
  have price : Path.IsPath "price" := Path.check_eq_ok.mp (by decide +kernel)
  have text : (compare ⟨"price", .float, true⟩ .lt .null).display = "price < null" := by
    decide +kernel
  have refused :
      (compare ⟨"price", .float, true⟩ .lt .null).Refused "price < null" .nullOperand := by
    rw [← text]
    exact .itself (fun field about => Option.some.inj about ▸ price) (.operand nofun)
  refine ((ofPredicate_decided _).2 _).mpr ⟨[_, _, _], _, [_], _, _, rfl, ?_,
    refused.not_supported, refused, rfl, refused.shows, fun _ => refused.shows.ne_display⟩
  rw [List.forall_mem_cons, List.forall_mem_cons, List.forall_mem_singleton]
  exact ⟨trivial, List.cons_ne_nil _ _, sold, rfl⟩

end Predicate

end FacetQuery
