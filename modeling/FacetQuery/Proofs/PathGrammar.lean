/-
**The grammar of paths.**

A path is checked segment by segment, and the segments are what stands between its points. So the
check accepts identifiers joined by single points and nothing else, a text made of two with a point
between is a path exactly if both are, and a text that is no path is refused for the first of its
segments that is no identifier.

* `Path.Identifier` — **an identifier** by the ranges of its characters.
* `Path.check_eq_ok` — **a path** is identifiers joined by points.
* `Path.check_joined` — **two texts with a point between** are a path if both are.
* `Path.Lacks`, `Path.check_eq_error` — **what a text lacks** that is refused.
* `Field.Chain` — fields inside fields, however they were put together; such a field resolves if
  each link does.
* `Path.check_decided` — **what the check accepts, how paths compose, and what it refuses.**
-/

import FacetQuery.Proofs.Compilation

namespace FacetQuery

namespace Path

/-! ### Identifiers -/

/-- A letter or an underscore. -/
def IsLetter (c : Char) : Prop := ('A' ≤ c ∧ c ≤ 'Z') ∨ ('a' ≤ c ∧ c ≤ 'z') ∨ c = '_'

/-- A decimal digit. -/
def IsNumeral (c : Char) : Prop := '0' ≤ c ∧ c ≤ '9'

/-- **An identifier**: a letter or an underscore, and then letters, underscores and digits. -/
inductive Identifier : List Char → Prop
  | intro {first : Char} {rest : List Char} (start : IsLetter first)
      (later : ∀ c ∈ rest, IsLetter c ∨ IsNumeral c) : Identifier (first :: rest)

theorem isStart_iff {c : Char} : isStart c = true ↔ IsLetter c := by
  show ((decide ('A' ≤ c ∧ c ≤ 'Z') || (decide ('a' ≤ c) && decide (c ≤ 'z'))) ||
    c == '_') = true ↔ _
  simp only [IsLetter, Bool.or_eq_true, Bool.and_eq_true, decide_eq_true_eq, beq_iff_eq, or_assoc]

theorem isDigit_iff {c : Char} : c.isDigit = true ↔ IsNumeral c := by
  simp only [Char.isDigit, IsNumeral, Bool.and_eq_true, decide_eq_true_eq, ge_iff_le, Char.le_def]

theorem isPart_iff {c : Char} : isPart c = true ↔ IsLetter c ∨ IsNumeral c := by
  rw [← isStart_iff, ← isDigit_iff]
  simp only [isPart, isStart, Char.isAlphanum, Bool.or_eq_true]
  exact or_right_comm

theorem isIdentifier_iff {name : List Char} : isIdentifier name = true ↔ Identifier name := by
  cases name with
  | nil => exact ⟨nofun, nofun⟩
  | cons first rest =>
    simp only [isIdentifier, Bool.and_eq_true, List.all_eq_true, isStart_iff, isPart_iff]
    exact ⟨fun ⟨start, later⟩ => ⟨start, later⟩, fun ⟨start, later⟩ => ⟨start, later⟩⟩

/-- An identifier has no character in it that no identifier goes on with, such as a point. -/
theorem notMem_identifier {c : Char} {name : List Char} (special : isPart c = false)
    (identifier : isIdentifier name = true) : c ∉ name := by
  intro inside
  cases name with
  | nil => cases inside
  | cons first rest =>
    obtain ⟨start, later⟩ := Bool.and_eq_true_iff.mp identifier
    have part : isPart c = true := by
      rcases List.mem_cons.mp inside with rfl | behind
      · exact isPart_iff.mpr (.inl (isStart_iff.mp start))
      · exact List.all_eq_true.mp later c behind
    exact Bool.false_ne_true (special.symm.trans part)

/-! ### Paths -/

/-- A text is a path: one or more identifiers, joined by points. -/
def IsPath (path : String) : Prop :=
  ∃ names : List (List Char), names ≠ [] ∧ (∀ name ∈ names, isIdentifier name = true) ∧
    path.toList = ['.'].intercalate names

/-- A text passes the check of paths if all its segments are identifiers. -/
theorem check_eq_ok_iff_splitOn {path : String} :
    check path = .ok () ↔ ∀ name ∈ path.toList.splitOn '.', isIdentifier name = true := by
  unfold check
  by_cases empty : path = ""
  · subst empty
    simp [isIdentifier]
  · rw [if_neg (by simpa using empty)]
    cases found : (path.toList.splitOn '.').find? fun name => !isIdentifier name with
    | none => simpa using found
    | some name =>
      obtain ⟨unfit, there⟩ := And.intro (List.find?_some found) (List.mem_of_find?_eq_some found)
      simp only [reduceCtorEq, false_iff]
      intro all
      simp [all name there] at unfit

/-- The segments of identifiers joined by points are these. -/
theorem splitOn_joined {names : List (List Char)} (nonempty : names ≠ [])
    (all : ∀ name ∈ names, isIdentifier name = true) :
    (['.'].intercalate names).splitOn '.' = names :=
  List.splitOn_intercalate '.'
    (fun name member => notMem_identifier (by decide) (all name member)) nonempty

/-- **A text passes the check of paths exactly if it is a path.** -/
theorem check_eq_ok {path : String} : check path = .ok () ↔ IsPath path := by
  rw [check_eq_ok_iff_splitOn]
  constructor
  · intro all
    exact ⟨_, List.splitOn_ne_nil '.' path.toList, all, (List.intercalate_splitOn '.').symm⟩
  · rintro ⟨names, nonempty, all, joined⟩
    rw [joined, splitOn_joined nonempty all]
    exact all

/-- **Two texts with a point between are a path exactly if both are.** -/
theorem check_joined (path other : String) :
    check (path ++ "." ++ other) = .ok () ↔ check path = .ok () ∧ check other = .ok () := by
  have cut : (path ++ "." ++ other).toList.splitOn '.' =
      path.toList.splitOn '.' ++ other.toList.splitOn '.' := by
    rw [String.toList_append, String.toList_append, List.append_assoc]
    exact List.splitOn_append_cons_self ..
  simp only [check_eq_ok_iff_splitOn, cut, List.forall_mem_append]

/-! ### What a text lacks -/

/-- **Why a text is no path**: it is empty, or there is a first segment that is no identifier. -/
inductive Lacks : String → Refusal → Prop
  | empty : Lacks "" .emptyPath
  | segment {path : String} {before after : List (List Char)} {name : List Char}
      (nonempty : path ≠ "")
      (split : path.toList.splitOn '.' = before ++ name :: after)
      (first : ∀ other ∈ before, isIdentifier other = true) (unfit : isIdentifier name = false) :
      Lacks path (.segment (String.ofList name))

/-- **A text is refused as a path for what it lacks.** -/
theorem check_eq_error {path : String} {failure : Failure} :
    check path = .error failure ↔
      ∃ reason, Lacks path reason ∧ failure = .unsupported path reason := by
  unfold check
  constructor
  · intro refused
    by_cases empty : path = ""
    · subst empty
      cases refused
      exact ⟨.emptyPath, .empty, rfl⟩
    · rw [if_neg (by simpa using empty)] at refused
      cases found : (path.toList.splitOn '.').find? fun name => !isIdentifier name with
      | none => simp [found] at refused
      | some name =>
        simp only [found] at refused
        cases refused
        obtain ⟨unfit, before, after, split, first⟩ := List.find?_eq_some_iff_append.mp found
        simp only [Bool.not_not] at first
        exact ⟨_, .segment empty split first ((Bool.not_eq_true' _).mp unfit), rfl⟩
  · rintro ⟨reason, lacks, rfl⟩
    cases lacks with
    | empty => rfl
    | @segment _ before after name nonempty split first unfit =>
      have found :
          (path.toList.splitOn '.').find? (fun name => !isIdentifier name) = some name := by
        refine List.find?_eq_some_iff_append.mpr ⟨(Bool.not_eq_true' _).mpr unfit, before,
          after, split, ?_⟩
        simpa only [Bool.not_not] using first
      rw [if_neg (by simpa using nonempty), found]

theorem Lacks.not_isPath {path : String} {reason : Refusal} (lacks : Lacks path reason) :
    ¬ IsPath path := by
  intro valid
  have refused := check_eq_error.mpr ⟨reason, lacks, rfl⟩
  exact nomatch refused.symm.trans (check_eq_ok.mpr valid)

end Path

/-! ### Fields inside fields -/

/-- **Fields inside fields**, the inner ones behind the outer ones and put together in any order. -/
inductive Field.Chain : ValueType → Type
  | link {t : ValueType} (field : Field t) : Chain t
  | nested {s t : ValueType} (outer : Chain s) (inner : Chain t) : Chain t

namespace Field.Chain

variable {t : ValueType}

/-- The field that a chain makes. -/
def field {t : ValueType} : Chain t → Field t
  | link own => own
  | nested outer inner => outer.field.nested inner.field

/-- The fields of a chain, the outermost first. -/
def links {t : ValueType} : Chain t → List FieldRef
  | link own => [own.ref]
  | nested outer inner => outer.links ++ inner.links

theorem links_ne_nil (chain : Chain t) : chain.links ≠ [] := by
  induction chain with
  | link own => exact List.cons_ne_nil own.ref []
  | nested outer inner nonempty _ => exact List.append_ne_nil_of_left_ne_nil nonempty _

/-- The path of a chain is the paths of its links, joined by points. -/
theorem path_field (chain : Chain t) :
    chain.field.path = ".".intercalate (chain.links.map FieldRef.path) := by
  induction chain with
  | link own => exact String.intercalate_singleton.symm
  | nested outer inner outerPath innerPath =>
    have someOuter : outer.links.map FieldRef.path ≠ [] :=
      mt List.map_eq_nil_iff.mp outer.links_ne_nil
    have someInner : inner.links.map FieldRef.path ≠ [] :=
      mt List.map_eq_nil_iff.mp inner.links_ne_nil
    rw [links, List.map_append, String.intercalate_append_of_ne_nil someOuter someInner,
      ← outerPath, ← innerPath]
    rfl

/-- **The path of a chain passes the check exactly if that of each link does.** -/
theorem check_path_field (chain : Chain t) :
    Path.check chain.field.path = .ok () ↔ ∀ link ∈ chain.links, Path.check link.path = .ok () := by
  induction chain with
  | link own =>
    rw [links, List.forall_mem_singleton]
    rfl
  | nested outer inner outerChecked innerChecked =>
    rw [links, List.forall_mem_append, ← outerChecked, ← innerChecked]
    exact Path.check_joined outer.field.path inner.field.path

end Field.Chain

/-! ### The check as a whole -/

namespace Path

/-- **What the check accepts, how paths compose, and what it refuses.** A text passes exactly if it
is one or more identifiers, joined by single points. Two texts with a point between pass exactly if
both do, so a field made of fields inside fields resolves exactly if each of them does, to their
paths joined by points. A text that is not empty and does not pass is refused under the whole of it,
for the first of its segments that is no identifier. -/
theorem check_decided (path other : String) {t : ValueType} (chain : Field.Chain t) :
    (check path = .ok () ↔
      ∃ names : List (List Char), names ≠ [] ∧ (∀ name ∈ names, Identifier name) ∧
        path.toList = ['.'].intercalate names) ∧
      (check (path ++ "." ++ other) = .ok () ↔ check path = .ok () ∧ check other = .ok ()) ∧
      (∀ whole, chain.field.ref.resolve = .ok whole ↔
        (∀ link ∈ chain.links, ∃ own, link.resolve = .ok own) ∧
          whole = ".".intercalate (chain.links.map FieldRef.path)) ∧
      (path ≠ "" → check path ≠ .ok () → ∃ before name after,
        path.toList.splitOn '.' = before ++ name :: after ∧
          (∀ earlier ∈ before, Identifier earlier) ∧ ¬ Identifier name ∧
          check path = .error (.unsupported path (.segment (String.ofList name)))) := by
  refine ⟨?_, check_joined path other, fun whole => ?_, fun nonempty refused => ?_⟩
  · simp only [check_eq_ok, IsPath, isIdentifier_iff]
  · have each : (∀ link ∈ chain.links, ∃ own, link.resolve = .ok own) ↔
        ∀ link ∈ chain.links, check link.path = .ok () := by
      simp only [FieldRef.resolve_eq_ok, exists_and_left, exists_eq, and_true]
    rw [FieldRef.resolve_eq_ok, each, ← chain.check_path_field, ← chain.path_field]
    rfl
  · cases checked : check path with
    | ok passed => exact absurd checked refused
    | error failure =>
      obtain ⟨reason, lacks, rfl⟩ := check_eq_error.mp checked
      cases lacks with
      | empty => exact absurd rfl nonempty
      | segment _ split first unfit =>
        refine ⟨_, _, _, split,
          fun earlier member => isIdentifier_iff.mp (first earlier member), ?_, rfl⟩
        rw [← isIdentifier_iff, unfit]
        exact Bool.false_ne_true

/-- A field inside two others, of which the second and itself have no path. -/
def crookedStreet : Field.Chain .text :=
  .nested (.nested (.link (⟨"street", true⟩ : Field .text)) (.link (⟨"1st", true⟩ : Field .text)))
    (.link ⟨"", true⟩)

/-- Of two segments that are no identifiers the first is named. -/
theorem check_decided_street :
    crookedStreet.field.path = "street.1st." ∧ check "street.1st." ≠ .ok () ∧ ∃ before name after,
      "street.1st.".toList.splitOn '.' = before ++ name :: after ∧
        (∀ earlier ∈ before, Identifier earlier) ∧ ¬ Identifier name ∧
        check "street.1st." =
          .error (.unsupported "street.1st." (.segment (String.ofList name))) := by
  have refused : check "street.1st." ≠ .ok () := by
    rw [ne_eq, check_eq_ok_iff_splitOn]
    decide
  exact ⟨rfl, refused, (check_decided "street.1st." "" crookedStreet).2.2.2 (by decide) refused⟩

end Path

end FacetQuery
