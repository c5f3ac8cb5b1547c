/-
**Steps that can fail.**

Making a request and reading a response are sequences of steps, of which the first that fails
decides the failure. The lemmas here open such a sequence from its success.

* `bind_eq_ok` — **a sequence succeeds exactly if each of its two halves does.**
* `mapM_eq_ok` — **a traversal succeeds exactly if each item does**, and then item by item.
* `mapM_eq_error` — **a traversal fails as the first item that does.**
* `exists_of_mem_left`, `exists_of_mem_right` — what an item of one side is paired with.
* `failure?` — **how a step fails**, and `failure?_bind`, the first of two failures.
* `OnlyFails` — **a step that fails in one way only**, and what is made of such steps.
* `EndAlike` — **two steps that fail in the same way or succeed with related values**, and
  `EndAlike.bind`, what is made of such steps.
-/

import Mathlib.Data.List.Forall2

namespace FacetQuery

variable {ε α β : Type}

/-! ### One step after another -/

@[simp] theorem pure_eq_ok (value : α) : (pure value : Except ε α) = .ok value := rfl

@[simp] theorem ok_bind (value : α) (next : α → Except ε β) :
    (Except.ok value >>= next) = next value :=
  rfl

@[simp] theorem error_bind (failure : ε) (next : α → Except ε β) :
    ((Except.error failure : Except ε α) >>= next) = .error failure := rfl

theorem bind_eq_ok {step : Except ε α} {next : α → Except ε β} {result : β} :
    (step >>= next) = .ok result ↔ ∃ value, step = .ok value ∧ next value = .ok result := by
  cases step with
  | error failure => simp
  | ok value => simp

theorem map_eq_ok {step : Except ε α} {f : α → β} {result : β} :
    step.map f = .ok result ↔ ∃ value, step = .ok value ∧ f value = result := by
  cases step with
  | error failure => simp [Except.map]
  | ok value => simp [Except.map]

/-! ### Traversals -/

theorem mapM_eq_ok {f : α → Except ε β} {items : List α} {results : List β} :
    items.mapM f = .ok results ↔
      List.Forall₂ (fun item result => f item = .ok result) items results := by
  induction items generalizing results with
  | nil => cases results <;> simp
  | cons item rest later =>
    simp only [List.mapM_cons, bind_eq_ok, pure_eq_ok, Except.ok.injEq, later]
    constructor
    · rintro ⟨first, head, others, tail, rfl⟩
      exact .cons head tail
    · rintro (_ | ⟨head, tail⟩)
      exact ⟨_, head, _, tail, rfl⟩

/-- Traversals of related items are the same if the items are treated alike. -/
theorem mapM_eq_of_forall₂ {γ : Type} {R : α → γ → Prop} {f : α → Except ε β} {g : γ → Except ε β}
    {items : List α} {others : List γ} (each : List.Forall₂ R items others)
    (same : ∀ item other, R item other → f item = g other) : items.mapM f = others.mapM g := by
  induction each with
  | nil => rfl
  | cons here _ later => rw [List.mapM_cons, List.mapM_cons, same _ _ here, later]

/-- The values of a traversal, beside what the items give. -/
theorem mapM_eq_ok_iff_map {f : α → Except ε β} {items : List α} {results : List β} :
    items.mapM f = .ok results ↔ items.map f = results.map .ok := by
  rw [mapM_eq_ok, ← List.forall₂_eq_eq_eq, List.forall₂_map_left_iff, List.forall₂_map_right_iff]

@[simp] theorem mapM_none (f : α → Except ε β) : (none : Option α).mapM f = .ok none := rfl

theorem mapM_some_eq_ok {f : α → Except ε β} {item : α} {result : Option β} :
    (some item).mapM f = .ok result ↔ ∃ value, f item = .ok value ∧ result = some value := by
  rw [Option.mapM_some]
  refine map_eq_ok.trans ?_
  simp only [eq_comm]

theorem mapM_eq_ok_some {f : α → Except ε β} {item? : Option α} {value : β} :
    item?.mapM f = .ok (some value) ↔ ∃ item, item? = some item ∧ f item = .ok value := by
  cases item? with
  | none => simp
  | some item =>
    rw [mapM_some_eq_ok]
    simp

/-! ### Items side by side -/

theorem exists_of_mem_left {R : α → β → Prop} {items : List α} {results : List β}
    (paired : List.Forall₂ R items results) {item : α} (member : item ∈ items) :
    ∃ result ∈ results, R item result := by
  induction paired with
  | nil => cases member
  | cons head _ later =>
    rcases List.mem_cons.mp member with rfl | member
    · exact ⟨_, List.mem_cons_self, head⟩
    · obtain ⟨result, there, related⟩ := later member
      exact ⟨result, List.mem_cons_of_mem _ there, related⟩

theorem exists_of_mem_right {R : α → β → Prop} {items : List α} {results : List β}
    (paired : List.Forall₂ R items results) {result : β} (member : result ∈ results) :
    ∃ item ∈ items, R item result := by
  have turned : List.Forall₂ (flip R) results items := List.Forall₂.flip paired
  exact exists_of_mem_left turned member

/-! ### Failures of steps -/

/-- How a step fails, if it does. -/
def failure? : Except ε α → Option ε
  | .error failure => some failure
  | .ok _ => none

theorem failure?_eq_none {step : Except ε α} :
    failure? step = none ↔ ∃ value, step = .ok value := by
  cases step with
  | error failure => simp [failure?]
  | ok value => simp [failure?]

theorem failure?_eq_some {step : Except ε α} {failure : ε} :
    failure? step = some failure ↔ step = .error failure := by
  cases step with
  | error other => simp [failure?]
  | ok value => simp [failure?]

/-- Of two steps the first that fails decides the failure, if that of the second does not depend on
the value of the first. -/
theorem failure?_bind {step : Except ε α} {next : α → Except ε β} {last : Option ε}
    (after : ∀ value, step = .ok value → failure? (next value) = last) :
    failure? (step >>= next) = (failure? step).or last := by
  cases step with
  | error failure => rfl
  | ok value => exact after value rfl

/-- A step fails as before if what comes behind it cannot fail. -/
theorem failure?_bind_ok {step : Except ε α} {next : α → Except ε β}
    (after : ∀ value, failure? (next value) = none) : failure? (step >>= next) = failure? step :=
  (failure?_bind fun value _ => after value).trans Option.or_none

theorem bind_eq_error {step : Except ε α} {next : α → Except ε β} {failure : ε} :
    (step >>= next) = .error failure ↔
      step = .error failure ∨ ∃ value, step = .ok value ∧ next value = .error failure := by
  cases step with
  | error other => simp
  | ok value => simp

theorem map_eq_error {step : Except ε α} {f : α → β} {failure : ε} :
    step.map f = .error failure ↔ step = .error failure := by
  cases step with
  | error other => simp [Except.map]
  | ok value => simp [Except.map]

/-- A traversal succeeds exactly if each item does. -/
theorem exists_mapM_eq_ok {f : α → Except ε β} {items : List α} :
    (∃ values, items.mapM f = .ok values) ↔ ∀ item ∈ items, ∃ value, f item = .ok value := by
  induction items with
  | nil => simp
  | cons first rest later =>
    rw [List.forall_mem_cons, ← later]
    simp only [List.mapM_cons, bind_eq_ok, pure_eq_ok, Except.ok.injEq]
    constructor
    · rintro ⟨_, value, here, values, behind, rfl⟩
      exact ⟨⟨value, here⟩, values, behind⟩
    · rintro ⟨⟨value, here⟩, values, behind⟩
      exact ⟨_, value, here, values, behind, rfl⟩

/-- **A traversal fails as the first item that does.** -/
theorem mapM_eq_error {f : α → Except ε β} {items : List α} {failure : ε} :
    items.mapM f = .error failure ↔ ∃ before item after, items = before ++ item :: after ∧
      (∀ other ∈ before, ∃ value, f other = .ok value) ∧ f item = .error failure := by
  induction items with
  | nil => simp
  | cons first rest later =>
    rw [List.mapM_cons, bind_eq_error]
    have behind : (∃ value, f first = .ok value ∧
        (rest.mapM f >>= fun values => pure (value :: values)) = .error failure) ↔
          (∃ value, f first = .ok value) ∧ rest.mapM f = .error failure := by
      simp only [bind_eq_error, pure_eq_ok, reduceCtorEq, and_false, exists_false, or_false,
        exists_and_right]
    rw [behind, later]
    constructor
    · rintro (failed | ⟨read, before, item, after, rfl, each, failed⟩)
      · exact ⟨[], first, rest, rfl, List.forall_mem_nil _, failed⟩
      · exact ⟨first :: before, item, after, rfl, List.forall_mem_cons.mpr ⟨read, each⟩, failed⟩
    · rintro ⟨before, item, after, same, each, failed⟩
      cases before with
      | nil =>
        rw [List.nil_append, List.cons.injEq] at same
        exact .inl (same.1 ▸ failed)
      | cons head before =>
        rw [List.cons_append, List.cons.injEq] at same
        obtain ⟨rfl, rfl⟩ := same
        obtain ⟨read, each⟩ := List.forall_mem_cons.mp each
        exact .inr ⟨read, before, item, after, rfl, each, failed⟩

/-- A step fails, if at all, as expected. -/
def OnlyFails (expected : ε → Prop) (step : Except ε α) : Prop :=
  ∀ failure, step = .error failure → expected failure

namespace OnlyFails

variable {expected : ε → Prop} {step : Except ε α}

theorem ok (value : α) : OnlyFails expected (.ok value) := nofun

theorem error {failure : ε} (known : expected failure) :
    OnlyFails expected (.error failure : Except ε α) := by
  intro other failed
  cases failed
  exact known

theorem bind {next : α → Except ε β} (first : OnlyFails expected step)
    (later : ∀ value, OnlyFails expected (next value)) : OnlyFails expected (step >>= next) := by
  intro failure failed
  rcases bind_eq_error.mp failed with here | ⟨value, _, behind⟩
  · exact first failure here
  · exact later value failure behind

theorem map {f : α → β} (first : OnlyFails expected step) : OnlyFails expected (step.map f) := by
  intro failure failed
  cases step with
  | error other =>
    have same : other = failure := Except.error.inj failed
    exact first failure (same ▸ rfl)
  | ok value => cases failed

theorem mapM {f : α → Except ε β} {items : List α}
    (each : ∀ item ∈ items, OnlyFails expected (f item)) : OnlyFails expected (items.mapM f) := by
  induction items with
  | nil => exact .ok []
  | cons item rest later =>
    rw [List.mapM_cons]
    have behind := later fun other member => each other (List.mem_cons_of_mem _ member)
    exact (each item List.mem_cons_self).bind fun _ => behind.bind fun _ => .ok _

end OnlyFails

/-! ### Steps side by side -/

/-- Two steps end alike: both fail in the same way, or both succeed, with related values. -/
inductive EndAlike {γ : Type} (R : α → γ → Prop) : Except ε α → Except ε γ → Prop
  | error (failure : ε) : EndAlike R (.error failure) (.error failure)
  | ok {value : α} {other : γ} (related : R value other) : EndAlike R (.ok value) (.ok other)

namespace EndAlike

variable {γ δ : Type} {R : α → γ → Prop} {S : β → δ → Prop}

theorem refl (step : Except ε α) : EndAlike Eq step step := by
  cases step with
  | error failure => exact .error failure
  | ok value => exact .ok rfl

theorem cases {first : Except ε α} {second : Except ε γ} (alike : EndAlike R first second) :
    (∃ failure, first = .error failure ∧ second = .error failure) ∨
      ∃ value other, first = .ok value ∧ second = .ok other ∧ R value other := by
  cases alike with
  | error failure => exact .inl ⟨failure, rfl, rfl⟩
  | ok related => exact .inr ⟨_, _, rfl, rfl, related⟩

theorem bind {first : Except ε α} {second : Except ε γ} {next : α → Except ε β}
    {other : γ → Except ε δ} (alike : EndAlike R first second)
    (later : ∀ a c, R a c → EndAlike S (next a) (other c)) :
    EndAlike S (first >>= next) (second >>= other) := by
  cases alike with
  | error failure => exact .error failure
  | ok related => exact later _ _ related

end EndAlike

end FacetQuery
