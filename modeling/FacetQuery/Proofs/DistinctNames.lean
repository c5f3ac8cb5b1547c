/-
**Names that can be told apart.**

`Request.checkNames` goes through a level with the names that it has seen there and through a
grouping with the names of the groupings around it. What it accepts is read back here as a property
of levels.

* `clashOfAll?_eq_none` — **one level**: no name of it occurs twice or was seen before, and each
  request passes by itself.
* `ofFacets_eq_ok` — **success of a whole request**: every facet resolves, and no name clashes.
-/

import FacetQuery.Proofs.Resolution
import Mathlib.Data.List.Nodup

namespace FacetQuery.Request

variable {around seen : List String} {requests : List Request}

theorem clash?_group_eq_none {name field : String} {size : UInt32} :
    clash? around (.group name field size requests) = none ↔
      name ∉ around ∧ clashOfAll? (name :: around) [] requests = none := by
  rw [clash?]
  by_cases repeated : name ∈ around
  · simp [repeated]
  · simp [repeated]

/-- **A level without a clash has distinct names**, none of them seen before. -/
theorem clashOfAll?_eq_none :
    clashOfAll? around seen requests = none ↔
      (requests.map outerName).Nodup ∧
        ∀ request ∈ requests, request.outerName ∉ seen ∧ clash? around request = none := by
  induction requests generalizing seen with
  | nil => simp [clashOfAll?]
  | cons request rest later =>
    rw [clashOfAll?]
    by_cases repeated : request.outerName ∈ seen
    · simp [repeated]
    · rw [if_neg repeated, Option.or_eq_none_iff, later, List.map_cons, List.nodup_cons,
        List.forall_mem_cons]
      constructor
      · rintro ⟨here, distinct, each⟩
        refine ⟨⟨fun again => ?_, distinct⟩, ⟨repeated, here⟩, fun other member => ?_⟩
        · obtain ⟨other, member, same⟩ := List.mem_map.mp again
          exact (each other member).1 (same ▸ List.mem_cons_self)
        · exact ⟨fun before => (each other member).1 (List.mem_cons_of_mem _ before),
            (each other member).2⟩
      · rintro ⟨⟨once, distinct⟩, ⟨_, here⟩, each⟩
        refine ⟨here, distinct, fun other member => ⟨fun before => ?_, (each other member).2⟩⟩
        rcases List.mem_cons.mp before with same | earlier
        · exact once (List.mem_map.mpr ⟨other, member, same⟩)
        · exact (each other member).1 earlier

theorem checkNames_eq_ok : checkNames requests = .ok () ↔ clashOfAll? [] [] requests = none := by
  rw [checkNames]
  cases clashOfAll? [] [] requests with
  | none => simp
  | some name => simp

/-- **Facets become requests** exactly if each resolves and no names clash. -/
theorem ofFacets_eq_ok {settings : Settings} {facets : List Facet} :
    ofFacets settings facets = .ok requests ↔
      ofEach settings facets = .ok requests ∧ clashOfAll? [] [] requests = none := by
  simp only [ofFacets, bind_eq_ok, ← checkNames_eq_ok, pure_eq_ok, Except.ok.injEq]
  constructor
  · rintro ⟨found, each, _, distinct, rfl⟩
    exact ⟨each, distinct⟩
  · rintro ⟨each, distinct⟩
    exact ⟨requests, each, (), distinct, rfl⟩

end FacetQuery.Request
