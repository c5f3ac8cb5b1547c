/-
**Names that say what they name.**

A derived name is a tag, an underscore and a path. No tag has an underscore, so the first one ends
the tag, however many follow in the path. The name of a filter is itself a derived name, of the kind
that stands for filters, and ends in sixteen digits, so what it is around can be cut out of it.

* `FacetName.split?_derive` — **a derived name splits into its kind and its path.**
* `FacetName.scope_eq_iff` — **the name of a filter** says what it is around and which digits it
  has.
* `Reading.lookupName_eq_iff` — **two reads share a name** only if they ask for the same.
-/

import FacetQuery.Proofs.Resolution

namespace FacetQuery

/-! ### Tags -/

theorem FacetKind.underscore_notMem_tag (kind : FacetKind) : '_' ∉ kind.tag.toList := by
  cases kind <;> decide

/-! ### Digits -/

theorem Fingerprint.length_hexBytes (bytes : List UInt8) :
    (hexBytes bytes).toList.length = 2 * bytes.length := by
  rw [hexBytes, String.toList_ofList]
  induction bytes with
  | nil => rfl
  | cons byte rest later =>
    rw [List.flatMap_cons, List.length_append, later, List.length_cons, Nat.mul_succ, Nat.add_comm]
    rfl

/-- The digits of a clause that go into names are sixteen. -/
theorem Clause.length_short (clause : Clause) : clause.fingerprint.short.toList.length = 16 := by
  rw [Fingerprint.short, Fingerprint.length_hexBytes, List.length_take]
  show 2 * min 8 (Sha256.digest _).length = 16
  rw [Sha256.digest_length]
  rfl

namespace FacetName

/-! ### Derived names -/

theorem toList_derive (kind : FacetKind) (path : String) :
    (derive kind path).toList = kind.tag.toList ++ '_' :: path.toList := by
  show (kind.tag ++ "_" ++ path).toList = _
  rw [String.toList_append, String.toList_append, List.append_assoc]
  rfl

/-- **A derived name splits back**, whatever its path is. -/
theorem split?_derive (kind : FacetKind) (path : String) :
    split? (derive kind path) = some (kind, path) := by
  have clear : ∀ c ∈ kind.tag.toList, (c != '_') = true := by
    intro c member
    refine bne_iff_ne.mpr fun underscore => kind.underscore_notMem_tag ?_
    rwa [underscore] at member
  have front : (derive kind path).toList.takeWhile (· != '_') = kind.tag.toList := by
    rw [toList_derive, List.takeWhile_append_of_pos clear]
    simp
  have rest : (derive kind path).toList.dropWhile (· != '_') = '_' :: path.toList := by
    rw [toList_derive, List.dropWhile_append_of_pos clear]
    simp
  simp only [split?, front, rest, String.ofList_toList, FacetKind.ofTag?_tag, Option.map_some]

theorem derive_eq_iff {a b : FacetKind} {path other : String} :
    derive a path = derive b other ↔ path = other ∧ a = b := by
  constructor
  · intro same
    have splits := congrArg split? same
    rw [split?_derive, split?_derive] at splits
    exact (Prod.mk.inj (Option.some.inj splits)).symm
  · rintro ⟨rfl, rfl⟩
    rfl

/-! ### Names of filters -/

/-- The name of a filter is derived like the others, from what it is around and its digits. -/
theorem scope_eq_derive (inner : String) (fingerprint : Fingerprint) :
    scope inner fingerprint = derive .filter (inner ++ "_" ++ fingerprint.short) := by
  show FacetKind.filter.tag ++ "_" ++ inner ++ "_" ++ fingerprint.short
    = FacetKind.filter.tag ++ "_" ++ (inner ++ "_" ++ fingerprint.short)
  rw [String.append_assoc, String.append_assoc, String.append_assoc, String.append_assoc,
    String.append_assoc]

theorem scope_eq_iff {inner other : String} {a b : Clause} :
    scope inner a.fingerprint = scope other b.fingerprint ↔
      inner = other ∧ a.fingerprint.short = b.fingerprint.short := by
  constructor
  · intro same
    rw [scope_eq_derive, scope_eq_derive] at same
    have paths := congrArg String.toList (derive_eq_iff.mp same).1
    simp only [String.toList_append] at paths
    -- What is inside may hold underscores and digits too, so the digits are cut off by their
    -- number.
    obtain ⟨fronts, digits⟩ := List.append_inj' paths (by rw [a.length_short, b.length_short])
    exact ⟨String.toList_inj.mp (List.append_cancel_right fronts), String.toList_inj.mp digits⟩
  · rintro ⟨rfl, digits⟩
    rw [scope_eq_derive, scope_eq_derive, digits]

theorem scope_ne_derive {inner path : String} {fingerprint : Fingerprint} {kind : FacetKind}
    (plain : kind ≠ .filter) : scope inner fingerprint ≠ derive kind path := by
  rw [scope_eq_derive]
  exact fun same => plain (derive_eq_iff.mp same).2.symm

/-- **The name of an aggregation at its own level** says its kind, its path and the digits of its
filter. -/
theorem outer_derive_eq_iff {k l : FacetKind} {path other : String} {a b : Option Clause}
    (plain : k ≠ .filter) (plainOther : l ≠ .filter) :
    outer (derive k path) a = outer (derive l other) b ↔
      path = other ∧ k = l ∧
        a.map (fun clause => clause.fingerprint.short) =
          b.map fun clause => clause.fingerprint.short := by
  cases a with
  | none =>
    cases b with
    | none => simp [outer, derive_eq_iff]
    | some d => simp [outer, (scope_ne_derive plain).symm]
  | some c =>
    cases b with
    | none => simp [outer, scope_ne_derive plainOther]
    | some d => simp [outer, scope_eq_iff, derive_eq_iff, and_assoc]

end FacetName

/-! ### Names of reads -/

namespace Reading

/-- **Two reads share a name** exactly if they ask for one kind over one path and either both
without a filter or both with filters of the same digits; and the name of a read without a filter
splits back. -/
theorem lookupName_eq_iff {s t : ValueType} {f : Field s} {g : Field t} {k l : FacetKind}
    {p q : Option Predicate} {c d : Option Clause} (valid : Path.check f.path = .ok ())
    (validOther : Path.check g.path = .ok ()) (plain : k ≠ .filter) (plainOther : l ≠ .filter)
    (compiled : p.mapM Clause.ofPredicate = .ok c)
    (compiledOther : q.mapM Clause.ofPredicate = .ok d) :
    (∃ a b, lookupName f k p = .ok a ∧ lookupName g l q = .ok b ∧
      (a = b ↔ f.path = g.path ∧ k = l ∧
        c.map (fun clause => clause.fingerprint.short) =
          d.map fun clause => clause.fingerprint.short)) ∧
      ∀ kind, (FacetName.ofField f.ref kind).map FacetName.split? = .ok (some (kind, f.path)) := by
  refine ⟨⟨_, _, lookupName_eq_ok.mpr ⟨valid, c, compiled, rfl⟩,
    lookupName_eq_ok.mpr ⟨validOther, d, compiledOther, rfl⟩,
    FacetName.outer_derive_eq_iff plain plainOther⟩, fun kind => ?_⟩
  exact map_eq_ok.mpr ⟨_, FacetName.ofField_eq_ok.mpr ⟨valid, rfl⟩,
    FacetName.split?_derive kind f.path⟩

/-- A path that looks like the name of a filter around a sum. -/
def filterSum : Field .text := ⟨"filter_sum_price", true⟩

/-- What a read of that path asks for is not what a filtered sum asks for, and its tag is found. -/
theorem lookupName_eq_iff_filterSum :
    (∃ a b, lookupName filterSum .count none = .ok a ∧
      lookupName (t := .text) ⟨"price", true⟩ .sum (some (.flag ⟨"sold", .bool, true⟩)) =
        .ok b ∧ a ≠ b) ∧
      (FacetName.ofField filterSum.ref .groupBy).map FacetName.split?
        = .ok (some (.groupBy, "filter_sum_price")) := by
  obtain ⟨⟨a, b, name, other, same⟩, splits⟩ :=
    lookupName_eq_iff (f := filterSum) (g := ⟨"price", true⟩) (k := .count) (l := .sum)
      (t := .text) (p := none) (q := some (.flag ⟨"sold", .bool, true⟩)) (c := none)
      rfl rfl (by decide) (by decide) rfl rfl
  refine ⟨⟨a, b, name, other, fun equal => ?_⟩, splits .groupBy⟩
  exact absurd (same.mp equal).2.1 (by decide)

end Reading

end FacetQuery
