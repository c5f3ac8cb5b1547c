/-
**What is accepted, and what is refused how.**

Facets are first resolved one by one and then compared. Both go through the same places in the same
order, a grouping before the facets inside it, so how some facets are refused is decided at the
first place where something is wrong; that names clash counts only if every facet resolves.

* `Place`, `Facet.places` — **the places of some facets in order**: each facet with the names around
  it and those before it at its level.
* `Facet.failure?_ofEach`, `Facet.clashOfAll?_eq` — the first refusal and the first clash are those
  of places.
* `Facet.sound_levels_iff` — **nothing is wrong at any place exactly if nothing is wrong in any
  level.**
* `Facet.ofFacets_decided` — **success read level by level, and failure at its first place.**
-/

import FacetQuery.Proofs.FacetLevels
import FacetQuery.Proofs.Refusals
import Mathlib.Data.List.Induction

namespace FacetQuery

/-! ### Places -/

/-- A facet in its place: the names of the groupings around it, and those of the facets before it at
its level. -/
structure Place where
  around : List String
  earlier : List String
  facet : Facet

/-- **A name that cannot be told apart**: that of a facet before it at its level, or, for a
grouping, that of a grouping around it. -/
def Place.Repeats (place : Place) : Prop :=
  place.facet.outerName ∈ place.earlier ∨
    place.facet.isGroup = true ∧ place.facet.outerName ∈ place.around

namespace Place

instance (place : Place) : Decidable place.Repeats := by unfold Place.Repeats; infer_instance

/-- The refusal of the first of some places that does not resolve by itself. -/
def firstRefusal? (places : List Place) : Option Failure :=
  places.findSome? fun place => place.facet.refusal?

/-- The name of the first of some places that repeats one. -/
def firstRepeat? (places : List Place) : Option String :=
  (places.find? fun place => place.Repeats).map fun place => place.facet.outerName

variable {place : Place} {places others : List Place}

theorem firstRefusal?_cons :
    firstRefusal? (place :: places) = place.facet.refusal?.or (firstRefusal? places) := by
  unfold firstRefusal?
  rw [List.findSome?_cons]
  cases place.facet.refusal? <;> rfl

theorem firstRefusal?_append :
    firstRefusal? (places ++ others) = (firstRefusal? places).or (firstRefusal? others) :=
  List.findSome?_append

theorem firstRefusal?_eq_none :
    firstRefusal? places = none ↔ ∀ place ∈ places, place.facet.Resolves := by
  unfold firstRefusal?
  rw [List.findSome?_eq_none_iff]
  exact forall₂_congr fun _ _ => Facet.refusal?_eq_none

theorem firstRefusal?_eq_some {failure : Failure} :
    firstRefusal? places = some failure ↔
      ∃ before place after, places = before ++ place :: after ∧
        (∀ other ∈ before, other.facet.Resolves) ∧ place.facet.refusal? = some failure := by
  unfold firstRefusal?
  rw [List.findSome?_eq_some_iff]
  refine exists_congr fun before => exists_congr fun place => exists_congr fun after =>
    and_congr_right fun _ => ?_
  rw [and_comm]
  exact and_congr_left fun _ => forall₂_congr fun _ _ => Facet.refusal?_eq_none

theorem firstRepeat?_cons :
    firstRepeat? (place :: places) =
      if place.Repeats then some place.facet.outerName else firstRepeat? places := by
  unfold firstRepeat?
  by_cases repeats : place.Repeats
  · simp only [List.find?_cons, decide_eq_true repeats, Option.map_some, if_pos repeats]
  · simp only [List.find?_cons, decide_eq_false repeats, if_neg repeats]

theorem firstRepeat?_append :
    firstRepeat? (places ++ others) = (firstRepeat? places).or (firstRepeat? others) := by
  unfold firstRepeat?
  rw [List.find?_append, Option.map_or]

theorem firstRepeat?_eq_none : firstRepeat? places = none ↔ ∀ place ∈ places, ¬ place.Repeats := by
  unfold firstRepeat?
  rw [Option.map_eq_none_iff, List.find?_eq_none]
  simp only [decide_eq_true_eq]

theorem firstRepeat?_eq_some {name : String} :
    firstRepeat? places = some name ↔
      ∃ before place after, places = before ++ place :: after ∧
        (∀ other ∈ before, ¬ other.Repeats) ∧ place.Repeats ∧ name = place.facet.outerName := by
  unfold firstRepeat?
  rw [Option.map_eq_some_iff]
  constructor
  · rintro ⟨place, found, rfl⟩
    obtain ⟨repeats, before, after, split, fresh⟩ := List.find?_eq_some_iff_append.mp found
    refine ⟨before, place, after, split, fun other member again => ?_,
      of_decide_eq_true repeats, rfl⟩
    simpa [again] using fresh other member
  · rintro ⟨before, place, after, split, fresh, repeats, rfl⟩
    refine ⟨place,
      List.find?_eq_some_iff_append.mpr ⟨decide_eq_true repeats, before, after, split, ?_⟩, rfl⟩
    exact fun other member => by simp [fresh other member]

end Place

namespace Facet

mutual

/-- The places inside a facet. -/
def placesIn (around : List String) : Facet → List Place
  | .group target inner => placesOfAll (target.name :: around) [] inner
  | .measure _ => []

/-- The places of some facets, those inside a facet right behind it. -/
def placesOfAll (around earlier : List String) : List Facet → List Place
  | [] => []
  | facet :: rest =>
    ⟨around, earlier, facet⟩ ::
      (placesIn around facet ++ placesOfAll around (facet.outerName :: earlier) rest)

end

/-- **The places of some facets**, a grouping before the facets inside it. -/
def places (facets : List Facet) : List Place := placesOfAll [] [] facets

variable {settings : Settings}

mutual

theorem failure?_ofFacet (around : List String) (facet : Facet) :
    failure? (Request.ofFacet settings facet) =
      facet.refusal?.or (Place.firstRefusal? (placesIn around facet)) := by
  cases facet with
  | group target inner =>
    rw [Request.ofFacet, placesIn, refusal?, ← target.failure?_resolve]
    refine failure?_bind fun _ _ => ?_
    rw [failure?_bind_ok fun _ => rfl, failure?_ofEach (target.name :: around) [] inner]
  | measure spec =>
    rw [Request.ofFacet, ← spec.failure?_resolve settings]
    exact (failure?_bind_ok fun _ => rfl).trans Option.or_none.symm

/-- **Facets fail to resolve as the first of them in order does**, by itself. -/
theorem failure?_ofEach (around earlier : List String) (facets : List Facet) :
    failure? (Request.ofEach settings facets) =
      Place.firstRefusal? (placesOfAll around earlier facets) := by
  cases facets with
  | nil =>
    rw [Request.ofEach, placesOfAll]
    rfl
  | cons facet rest =>
    rw [Request.ofEach, placesOfAll, Place.firstRefusal?_cons, Place.firstRefusal?_append,
      ← Option.or_assoc, ← failure?_ofFacet around facet,
      ← failure?_ofEach around (facet.outerName :: earlier) rest]
    exact failure?_bind fun _ _ => failure?_bind_ok fun _ => rfl

end

/-! ### Clashes -/

mutual

theorem clash?_eq (around : List String) {facet : Facet} {request : Request}
    (resolved : Request.ofFacet settings facet = .ok request) :
    Request.clash? around request =
      if facet.isGroup = true ∧ facet.outerName ∈ around then some facet.outerName
      else Place.firstRepeat? (placesIn around facet) := by
  cases facet with
  | group target inner =>
    obtain ⟨_, requests, each, rfl⟩ := Request.ofFacet_group_eq_ok.mp resolved
    rw [Request.clash?, placesIn, clashOfAll?_eq (target.name :: around) [] each]
    simp only [isGroup, outerName, true_and]
  | measure spec =>
    obtain ⟨made, _, rfl⟩ := Request.ofFacet_measure_eq_ok.mp resolved
    rw [Request.clash?, placesIn, if_neg (by simp [isGroup])]
    rfl

/-- **Names clash as the first place that repeats one says.** -/
theorem clashOfAll?_eq (around earlier : List String) {facets : List Facet}
    {requests : List Request} (resolved : Request.ofEach settings facets = .ok requests) :
    Request.clashOfAll? around earlier requests =
      Place.firstRepeat? (placesOfAll around earlier facets) := by
  cases facets with
  | nil =>
    cases Request.ofEach_eq_ok.mp resolved
    rw [Request.clashOfAll?, placesOfAll]
    rfl
  | cons facet rest =>
    obtain ⟨request, later, head, tail, rfl⟩ :=
      List.forall₂_cons_left_iff.mp (Request.ofEach_eq_ok.mp resolved)
    rw [Request.clashOfAll?, placesOfAll, outerName_of_ofFacet head, clash?_eq around head,
      clashOfAll?_eq around (facet.outerName :: earlier) (Request.ofEach_eq_ok.mpr tail),
      Place.firstRepeat?_cons, Place.firstRepeat?_append]
    -- A name is compared with those before it at the level, and only then with the groupings around
    -- it.
    by_cases seen : facet.outerName ∈ earlier
    · have repeats : Place.Repeats ⟨around, earlier, facet⟩ := .inl seen
      rw [if_pos seen, if_pos repeats]
    · rw [if_neg seen]
      by_cases under : facet.isGroup = true ∧ facet.outerName ∈ around
      · have repeats : Place.Repeats ⟨around, earlier, facet⟩ := .inr under
        rw [if_pos under, if_pos repeats, Option.some_or]
      · have fresh : ¬ Place.Repeats ⟨around, earlier, facet⟩ := not_or.mpr ⟨seen, under⟩
        rw [if_neg under, if_neg fresh]

end

/-! ### Places and levels -/

variable {around : List String} {place : Place}

theorem mem_placesOfAll {earlier : List String} {facets : List Facet} :
    place ∈ placesOfAll around earlier facets ↔
      ∃ before facet after, facets = before ++ facet :: after ∧
        (place = ⟨around, (before.map outerName).reverse ++ earlier, facet⟩ ∨
          place ∈ placesIn around facet) := by
  induction facets generalizing earlier with
  | nil => simp [placesOfAll]
  | cons first rest later =>
    rw [placesOfAll, List.mem_cons, List.mem_append, later]
    constructor
    · rintro (here | within | ⟨before, facet, after, rfl, found⟩)
      · exact ⟨[], first, rest, rfl, .inl here⟩
      · exact ⟨[], first, rest, rfl, .inr within⟩
      · refine ⟨first :: before, facet, after, rfl, found.imp_left fun here => ?_⟩
        rw [here, List.map_cons, List.reverse_cons, List.append_assoc]
        rfl
    · rintro ⟨before, facet, after, split, found⟩
      cases before with
      | nil =>
        obtain ⟨rfl, rfl⟩ := List.cons.inj split
        exact found.imp_right .inl
      | cons other before =>
        obtain ⟨rfl, rfl⟩ := List.cons.inj split
        refine .inr (.inr ⟨before, facet, after, rfl, found.imp_left fun here => ?_⟩)
        rw [here, List.map_cons, List.reverse_cons, List.append_assoc]
        rfl

/-- A place is a position of a level: it has the names around the level and those before it
there. -/
theorem exists_level_of_mem :
    ∀ {around : List String} {facets : List Facet}, place ∈ placesOfAll around [] facets →
      ∃ deeper level before after, Level around facets deeper level ∧
        level = before ++ place.facet :: after ∧
        place = ⟨deeper, (before.map outerName).reverse, place.facet⟩
  | around, facets, member => by
    obtain ⟨before, facet, after, split, here | within⟩ := mem_placesOfAll.mp member
    · rw [List.append_nil] at here
      subst here
      exact ⟨around, facets, before, after, .here, split, rfl⟩
    · cases facet with
      | measure spec =>
        rw [placesIn] at within
        cases within
      | group target inner =>
        -- The places inside a grouping are those of a smaller list, so the recursion goes on there.
        have asked : Facet.group target inner ∈ facets := by
          rw [split]
          exact List.mem_append_right _ List.mem_cons_self
        have smaller : sizeOf inner < sizeOf facets := by
          have size := List.sizeOf_lt_of_mem asked
          rw [group.sizeOf_spec] at size
          omega
        rw [placesIn] at within
        obtain ⟨deeper, level, before, after, below, levelSplit, same⟩ := exists_level_of_mem within
        exact ⟨deeper, level, before, after, .of_group asked below, levelSplit, same⟩
termination_by _ facets => sizeOf facets

/-- The places of a level are places of the whole. -/
theorem mem_of_level {deeper : List String} {facets level : List Facet}
    (below : Level around facets deeper level) (member : place ∈ placesOfAll deeper [] level) :
    place ∈ placesOfAll around [] facets := by
  induction below with
  | here => exact member
  | inside _ asked above =>
    obtain ⟨before, after, split⟩ := List.append_of_mem asked
    refine above (mem_placesOfAll.mpr ⟨before, _, after, split, .inr ?_⟩)
    rw [placesIn]
    exact member

/-- **A level in which nothing is wrong**: every facet resolves, no name occurs twice, and no
grouping has the name of one around it. -/
structure Sound (around : List String) (level : List Facet) : Prop where
  resolves : ∀ facet ∈ level, facet.Resolves
  distinct : (level.map outerName).Nodup
  apart : ∀ target inner, .group target inner ∈ level → target.name ∉ around

/-- Names are distinct if none of them is one of those before it. -/
theorem nodup_map_iff {level : List Facet} :
    (level.map outerName).Nodup ↔
      ∀ before facet after, level = before ++ facet :: after →
        facet.outerName ∉ before.map outerName := by
  constructor
  · rintro distinct before facet after rfl
    rw [List.map_append, List.map_cons, List.nodup_middle, List.nodup_cons] at distinct
    exact fun again => distinct.1 (List.mem_append_left _ again)
  · intro fresh
    induction level using List.reverseRecOn with
    | nil => exact List.nodup_nil
    | append_singleton level last earlier =>
      rw [List.map_append, List.map_singleton, List.nodup_middle, List.append_nil, List.nodup_cons]
      refine ⟨fresh level last [] rfl, earlier fun before facet after split => ?_⟩
      refine fresh before facet (after ++ [last]) ?_
      rw [split, List.append_assoc, List.cons_append]

/-- Nothing is wrong in a level exactly if nothing is wrong at its positions. -/
theorem sound_iff {level : List Facet} :
    Sound around level ↔
      ∀ before facet after, level = before ++ facet :: after →
        facet.Resolves ∧ ¬ Place.Repeats ⟨around, (before.map outerName).reverse, facet⟩ := by
  constructor
  · rintro sound before facet after rfl
    have member : facet ∈ before ++ facet :: after := List.mem_append_right _ List.mem_cons_self
    refine ⟨sound.resolves facet member, ?_⟩
    rintro (again | ⟨grouping, under⟩)
    · exact nodup_map_iff.mp sound.distinct before facet after rfl (List.mem_reverse.mp again)
    · cases facet with
      | measure spec => cases grouping
      | group target inner => exact sound.apart target inner member under
  · intro each
    refine ⟨fun facet member => ?_, nodup_map_iff.mpr fun before facet after split again => ?_,
      fun target inner member under => ?_⟩
    · obtain ⟨before, after, split⟩ := List.append_of_mem member
      exact (each before facet after split).1
    · exact (each before facet after split).2 (.inl (List.mem_reverse.mpr again))
    · obtain ⟨before, after, split⟩ := List.append_of_mem member
      exact (each before _ after split).2 (.inr ⟨rfl, under⟩)

/-- **Nothing is wrong at any place exactly if nothing is wrong in any level.** -/
theorem sound_levels_iff {facets : List Facet} :
    (∀ around level, Level [] facets around level → Sound around level) ↔
      ∀ place ∈ places facets, place.facet.Resolves ∧ ¬ place.Repeats := by
  constructor
  · intro sound place member
    obtain ⟨deeper, level, before, after, below, split, same⟩ := exists_level_of_mem member
    rw [same]
    exact sound_iff.mp (sound deeper level below) before place.facet after split
  · intro each around level below
    refine sound_iff.mpr fun before facet after split => ?_
    refine each ⟨around, (before.map outerName).reverse, facet⟩ (mem_of_level below ?_)
    refine mem_placesOfAll.mpr ⟨before, facet, after, split, .inl ?_⟩
    rw [List.append_nil]

end Facet

/-! ### Decisions -/

namespace Request

variable {settings : Settings} {facets : List Facet} {failure : Failure}

/-- Some facets are refused because one of them does not resolve, or else because of the first name
that clashes. -/
theorem ofFacets_eq_error :
    ofFacets settings facets = .error failure ↔
      ofEach settings facets = .error failure ∨
        ∃ requests, ofEach settings facets = .ok requests ∧
          ∃ name, clashOfAll? [] [] requests = some name ∧ failure = .ambiguous name := by
  rw [ofFacets, bind_eq_error]
  refine or_congr_right (exists_congr fun requests => and_congr_right fun _ => ?_)
  rw [bind_eq_error, checkNames]
  cases clashOfAll? [] [] requests with
  | none => simp
  | some name => simp [eq_comm]

/-- Facets resolve exactly if each place does by itself. -/
theorem ofEach_isOk_iff (settings : Settings) :
    (∃ requests, ofEach settings facets = .ok requests) ↔
      ∀ place ∈ Facet.places facets, place.facet.Resolves := by
  rw [← failure?_eq_none, Facet.failure?_ofEach [] [] facets]
  exact Place.firstRefusal?_eq_none

/-- Facets are accepted exactly if nothing is wrong at any place. -/
theorem ofFacets_isOk_iff :
    (∃ requests, ofFacets settings facets = .ok requests) ↔
      ∀ place ∈ Facet.places facets, place.facet.Resolves ∧ ¬ place.Repeats := by
  have unclashed {requests : List Request} (resolved : ofEach settings facets = .ok requests) :
      clashOfAll? [] [] requests = none ↔ ∀ place ∈ Facet.places facets, ¬ place.Repeats := by
    rw [Facet.clashOfAll?_eq [] [] resolved]
    exact Place.firstRepeat?_eq_none
  constructor
  · rintro ⟨requests, accepted⟩ place member
    obtain ⟨resolved, apart⟩ := ofFacets_eq_ok.mp accepted
    exact ⟨(ofEach_isOk_iff settings).mp ⟨requests, resolved⟩ place member,
      (unclashed resolved).mp apart place member⟩
  · intro each
    obtain ⟨requests, resolved⟩ :=
      (ofEach_isOk_iff settings).mpr fun place member => (each place member).1
    have apart := (unclashed resolved).mpr fun place member => (each place member).2
    exact ⟨requests, ofFacets_eq_ok.mpr ⟨resolved, apart⟩⟩

end Request

namespace Facet

/-- **What is accepted, and what is refused how.** Facets become requests exactly if nothing is
wrong in any of their levels. Otherwise the first place in order that does not resolve by itself
says how they are refused, whatever clashes before it; and if all of them resolve, they are
ambiguous by the name of the first place that repeats one. -/
theorem ofFacets_decided (settings : Settings) (facets : List Facet) :
    ((∃ requests, Request.ofFacets settings facets = .ok requests) ↔
      ∀ around level, Level [] facets around level → Sound around level) ∧
    ∀ failure, Request.ofFacets settings facets = .error failure ↔
      (∃ before place after, places facets = before ++ place :: after ∧
        (∀ other ∈ before, other.facet.Resolves) ∧ place.facet.refusal? = some failure ∧
        failure.kind = .unsupported) ∨
      ((∀ place ∈ places facets, place.facet.Resolves) ∧
        ∃ before place after, places facets = before ++ place :: after ∧
          (∀ other ∈ before, ¬ other.Repeats) ∧ place.Repeats ∧
          failure = .ambiguous place.facet.outerName) := by
  refine ⟨Request.ofFacets_isOk_iff.trans sound_levels_iff.symm, fun failure => ?_⟩
  rw [Request.ofFacets_eq_error, ← failure?_eq_some, failure?_ofEach [] [] facets]
  refine or_congr ?_ ?_
  · rw [Place.firstRefusal?_eq_some]
    refine exists_congr fun before => exists_congr fun place => exists_congr fun after =>
      and_congr_right fun _ => and_congr_right fun _ => ?_
    exact (and_iff_left_of_imp kind_of_refusal?).symm
  · rw [← Request.ofEach_isOk_iff settings, ← exists_and_right]
    refine exists_congr fun requests => and_congr_right fun resolved => ?_
    rw [clashOfAll?_eq [] [] resolved]
    constructor
    · rintro ⟨name, clash, rfl⟩
      obtain ⟨before, place, after, split, fresh, repeats, rfl⟩ :=
        Place.firstRepeat?_eq_some.mp clash
      exact ⟨before, place, after, split, fresh, repeats, rfl⟩
    · rintro ⟨before, place, after, split, fresh, repeats, rfl⟩
      exact ⟨_, Place.firstRepeat?_eq_some.mpr ⟨before, place, after, split, fresh,
        repeats, rfl⟩, rfl⟩

/-- A key that is no path is refused behind two sums of one name, and of kinds inside kinds the
inner ones clash, though the sum inside is not the sum outside. -/
theorem ofFacets_decided_priceSums :
    Request.ofFacets {} [priceSum, priceSum, .group (.key "a..b") []] =
        .error (.unsupported "a..b" (.segment "")) ∧
      Request.ofFacets {} [priceSum, .group (.key "kind") [priceSum, .group (.key "kind") []]] =
        .error (.ambiguous "kind") := by
  refine ⟨((ofFacets_decided _ _).2 _).mpr (.inl ?_),
    ((ofFacets_decided _ _).2 _).mpr (.inr ⟨?_, ?_⟩)⟩
  · refine ⟨[⟨[], [], priceSum⟩, ⟨[], ["sum_price"], priceSum⟩], _, [], rfl,
      fun other member => ?_, ?_, rfl⟩
    · have same : other.facet = priceSum := by
        rcases List.mem_cons.mp member with rfl | member
        · rfl
        · rw [List.mem_singleton.mp member]
      rw [same, ← refusal?_eq_none]
      decide +kernel
    · decide +kernel
  · simp only [← refusal?_eq_none]
    decide +kernel
  · refine ⟨[⟨[], [], priceSum⟩,
        ⟨[], ["sum_price"], .group (.key "kind") [priceSum, .group (.key "kind") []]⟩,
        ⟨["kind"], [], priceSum⟩],
      ⟨["kind"], ["sum_price"], .group (.key "kind") []⟩, [], rfl, ?_, ?_, rfl⟩
    · decide +kernel
    · decide +kernel

end Facet

end FacetQuery
