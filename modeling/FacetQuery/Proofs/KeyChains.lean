/-
**Chains of keys.**

Grouping by several keys puts one grouping around another, the first key outermost, and what was
there before inside the last. Such a chain is accepted if its keys are paths, no key comes twice,
and no key is the name of a grouping that is inside already; for the rest it depends on what is
inside alone. Keys count here as they are taken, with their first letter in lower case.

* `Facets.Chain` — **groupings inside each other**, one for each of some names.
* `Facet.SoundUnder` — **nothing is wrong in any level**, under the names of some groupings around.
* `Facet.soundUnder_group`, `Facet.soundUnder_cons` — one more grouping around, seen from outside
  and from inside.
* `Facet.soundUnder_groupByKeys` — a whole chain around.
* `Facets.keys_chained` — **what is built from several keys, and when it is accepted.**
-/

import FacetQuery.Proofs.Acceptance
import FacetQuery.Proofs.TypedPredicates

namespace FacetQuery

/-! ### Groupings inside each other -/

namespace Facets

/-- **Groupings by some keys inside each other**, the first outermost and each with the next alone
inside it, down to `inner` in the last. -/
inductive Chain (inner : List Facet) : List String → List Facet → Prop
  | done : Chain inner [] inner
  | key (name : String) {names : List String} {level : List Facet} :
      Chain inner names level → Chain inner (name :: names) [.group (.key name) level]

/-- The names under which keys group. -/
def keyNames (keys : List String) : List String := keys.map Lowercase.ofFirst

variable {inner level : List Facet}

/-- The first key is the outermost. -/
theorem groupByKeys_cons (inner : List Facet) (key : String) (keys : List String) :
    groupByKeys inner (key :: keys) =
      [.group (.key (Lowercase.ofFirst key)) (groupByKeys inner keys)] :=
  List.foldr_cons ..

theorem groupByKeys_append (inner : List Facet) (keys others : List String) :
    groupByKeys inner (keys ++ others) = groupByKeys (groupByKeys inner others) keys :=
  List.foldr_append ..

/-- Keys build the chain of their names, and no other level is that chain. -/
theorem chain_iff {keys : List String} :
    Chain inner (keyNames keys) level ↔ level = groupByKeys inner keys := by
  induction keys generalizing level with
  | nil =>
    constructor
    · rintro ⟨⟩
      rfl
    · rintro rfl
      exact .done
  | cons key keys later =>
    rw [groupByKeys_cons]
    constructor
    · rintro (_ | ⟨_, below⟩)
      rw [later.mp below]
    · rintro rfl
      exact .key _ (later.mpr rfl)

end Facets

/-! ### Levels under groupings -/

namespace Facet

variable {around deeper : List String} {facets inner level : List Facet} {target : GroupTarget}
  {name : String}

/-- Nothing is wrong in any level of some facets that stand inside groupings of some names. -/
def SoundUnder (around : List String) (facets : List Facet) : Prop :=
  ∀ deeper level, Level around facets deeper level → Sound deeper level

/-- **A grouping of a name** stands among some facets, at whatever depth. -/
def HasGroup (facets : List Facet) (name : String) : Prop :=
  ∃ around level target inner, Level [] facets around level ∧ .group target inner ∈ level ∧
    target.name = name

theorem accepted_iff_soundUnder {settings : Settings} :
    (∃ requests, Request.ofFacets settings facets = .ok requests) ↔ SoundUnder [] facets :=
  Request.ofFacets_isOk_iff.trans sound_levels_iff.symm

/-- The levels of some facets are their own and those inside each grouping. -/
theorem level_iff_or :
    Level around facets deeper level ↔
      (deeper = around ∧ level = facets) ∨
        ∃ target inner, .group target inner ∈ facets ∧
          Level (target.name :: around) inner deeper level := by
  constructor
  · intro below
    induction below with
    | here => exact .inl ⟨rfl, rfl⟩
    | inside _ asked above =>
      rcases above with ⟨rfl, rfl⟩ | ⟨target, inner, member, above⟩
      · exact .inr ⟨_, _, asked, .here⟩
      · exact .inr ⟨target, inner, member, .inside above asked⟩
  · rintro (⟨rfl, rfl⟩ | ⟨target, inner, member, below⟩)
    · exact .here
    · exact .of_group member below

/-- **A grouping is sound under some names** if its path is one, its name is none of them, and what
is inside it is sound under its name and theirs. -/
theorem soundUnder_group :
    SoundUnder around [.group target inner] ↔
      Path.check target.path = .ok () ∧ target.name ∉ around ∧
      SoundUnder (target.name :: around) inner := by
  constructor
  · intro sound
    have outer := sound around _ .here
    refine ⟨outer.resolves _ List.mem_cons_self, outer.apart target inner List.mem_cons_self, ?_⟩
    exact fun deeper level below => sound deeper level (.of_group List.mem_cons_self below)
  · rintro ⟨valid, apart, within⟩ deeper level below
    rcases level_iff_or.mp below with ⟨rfl, rfl⟩ | ⟨other, others, member, inside⟩
    · refine ⟨List.forall_mem_singleton.mpr valid, List.nodup_singleton _,
        fun other others member => ?_⟩
      obtain ⟨rfl, rfl⟩ := Facet.group.inj (List.mem_singleton.mp member)
      exact apart
    · obtain ⟨rfl, rfl⟩ := Facet.group.inj (List.mem_singleton.mp member)
      exact within deeper level inside

/-- The levels of facets are the same whatever is around them, each with these names behind its
own. -/
theorem level_iff :
    Level around facets deeper level ↔
      ∃ own, deeper = own ++ around ∧ Level [] facets own level := by
  constructor
  · intro below
    induction below with
    | here => exact ⟨[], rfl, .here⟩
    | inside _ asked above =>
      obtain ⟨own, rfl, above⟩ := above
      exact ⟨_ :: own, rfl, .inside above asked⟩
  · rintro ⟨own, rfl, below⟩
    induction below with
    | here => exact .here
    | inside _ asked above => exact .inside above asked

/-- A grouping of a name is one of some facets or is inside one of them. -/
theorem hasGroup_iff :
    HasGroup facets name ↔
      ∃ target inner, .group target inner ∈ facets ∧
        (target.name = name ∨ HasGroup inner name) := by
  constructor
  · rintro ⟨around, level, target, inner, below, member, named⟩
    rcases level_iff_or.mp below with ⟨rfl, rfl⟩ | ⟨outer, others, asked, below⟩
    · exact ⟨target, inner, member, .inl named⟩
    · obtain ⟨own, _, inside⟩ := level_iff.mp below
      exact ⟨outer, others, asked, .inr ⟨own, level, target, inner, inside, member, named⟩⟩
  · rintro ⟨target, inner, member, named | ⟨own, level, deep, deeper, below, asked, named⟩⟩
    · exact ⟨[], facets, target, inner, .here, member, named⟩
    · have inside : Level [] facets (own ++ [target.name]) level :=
        .of_group member (level_iff.mpr ⟨own, rfl, below⟩)
      exact ⟨_, level, deep, deeper, inside, asked, named⟩

/-- A level is sound under more names if it is sound and has no grouping of these names. -/
theorem sound_append_iff {own : List String} :
    Sound (own ++ around) level ↔
      Sound own level ∧ ∀ target inner, .group target inner ∈ level → target.name ∉ around := by
  constructor
  · intro sound
    have apart {target : GroupTarget} {inner : List Facet} (member : .group target inner ∈ level) :=
      not_or.mp fun under => sound.apart target inner member (List.mem_append.mpr under)
    exact ⟨⟨sound.resolves, sound.distinct, fun _ _ member => (apart member).1⟩,
      fun _ _ member => (apart member).2⟩
  · rintro ⟨sound, fresh⟩
    refine ⟨sound.resolves, sound.distinct, fun target inner member under => ?_⟩
    rcases List.mem_append.mp under with under | under
    · exact sound.apart target inner member under
    · exact fresh target inner member under

/-- **Facets are sound under some names** if they are sound and have no grouping of these names at
any depth. -/
theorem soundUnder_iff :
    SoundUnder around facets ↔ SoundUnder [] facets ∧ ∀ name ∈ around, ¬ HasGroup facets name := by
  constructor
  · intro sound
    have each {own : List String} {level : List Facet} (below : Level [] facets own level) :=
      sound_append_iff.mp (sound _ level (level_iff.mpr ⟨own, rfl, below⟩))
    refine ⟨fun own level below => (each below).1, ?_⟩
    rintro name under ⟨own, level, target, inner, below, member, rfl⟩
    exact (each below).2 target inner member under
  · rintro ⟨sound, fresh⟩ deeper level below
    obtain ⟨own, rfl, inside⟩ := level_iff.mp below
    refine sound_append_iff.mpr ⟨sound own level inside, fun target inner member under => ?_⟩
    exact fresh _ under ⟨own, level, target, inner, inside, member, rfl⟩

/-- One more name around. -/
theorem soundUnder_cons :
    SoundUnder (name :: around) facets ↔ ¬ HasGroup facets name ∧ SoundUnder around facets := by
  have rest : SoundUnder around facets ↔
      SoundUnder [] facets ∧ ∀ under ∈ around, ¬ HasGroup facets under :=
    soundUnder_iff
  rw [soundUnder_iff, rest, List.forall_mem_cons]
  exact and_left_comm

/-- **A chain of keys is sound under some names** if the keys are paths, none of them comes twice or
is one of the names, and what is inside has no grouping of theirs and is sound under the names. -/
theorem soundUnder_groupByKeys {keys : List String} :
    SoundUnder around (Facets.groupByKeys inner keys) ↔
      (∀ name ∈ Facets.keyNames keys, Path.IsPath name) ∧ (Facets.keyNames keys).Nodup ∧
        (∀ name ∈ Facets.keyNames keys, name ∉ around) ∧
        (∀ name ∈ Facets.keyNames keys, ¬ HasGroup inner name) ∧ SoundUnder around inner := by
  induction keys generalizing around with
  | nil => simp [Facets.keyNames, Facets.groupByKeys]
  | cons key keys later =>
    have names : Facets.keyNames (key :: keys) = Lowercase.ofFirst key :: Facets.keyNames keys :=
      List.map_cons
    rw [Facets.groupByKeys_cons, soundUnder_group, later, names, soundUnder_cons,
      List.forall_mem_cons, List.forall_mem_cons, List.forall_mem_cons, List.nodup_cons]
    -- That no later key is the outermost says the same as that the outermost comes once.
    constructor
    · rintro ⟨valid, apart, paths, distinct, fresh, free, freeHere, sound⟩
      refine ⟨⟨Path.check_eq_ok.mp valid, paths⟩, ⟨fun again => ?_, distinct⟩,
        ⟨apart, fun name member => ?_⟩, ⟨freeHere, free⟩, sound⟩
      · exact fresh _ again List.mem_cons_self
      · exact List.not_mem_of_not_mem_cons (fresh name member)
    · rintro ⟨⟨valid, paths⟩, ⟨once, distinct⟩, ⟨apart, fresh⟩, ⟨freeHere, free⟩, sound⟩
      refine ⟨Path.check_eq_ok.mpr valid, apart, paths, distinct, fun name member => ?_, free,
        freeHere, sound⟩
      refine List.not_mem_cons_of_ne_of_not_mem ?_ (fresh name member)
      rintro rfl
      exact once member

end Facet

namespace Facets

/-- **What is built from several keys, and when it is accepted.** The keys make a chain of
groupings, the first outermost, with the given facets inside the last; without keys nothing is
added, and more keys go inside. The chain is accepted exactly if its keys are paths, no two of them
are alike, none of them is the name of a grouping at whatever depth inside, and what is inside is
accepted by itself. -/
theorem keys_chained (settings : Settings) (inner : List Facet) (keys : List String) :
    (∀ level, Chain inner (keyNames keys) level ↔ level = groupByKeys inner keys) ∧
    groupByKeys inner [] = inner ∧
    (∀ others, groupByKeys inner (keys ++ others) = groupByKeys (groupByKeys inner others) keys) ∧
    ((∃ requests, Request.ofFacets settings (groupByKeys inner keys) = .ok requests) ↔
      (∀ name ∈ keyNames keys, Path.IsPath name) ∧ (keyNames keys).Nodup ∧
        (∀ name ∈ keyNames keys, ¬ Facet.HasGroup inner name) ∧
        ∃ requests, Request.ofFacets settings inner = .ok requests) := by
  refine ⟨fun level => chain_iff, rfl, groupByKeys_append inner keys, ?_⟩
  have free : ∀ name ∈ keyNames keys, name ∉ ([] : List String) := fun name _ => List.not_mem_nil
  rw [Facet.accepted_iff_soundUnder, Facet.accepted_iff_soundUnder, Facet.soundUnder_groupByKeys]
  exact and_congr_right fun _ => and_congr_right fun _ => and_iff_right free

/-- The sum of prices in each year. -/
def priceByYear : List Facet := [.group (.key "year") [Facet.priceSum]]

theorem hasGroup_priceByYear {name : String} : Facet.HasGroup priceByYear name ↔ name = "year" := by
  have ungrouped : ¬ Facet.HasGroup [Facet.priceSum] name := by
    rw [Facet.hasGroup_iff]
    rintro ⟨target, inner, member, _⟩
    exact nomatch List.mem_singleton.mp member
  rw [Facet.hasGroup_iff, priceByYear]
  constructor
  · rintro ⟨target, inner, member, found⟩
    obtain ⟨rfl, rfl⟩ := Facet.group.inj (List.mem_singleton.mp member)
    exact (found.resolve_right ungrouped).symm
  · rintro rfl
    exact ⟨_, _, List.mem_cons_self, .inl rfl⟩

/-- Years can be put into kinds and colours, but neither into years nor into kinds twice. -/
theorem keys_chained_priceByYear :
    (∃ requests, Request.ofFacets {} (groupByKeys priceByYear ["Kind", "color"]) = .ok requests) ∧
    (¬ ∃ requests, Request.ofFacets {} (groupByKeys priceByYear ["color", "Year"]) = .ok requests) ∧
    ¬ ∃ requests,
      Request.ofFacets {} (groupByKeys priceByYear ["Kind", "kind"]) = .ok requests := by
  have names : keyNames ["Kind", "color"] = ["kind", "color"] := by decide +kernel
  have withYear : keyNames ["color", "Year"] = ["color", "year"] := by decide +kernel
  have twice : keyNames ["Kind", "kind"] = ["kind", "kind"] := by decide +kernel
  refine ⟨(keys_chained {} priceByYear _).2.2.2.mpr ⟨?_, ?_, ?_, _, rfl⟩, fun accepted => ?_,
    fun accepted => ?_⟩
  · rw [names]
    simp only [← Path.check_eq_ok]
    decide +kernel
  · rw [names]
    decide
  · rw [names]
    simp only [hasGroup_priceByYear]
    decide
  · obtain ⟨_, _, free, _⟩ := (keys_chained {} priceByYear _).2.2.2.mp accepted
    rw [withYear] at free
    exact free "year" (List.mem_cons_of_mem _ List.mem_cons_self) (hasGroup_priceByYear.mpr rfl)
  · obtain ⟨_, distinct, _⟩ := (keys_chained {} priceByYear _).2.2.2.mp accepted
    rw [twice] at distinct
    exact absurd distinct (by decide)

end Facets

end FacetQuery
