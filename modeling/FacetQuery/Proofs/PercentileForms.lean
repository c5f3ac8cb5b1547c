/-
**Both forms of percentiles.**

A response writes percentiles as an object from texts of percents to values, with formatted values
beside them, or as a list of percents with values. The object is read in the order of its texts and
the list in its own. In the end both are put in the order of the percents, and different percents
have one such order only: it tells all signs and magnitudes apart, the two zeros among them.

* `Dict.ofList_filter` — **members are chosen by name before or after they are put in order.**
* `Binary.rank_injective` — **the order of percents tells all of them apart.**
* `Outcome.sorted_eq_of_perm` — **different percents have one order.**
* `Percentile.KeyedBy`, `Percentile.ListedBy` — **what either form holds**, in any order.
* `Percentile.forms_alike` — **both forms are read as one list**, with an item for each percent in
  strictly increasing order.
-/

import FacetQuery.Proofs.FiniteAnswers
import Mathlib.Data.List.Perm.Basic

namespace FacetQuery

/-! ### Members chosen by name -/

namespace Dict

variable {α : Type}

theorem find?_filter (chosen : String → Bool) (name : String) (members : Dict α) :
    find? name (members.filter fun member => chosen member.1) =
      if chosen name = true then find? name members else none := by
  induction members with
  | nil => rw [List.filter_nil, find?_nil, ite_self]
  | cons head rest later =>
    obtain ⟨first, value⟩ := head
    rw [List.filter_cons]
    by_cases kept : chosen first = true
    · rw [if_pos kept, find?, find?, later]
      by_cases here : first = name
      · rw [if_pos here, if_pos here, if_pos (here ▸ kept)]
      · rw [if_neg here, if_neg here]
    · rw [if_neg kept, later, find?]
      by_cases here : first = name
      · rw [if_neg (here ▸ kept), if_neg (here ▸ kept)]
      · rw [if_neg here]

/-- **Members are chosen by name before or after they are put in order.** -/
theorem ofList_filter (chosen : String → Bool) (pairs : List (String × α)) :
    (ofList pairs).filter (fun member => chosen member.1) =
      ofList (pairs.filter fun pair => chosen pair.1) := by
  have ordered : Ordered ((ofList pairs).filter fun member => chosen member.1) :=
    (ordered_ofList pairs).sublist List.filter_sublist
  refine ordered.ext (ordered_ofList _) fun name => ?_
  rw [find?_filter, find?_ofList, find?_ofList, ← List.filter_reverse, find?_filter]

end Dict

/-! ### The order of percents -/

/-- **Numbers of one place are one number**, so the order of the places tells all numbers apart. -/
theorem Binary.rank_injective {f : FloatFormat} : Function.Injective (rank : Binary f → Int) := by
  intro x y same
  unfold rank at same
  cases negative : x.negative <;> cases other : y.negative <;>
    simp only [negative, other, if_true, if_false, Bool.false_eq_true] at same
  · exact eq_of_code (by omega) (negative.trans other.symm)
  · omega
  · omega
  · exact eq_of_code (by omega) (negative.trans other.symm)

namespace Outcome

variable {items others : List PercentileValue}

theorem pairwise_sorted (items : List PercentileValue) :
    (sorted items).Pairwise fun a b => a.percent.rank ≤ b.percent.rank := by
  have ordered :
      (sorted items).Pairwise fun a b => decide (a.percent.rank ≤ b.percent.rank) = true := by
    apply List.pairwise_mergeSort
    · intro a b c below above
      exact decide_eq_true (Int.le_trans (of_decide_eq_true below) (of_decide_eq_true above))
    · intro a b
      rw [Bool.or_eq_true, decide_eq_true_eq, decide_eq_true_eq]
      exact Int.le_total ..
  exact ordered.imp of_decide_eq_true

/-- Different percents are in strictly increasing order. -/
theorem pairwise_sorted_lt (apart : (items.map PercentileValue.percent).Nodup) :
    (sorted items).Pairwise fun a b => a.percent.rank < b.percent.rank := by
  have apart : ((sorted items).map PercentileValue.percent).Nodup :=
    ((List.mergeSort_perm items _).map _).nodup_iff.mpr apart
  refine (pairwise_sorted items).imp₂ (fun a b below other => ?_) (List.pairwise_map.mp apart)
  exact lt_of_le_of_ne below fun same => other (Binary.rank_injective same)

/-- **Different percents have one order**, whatever order they came in. -/
theorem sorted_eq_of_perm (same : items.Perm others)
    (apart : (items.map PercentileValue.percent).Nodup) : sorted items = sorted others := by
  have apartOthers : (others.map PercentileValue.percent).Nodup := (same.map _).nodup_iff.mp apart
  have both : (sorted items).Perm (sorted others) :=
    ((List.mergeSort_perm items _).trans same).trans (List.mergeSort_perm others _).symm
  refine both.eq_of_pairwise ?_ (pairwise_sorted_lt apart) (pairwise_sorted_lt apartOthers)
  exact fun _ _ _ _ below above => absurd above (Int.lt_asymm below)

end Outcome

/-! ### Percentiles as they are written -/

/-- A percentile as it is written: the text of its percent, the percent itself, and its value. -/
structure Percentile where
  text : String
  percent : Double
  value : Json

namespace Percentile

variable {pairs : List Percentile} {members : List (String × Json)} {entries : List Json}

/-- Whether a name is that of a formatted value. -/
def isFormatted (name : String) : Bool := "_as_string".toList.isSuffixOf name.toList

/-- The text is read as the percent, and is no name of a formatted value. -/
structure Legible (pair : Percentile) : Prop where
  plain : isFormatted pair.text = false
  read : Scan.real? pair.text.toList = some pair.percent

/-- What is read: the percent, and the value if it is a number. -/
def item (pair : Percentile) : PercentileValue := ⟨pair.percent, pair.value.double?⟩

/-- The value under the text. -/
def member (pair : Percentile) : String × Json := (pair.text, pair.value)

/-- An entry with the percent as its key, as a number of either kind, and with the value. -/
def Entry (entry : Json) (pair : Percentile) : Prop :=
  (entry.member? "key").bind Json.double? = some pair.percent ∧
  entry.member? "value" = some pair.value

/-- **What the keyed form holds**: the values under their texts, and any formatted values, in any
order. -/
def KeyedBy (pairs : List Percentile) (members : List (String × Json)) : Prop :=
  ∃ formatted : List (String × Json), (∀ other ∈ formatted, isFormatted other.1 = true) ∧
    members.Perm (pairs.map member ++ formatted)

/-- **What the listed form holds**: an entry for each percent, in any order. -/
def ListedBy (pairs : List Percentile) (entries : List Json) : Prop :=
  ∃ listed : List Percentile, listed.Perm pairs ∧ List.Forall₂ Entry entries listed

/-- A finite percent can be written as a number. -/
theorem entry_of_finite {pair : Percentile} (finite : pair.percent.isFinite = true) :
    Entry (.record [("key", .ofDouble pair.percent), ("value", pair.value)]) pair := by
  have key : (Json.record [("key", .ofDouble pair.percent), ("value", pair.value)]).member? "key" =
      some (.ofDouble pair.percent) := Dict.find?_ofList _ "key"
  refine ⟨?_, Dict.find?_ofList _ "value"⟩
  rw [key, Option.bind_some]
  exact Json.double?_ofDouble.mpr ⟨finite, rfl⟩

/-- Different percents are written by different texts. -/
theorem nodup_texts (legible : ∀ pair ∈ pairs, pair.Legible) (apart : (pairs.map percent).Nodup) :
    (pairs.map text).Nodup := by
  refine List.Nodup.of_map (fun name => Scan.real? (f := .double) name.toList) ?_
  have read : (pairs.map text).map (fun name => Scan.real? (f := .double) name.toList) =
      (pairs.map percent).map some := by
    rw [List.map_map, List.map_map]
    exact List.map_congr_left fun pair member => (legible pair member).read
  rw [read]
  exact apart.map fun _ _ => Option.some.inj

/-- The members of the keyed form that are no formatted values are the values under their texts. -/
theorem perm_plain_members (legible : ∀ pair ∈ pairs, pair.Legible)
    (apart : (pairs.map percent).Nodup) (keyed : KeyedBy pairs members) :
    ((Dict.ofList members).filter fun member => !isFormatted member.1).Perm (pairs.map member) := by
  obtain ⟨formatted, names, same⟩ := keyed
  have own : (pairs.map member).filter (fun member => !isFormatted member.1) =
      pairs.map member := by
    refine List.filter_eq_self.mpr (List.forall_mem_map.mpr fun pair there => ?_)
    exact congrArg not (legible pair there).plain
  have others : formatted.filter (fun member => !isFormatted member.1) = [] :=
    List.filter_eq_nil_iff.mpr fun other there kept => by
      rw [names other there] at kept
      cases kept
  have chosen : (members.filter fun member => !isFormatted member.1).Perm (pairs.map member) := by
    have both := same.filter fun member => !isFormatted member.1
    rwa [List.filter_append, own, others, List.append_nil] at both
  have texts : (pairs.map member).map Prod.fst = pairs.map text := List.map_map
  have distinct : ((members.filter fun member => !isFormatted member.1).map Prod.fst).Nodup := by
    rw [(chosen.map Prod.fst).nodup_iff, texts]
    exact nodup_texts legible apart
  rw [Dict.ofList_filter fun name => !isFormatted name]
  exact (Dict.perm_ofList distinct).trans chosen

/-- **The keyed form is read** as an item for each percent. -/
theorem read_keyed (name : String) (legible : ∀ pair ∈ pairs, pair.Legible)
    (apart : (pairs.map percent).Nodup) (keyed : KeyedBy pairs members) :
    ∃ items, Outcome.keyedPercentiles name (Dict.ofList members) = .ok items ∧
      items.Perm (pairs.map item) := by
  have each : List.Forall₂ (fun member item => Scan.real? member.1.toList = some item.percent ∧
      member.2.double? = item.value) (pairs.map member) (pairs.map item) := by
    rw [List.forall₂_map_left_iff, List.forall₂_map_right_iff, List.forall₂_same]
    exact fun pair there => ⟨(legible pair there).read, rfl⟩
  -- The items follow the members into the order of the texts.
  obtain ⟨items, read, same⟩ := List.perm_comp_forall₂ (perm_plain_members legible apart keyed) each
  exact ⟨items, Outcome.keyedPercentiles_eq_ok.mpr read, same⟩

/-- **The listed form is read** as an item for each percent. -/
theorem read_listed (name : String) (listed : ListedBy pairs entries) :
    ∃ items, Outcome.listedPercentiles name entries = .ok items ∧ items.Perm (pairs.map item) := by
  obtain ⟨listed, same, each⟩ := listed
  refine ⟨listed.map item, ?_, same.map item⟩
  rw [Outcome.listedPercentiles, mapM_eq_ok, List.forall₂_map_right_iff]
  refine each.imp fun entry pair ⟨key, value⟩ => ?_
  rw [key, value]
  rfl

/-- **Both forms of percentiles are read as one list.** Percentiles of different percents, whatever
texts those are written with, are read with an item for each, whose value is a number if the written
one is. The items are in strictly increasing order of the percents, and they are the same for every
object from the texts to the values, with formatted values beside them or without, and for every
list of the percents with the values. -/
theorem forms_alike (name : String) (legible : ∀ pair ∈ pairs, pair.Legible)
    (apart : (pairs.map percent).Nodup) :
    ∃ items : List PercentileValue,
      items.Perm (pairs.map item) ∧ items.Pairwise (fun a b => a.percent.rank < b.percent.rank) ∧
      (∀ body members, body.member? "values" = some (Json.record members) → KeyedBy pairs members →
        Outcome.ofMeasure .percentiles name body = .ok (.percentiles items)) ∧
      ∀ body entries, body.member? "values" = some (.array entries) → ListedBy pairs entries →
        Outcome.ofMeasure .percentiles name body = .ok (.percentiles items) := by
  have percents : (pairs.map item).map PercentileValue.percent = pairs.map percent := List.map_map
  have one {items : List PercentileValue} (same : items.Perm (pairs.map item)) :
      Outcome.sorted items = Outcome.sorted (pairs.map item) := by
    refine (Outcome.sorted_eq_of_perm same.symm ?_).symm
    rwa [percents]
  refine ⟨Outcome.sorted (pairs.map item), List.mergeSort_perm .., ?_, ?_, ?_⟩
  · apply Outcome.pairwise_sorted_lt
    rwa [percents]
  · intro body members here keyed
    obtain ⟨items, read, same⟩ := read_keyed name legible apart keyed
    refine map_eq_ok.mpr
      ⟨_, Outcome.percentilesOf_eq_ok.mpr ⟨items, one same, .inl ⟨_, here, read⟩⟩, rfl⟩
  · intro body entries here listed
    obtain ⟨items, read, same⟩ := read_listed name listed
    refine map_eq_ok.mpr
      ⟨_, Outcome.percentilesOf_eq_ok.mpr ⟨items, one same, .inr ⟨_, here, read⟩⟩, rfl⟩

/-- Percentiles of emissions: the percents of a text with an exponent and of both zeros, one of them
with no value and one with a text. -/
def emissionPercents : List Percentile :=
  [⟨"95.0", .ofInt 95, .ofInt 7⟩, ⟨"5e1", .ofInt 50, .null⟩, ⟨"0", .zero false, .ofInt 1⟩,
    ⟨"-0", .zero true, .string "n/a"⟩]

theorem legible_emissionPercents : ∀ pair ∈ emissionPercents, pair.Legible := by
  have each : ∀ pair ∈ emissionPercents,
      isFormatted pair.text = false ∧
      Scan.real? pair.text.toList = some pair.percent := by decide +kernel
  exact fun pair there => ⟨(each pair there).1, (each pair there).2⟩

/-- The emissions in their order and with a formatted value, and from the last to the first. -/
theorem forms_alike_emissions :
    (∀ pair ∈ emissionPercents, pair.Legible) ∧ (emissionPercents.map percent).Nodup ∧
      ∃ items : List PercentileValue,
        items.map PercentileValue.percent = [.zero true, .zero false, .ofInt 50, .ofInt 95] ∧
        Outcome.ofMeasure .percentiles "percentiles_emissions" (.record [("values", .record
          [("95.0", .ofInt 7), ("95.0_as_string", .string "7 g"), ("5e1", .null), ("0", .ofInt 1),
            ("-0", .string "n/a")])]) = .ok (.percentiles items) ∧
        Outcome.ofMeasure .percentiles "percentiles_emissions" (.record [("values", .array
          (emissionPercents.reverse.map fun pair =>
            .record [("key", .ofDouble pair.percent), ("value", pair.value)]))]) =
              .ok (.percentiles items) := by
  have apart : (emissionPercents.map percent).Nodup := by decide +kernel
  obtain ⟨items, same, ordered, keyed, listed⟩ :=
    forms_alike "percentiles_emissions" legible_emissionPercents apart
  have finite : ∀ pair ∈ emissionPercents.reverse, pair.percent.isFinite = true := by decide +kernel
  have percents :
      (items.map PercentileValue.percent).Perm [.zero true, .zero false, .ofInt 50, .ofInt 95] :=
    (same.map _).trans (by decide +kernel)
  have increasing : (items.map PercentileValue.percent).Pairwise fun a b => a.rank < b.rank :=
    List.pairwise_map.mpr ordered
  refine ⟨legible_emissionPercents, apart, items, ?_, ?_, ?_⟩
  · refine percents.eq_of_pairwise ?_ increasing (by decide +kernel)
    exact fun _ _ _ _ below above => absurd above (Int.lt_asymm below)
  · refine keyed _ _ rfl ⟨[("95.0_as_string", .string "7 g")],
      List.forall_mem_singleton.mpr rfl, ?_⟩
    exact (List.perm_append_singleton _ _).symm.cons _
  · refine listed _ _ rfl ⟨emissionPercents.reverse, List.reverse_perm _, ?_⟩
    rw [List.forall₂_map_left_iff, List.forall₂_same]
    exact fun pair there => entry_of_finite (finite pair there)

end Percentile

end FacetQuery
