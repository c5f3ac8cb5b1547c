/-
**Lower case once and for all.**

A lowered text has nothing left to lower, since no character that some other is lowered to has a
lower case but itself. Over ASCII letters this is the lowering that comparisons of names use, so a
text with the letters of a lowered one is lowered to it.

* `Lowercase.Settled` — **a character that is its own lower case.**
* `Lowercase.settled_of_mem_ofChar`, `Lowercase.settled_of_mem_ofText` — **what lowering gives is
  settled**, read off the runs of the standard: those that lead into others are apart from them
  (`runs_leadOutside`).
* `Lowercase.Plain` — a text that is lowered as in ASCII.
* `Lowercase.ofText_of_sameLetters` — **a text with the letters of a settled one** is lowered to it.
* `Lowercase.sameLetters_ofText_iff` — **a text has the letters of its lower case** exactly if it is
  plain.
* `Lowercase.inContext_map_toLower`, `Lowercase.ofText_small` — **the case of ASCII letters changes
  nothing** in the lower case of the characters around them, or of the text.
-/

import FacetQuery.Schema.ValueType
import Mathlib.Data.List.Basic

namespace FacetQuery

namespace Lowercase

/-- A character that is its own lower case. -/
def Settled (c : Char) : Prop := ofChar c = [c]

instance (c : Char) : Decidable (Settled c) := inferInstanceAs (Decidable (ofChar c = [c]))

/-! ### Runs -/

/-- The runs, and the one capital whose lower case is of two characters. -/
def sources : List (Nat × Nat × Nat × Int) := (0x130, 0x130, 1, 0) :: runs

/-- Whether the numbers from `low` to `high`, every other one if they are sparse, are outside a run:
below it, above it, or between its members. -/
def outside (low high : Nat) (sparse : Bool) (run : Nat × Nat × Nat × Int) : Bool :=
  Nat.blt high run.1 || Nat.blt run.2.1 low ||
    (sparse && Nat.beq (run.2.2.1 % 2) 0 && Nat.beq ((low + run.1) % 2) 1)

/-- Whether what a run leads to is outside all runs. -/
def leadsOutside (run : Nat × Nat × Nat × Int) : Bool :=
  decide (0 ≤ run.1 + run.2.2.2) &&
    sources.all (outside (run.1 + run.2.2.2).toNat (run.2.1 + run.2.2.2).toNat
      (Nat.beq (run.2.2.1 % 2) 0 || Nat.beq run.1 run.2.1))

theorem runs_leadOutside : runs.all leadsOutside = true := by decide +kernel

theorem settled_of_outside {c : Char} (apart : ∀ run ∈ sources, inRun c run = false) :
    Settled c := by
  have notDotted : c ≠ 'İ' := by
    rintro rfl
    exact absurd (apart _ List.mem_cons_self) (by decide)
  have unfound : runs.find? (inRun c) = none := by
    refine List.find?_eq_none.mpr fun run member => ?_
    simp [apart run (List.mem_cons_of_mem _ member)]
  unfold Settled ofChar
  rw [if_neg notDotted, unfound]

/-- A number that a run leads to belongs to no run. -/
theorem inRun_of_leads {c target : Char} {first last stride : Nat} {shift : Int}
    (member : (first, last, stride, shift) ∈ runs)
    (source : inRun c (first, last, stride, shift) = true)
    (leads : target.toNat = (c.toNat + shift).toNat) :
    ∀ run ∈ sources, inRun target run = false := by
  rintro ⟨otherFirst, otherLast, otherStride, otherShift⟩ other
  have cleared := List.all_eq_true.mp runs_leadOutside _ member
  rw [leadsOutside, Bool.and_eq_true, decide_eq_true_iff] at cleared
  obtain ⟨positive, cleared⟩ := cleared
  change 0 ≤ (first : Int) + shift at positive
  have apart := List.all_eq_true.mp cleared _ other
  simp only [outside, Bool.or_eq_true, Bool.and_eq_true, Nat.blt_eq, Nat.beq_eq] at apart
  simp only [inRun, decide_eq_true_eq] at source
  obtain ⟨above, below, step⟩ := source
  simp only [inRun, decide_eq_false_iff_not, not_and]
  intro otherAbove otherBelow otherStep
  rcases apart with (low | high) | ⟨⟨sparse, even⟩, odd⟩
  · omega
  · omega
  -- Two runs of every other number, one of even and one of odd numbers.
  · have otherEven : (target.toNat - otherFirst) % 2 = 0 :=
      Nat.mod_eq_zero_of_dvd
        (Nat.dvd_trans (Nat.dvd_of_mod_eq_zero even) (Nat.dvd_of_mod_eq_zero otherStep))
    have ownEven : (c.toNat - first) % 2 = 0 := by
      rcases sparse with even | single
      · exact Nat.mod_eq_zero_of_dvd
          (Nat.dvd_trans (Nat.dvd_of_mod_eq_zero even) (Nat.dvd_of_mod_eq_zero step))
      · omega
    omega

/-- **What a character is lowered to is settled.** -/
theorem settled_of_mem_ofChar {c lower : Char} (member : lower ∈ ofChar c) : Settled lower := by
  unfold ofChar at member
  by_cases dotted : c = 'İ'
  · rw [if_pos dotted] at member
    have each : Settled 'i' ∧ Settled '\u0307' := by decide +kernel
    rcases List.mem_pair.mp member with rfl | rfl
    · exact each.1
    · exact each.2
  · rw [if_neg dotted] at member
    cases found : runs.find? (inRun c) with
    | none =>
      rw [found, List.mem_singleton] at member
      subst member
      unfold Settled ofChar
      rw [if_neg dotted, found]
    | some run =>
      obtain ⟨first, last, stride, shift⟩ := run
      rw [found, List.mem_singleton] at member
      subst member
      by_cases valid : (c.toNat + shift).toNat.isValidChar
      · refine settled_of_outside
          (inRun_of_leads (List.mem_of_find?_eq_some found) (List.find?_some found) ?_)
        rw [Char.ofNat, dif_pos valid]
        rfl
      · rw [Char.ofNat, dif_neg valid]
        decide +kernel

/-! ### ASCII letters -/

theorem isUpper_iff {c : Char} : c.isUpper = true ↔ 65 ≤ c.toNat ∧ c.toNat ≤ 90 :=
  decide_eq_true_iff.trans (and_congr UInt32.le_iff_toNat_le UInt32.le_iff_toNat_le)

theorem toLower_of_not_isUpper {c : Char} (small : ¬ c.isUpper = true) : c.toLower = c :=
  dif_neg fun capital => small (decide_eq_true capital)

theorem toNat_toLower {c : Char} (upper : c.isUpper = true) : c.toLower.toNat = c.toNat + 32 := by
  obtain ⟨_, most⟩ := isUpper_iff.mp upper
  have shifted : c.toLower = ⟨c.val + 32, _⟩ := dif_pos (of_decide_eq_true upper)
  rw [shifted]
  show (c.val + 32).toNat = c.toNat + 32
  rw [UInt32.toNat_add]
  exact Nat.mod_eq_of_lt (Nat.lt_of_le_of_lt (Nat.add_le_add_right most 32) (by decide))

/-- A small letter stays as it is when it is lowered again. -/
theorem toLower_toLower (c : Char) : c.toLower.toLower = c.toLower := by
  by_cases upper : c.isUpper = true
  · refine toLower_of_not_isUpper fun again => ?_
    have bounds := isUpper_iff.mp upper
    have small := isUpper_iff.mp again
    rw [toNat_toLower upper] at small
    omega
  · rw [toLower_of_not_isUpper upper, toLower_of_not_isUpper upper]

/-- A capital of ASCII is lowered as in ASCII. -/
theorem ofChar_of_isUpper {c : Char} (upper : c.isUpper = true) : ofChar c = [c.toLower] := by
  have bounds := isUpper_iff.mp upper
  have notDotted : c ≠ 'İ' := by
    rintro rfl
    exact absurd bounds (by decide)
  have own : inRun c (0x41, 0x5A, 1, 32) = true := by
    simp only [inRun, decide_eq_true_eq]
    omega
  have found : runs.find? (inRun c) = some (0x41, 0x5A, 1, 32) := List.find?_cons_of_pos own
  have lowered : Char.ofNat (c.toNat + 32) = c.toLower := by
    rw [← toNat_toLower upper, Char.ofNat_toNat]
  unfold ofChar
  rw [if_neg notDotted, found, ← lowered]
  rfl

/-- A settled character is no capital of ASCII. -/
theorem Settled.toLower_eq {c : Char} (settled : Settled c) : c.toLower = c := by
  by_cases upper : c.isUpper = true
  · have lowered := ofChar_of_isUpper upper
    rw [settled] at lowered
    exact (List.cons.inj lowered).1.symm
  · exact toLower_of_not_isUpper upper

/-- A character that is a settled one up to ASCII case is lowered to it. -/
theorem Settled.ofChar_eq {c lower : Char} (settled : Settled lower)
    (same : c.toLower = lower.toLower) : ofChar c = [lower] := by
  rw [settled.toLower_eq] at same
  by_cases upper : c.isUpper = true
  · rw [ofChar_of_isUpper upper, same]
  · rw [toLower_of_not_isUpper upper] at same
    rw [same]
    exact settled

/-! ### Texts -/

theorem settled_of_mem_behind {before text : List Char} {lower : Char}
    (member : lower ∈ behind before text) : Settled lower := by
  induction text generalizing before with
  | nil => exact nomatch member
  | cons c rest later =>
    rw [behind, List.mem_append] at member
    rcases member with here | behind
    · unfold inContext at here
      split at here
      · have each : Settled 'ς' ∧ Settled 'σ' := by decide +kernel
        rw [List.mem_singleton] at here
        subst here
        split
        · exact each.1
        · exact each.2
      · exact settled_of_mem_ofChar here
    · exact later behind

/-- **A lowered text is settled**, character by character. -/
theorem settled_of_mem_ofText {text : String} {lower : Char}
    (member : lower ∈ (ofText text).toList) : Settled lower := by
  rw [ofText, String.toList_ofList] at member
  exact settled_of_mem_behind member

/-- Every character of a text is lowered as in ASCII. -/
def Plain (text : String) : Prop := ∀ c ∈ text.toList, ofChar c = [c.toLower]

instance (text : String) : Decidable (Plain text) := List.decidableBAll _ _

/-- A sigma is not lowered as in ASCII, so no character of a plain text looks around. -/
theorem inContext_of_toLower {before after : List Char} {c : Char}
    (alone : ofChar c = [c.toLower]) : inContext before c after = [c.toLower] := by
  have plain : c ≠ 'Σ' := by
    rintro rfl
    exact absurd alone (by decide +kernel)
  rw [inContext, if_neg plain, alone]

theorem behind_of_toLower {before text : List Char} (each : ∀ c ∈ text, ofChar c = [c.toLower]) :
    behind before text = text.map Char.toLower := by
  induction text generalizing before with
  | nil => rfl
  | cons c rest later =>
    rw [behind, inContext_of_toLower (each c List.mem_cons_self),
      later fun other member => each other (List.mem_cons_of_mem _ member)]
    rfl

/-- A text with the letters of a settled one is plain. -/
theorem plain_of_sameLetters {text lowered : String}
    (same : Enumeration.sameLetters text lowered = true)
    (settled : ∀ c ∈ lowered.toList, Settled c) :
    Plain text ∧ text.toList.map Char.toLower = lowered.toList := by
  have fixed : lowered.toList.map Char.toLower = lowered.toList :=
    (List.map_congr_left fun c member => (settled c member).toLower_eq).trans (List.map_id' _)
  have letters : text.toList.map Char.toLower = lowered.toList := (beq_iff_eq.mp same).trans fixed
  refine ⟨fun c member => ?_, letters⟩
  have target : c.toLower ∈ lowered.toList := letters ▸ List.mem_map_of_mem member
  exact (settled _ target).ofChar_eq (toLower_toLower c).symm

/-- **A text with the letters of a settled one is lowered to it.** -/
theorem ofText_of_sameLetters {text lowered : String}
    (same : Enumeration.sameLetters text lowered = true)
    (settled : ∀ c ∈ lowered.toList, Settled c) : ofText text = lowered := by
  obtain ⟨plain, letters⟩ := plain_of_sameLetters same settled
  rw [ofText, behind_of_toLower plain, letters, String.ofList_toList]

/-- **A text has the letters of its lower case** exactly if it is plain. -/
theorem sameLetters_ofText_iff {text : String} :
    Enumeration.sameLetters text (ofText text) = true ↔ Plain text := by
  constructor
  · exact fun same => (plain_of_sameLetters same fun _ => settled_of_mem_ofText).1
  · intro plain
    rw [ofText, behind_of_toLower plain, Enumeration.sameLetters, beq_iff_eq, String.toList_ofList,
      List.map_map]
    exact List.map_congr_left fun c _ => (toLower_toLower c).symm

/-! ### Letters in either case -/

theorem isLower_iff {c : Char} : c.isLower = true ↔ 97 ≤ c.toNat ∧ c.toNat ≤ 122 :=
  (Bool.and_eq_true_iff.trans (and_congr decide_eq_true_iff decide_eq_true_iff)).trans
    (and_congr UInt32.le_iff_toNat_le UInt32.le_iff_toNat_le)

theorem toNat_of_isAlpha {c : Char} (letter : c.isAlpha = true) :
    (65 ≤ c.toNat ∧ c.toNat ≤ 90) ∨ (97 ≤ c.toNat ∧ c.toNat ≤ 122) :=
  (Bool.or_eq_true_iff.mp letter).imp isUpper_iff.mp isLower_iff.mp

theorem isCased_of_isAlpha {c : Char} (letter : c.isAlpha = true) : isCased c = true := by
  rcases toNat_of_isAlpha letter with upper | lower
  · exact List.any_eq_true.mpr ⟨(0x41, 0x5A), by decide, decide_eq_true upper⟩
  · exact List.any_eq_true.mpr ⟨(0x61, 0x7A), by decide, decide_eq_true lower⟩

/-- No range of the characters that are skipped has a letter of ASCII. -/
theorem ignorable_apart : ignorable.all (fun (first, last) =>
    Nat.blt last 65 || Nat.blt 122 first || (Nat.blt 90 first && Nat.blt last 97)) = true := by
  decide +kernel

theorem isIgnorable_of_isAlpha {c : Char} (letter : c.isAlpha = true) : isIgnorable c = false := by
  have place := toNat_of_isAlpha letter
  refine List.any_eq_false.mpr fun ⟨first, last⟩ member within => ?_
  have apart := List.all_eq_true.mp ignorable_apart _ member
  have inside : first ≤ c.toNat ∧ c.toNat ≤ last := of_decide_eq_true within
  simp only [Bool.or_eq_true, Bool.and_eq_true, Nat.blt_eq] at apart
  omega

/-- What holds of all letters of ASCII alike does not depend on their case. -/
theorem eq_toLower {f : Char → Bool} {value : Bool}
    (letters : ∀ {c}, c.isAlpha = true → f c = value) (c : Char) : f c.toLower = f c := by
  by_cases upper : c.isUpper = true
  · have letter : c.isAlpha = true := Bool.or_eq_true_iff.mpr (.inl upper)
    have lower : c.toLower.isLower = true := by
      have bounds := isUpper_iff.mp upper
      rw [isLower_iff, toNat_toLower upper]
      omega
    rw [letters (Bool.or_eq_true_iff.mpr (.inr lower)), letters letter]
  · rw [toLower_of_not_isUpper upper]

theorem isCased_toLower (c : Char) : isCased c.toLower = isCased c :=
  eq_toLower isCased_of_isAlpha c

theorem isIgnorable_toLower (c : Char) : isIgnorable c.toLower = isIgnorable c :=
  eq_toLower isIgnorable_of_isAlpha c

/-- Looking for a letter with case does not depend on the case of what is skipped or found. -/
theorem startsCased_map_toLower (text : List Char) :
    startsCased (text.map Char.toLower) = startsCased text := by
  have skipped : isIgnorable ∘ Char.toLower = isIgnorable := funext isIgnorable_toLower
  unfold startsCased
  rw [List.dropWhile_map, skipped]
  cases text.dropWhile isIgnorable with
  | nil => rfl
  | cons c rest => exact isCased_toLower c

/-- **The lower case of a character in its place** does not depend on the case of ASCII letters, its
own or around. -/
theorem inContext_map_toLower (before after : List Char) (c : Char) :
    inContext (before.map Char.toLower) c.toLower (after.map Char.toLower) =
      inContext before c after := by
  by_cases upper : c.isUpper = true
  · have lowered := ofChar_of_isUpper upper
    have settled : Settled c.toLower := settled_of_mem_ofChar (lowered ▸ List.mem_singleton_self _)
    have again : ofChar c.toLower = [c.toLower.toLower] := by
      rw [settled.toLower_eq]
      exact settled
    rw [inContext_of_toLower again, inContext_of_toLower lowered, settled.toLower_eq]
  · rw [toLower_of_not_isUpper upper]
    unfold inContext
    rw [startsCased_map_toLower, startsCased_map_toLower]

theorem behind_map_toLower (before text : List Char) :
    behind (before.map Char.toLower) (text.map Char.toLower) = behind before text := by
  induction text generalizing before with
  | nil => rfl
  | cons c rest later =>
    rw [List.map_cons, behind, behind, inContext_map_toLower, ← List.map_cons, later]

/-- A text with its ASCII letters small. -/
def small (text : String) : String := String.ofList (text.toList.map Char.toLower)

/-- **The case of ASCII letters changes nothing in the lower case.** -/
theorem ofText_small (text : String) : ofText (small text) = ofText text := by
  have same := behind_map_toLower [] text.toList
  rw [List.map_nil] at same
  rw [ofText, small, String.toList_ofList, same, ofText]

end Lowercase

end FacetQuery
