/-
**Choices that come back as keys.**

A choice compared with an analyzed field stands in the query in lower case, as its name does in the
index, so a bucket of that choice has the lowered name as its key. Keys are read by the letters of
ASCII alone.

* `Enumeration.ofText?_of_only` — **the reading of a key** that no choice but one has the letters
  of.
* `Enumeration.eq_of_sameLetters_lowered` — a lowered name has the letters of no name that is
  lowered to another text.
* `Clause.ofPredicate_equals` — the literal that a comparison with a choice puts into the query.
* `Enumeration.lowered_choice_read` — **the choice comes back** exactly if its name is lowered as in
  ASCII, and no other does if it does not.
-/

import FacetQuery.Proofs.Compilation
import FacetQuery.Proofs.LowerCase
import FacetQuery.Reading.Key

namespace FacetQuery

/-! ### The choice of a text -/

namespace Enumeration

variable {e : Enumeration} {choice : e.Carrier} {text : String}

theorem sameLetters_of_ofText? (read : e.ofText? text = some choice) :
    sameLetters (e.name choice) text = true :=
  (List.findFinIdx?_eq_some_iff.mp read).1

theorem not_sameLetters_of_ofText? (unread : e.ofText? text = none) (other : e.Carrier) :
    ¬ sameLetters (e.name other) text = true :=
  List.findFinIdx?_eq_none_iff.mp unread (e.name other) (List.getElem_mem _)

/-- **A text with the letters of one choice at most** is read as that choice if it has them, else as
none. -/
theorem ofText?_of_only (only : ∀ other, sameLetters (e.name other) text = true → other = choice) :
    e.ofText? text = if sameLetters (e.name choice) text = true then some choice else none := by
  cases read : e.ofText? text with
  | some other =>
    have letters := sameLetters_of_ofText? read
    obtain rfl := only other letters
    rw [if_pos letters]
  | none => rw [if_neg (not_sameLetters_of_ofText? read choice)]

/-- A name with the letters of a lowered one is lowered to it, so the two names are of one choice if
lowering keeps it apart from the others. -/
theorem eq_of_sameLetters_lowered
    (apart : ∀ other,
      Lowercase.ofText (e.name other) = Lowercase.ofText (e.name choice) → other = choice)
    (other : e.Carrier)
    (same : sameLetters (e.name other) (Lowercase.ofText (e.name choice)) = true) :
    other = choice :=
  apart other (Lowercase.ofText_of_sameLetters same fun _ => Lowercase.settled_of_mem_ofText)

end Enumeration

/-! ### The choice in a query -/

/-- **A choice in a query** is in lower case if the field is analyzed. -/
theorem Clause.ofPredicate_equals {e : Enumeration} {choice : e.Carrier} {field : Field (.choice e)}
    (analyzed : field.analyzed = true) (valid : Path.check field.path = .ok ()) :
    ofPredicate (field.compare .eq choice) =
      .ok (.test ⟨field.path, .eq, .choice (Lowercase.ofText (e.name choice))⟩) := by
  have lowers : field.ref.lowersText = true := by
    show (field.analyzed && true) = true
    rw [analyzed, Bool.and_true]
  have adapted :
      field.ref.adapt (.choice (e.name choice)) = .choice (Lowercase.ofText (e.name choice)) := by
    rw [FieldRef.adapt, if_pos lowers]
    rfl
  refine ofComparison_eq_ok.mpr ⟨valid, rfl, nofun, ?_⟩
  rw [← adapted]
  rfl

namespace Enumeration

/-- **A choice comes back from the query exactly if its name is lowered as in ASCII**: the literal
that stands for it, read as a key, is the choice, or nothing at all if any letter of the name has a
lower case of another kind. It never is another choice. -/
theorem lowered_choice_read (e : Enumeration) (choice : e.Carrier)
    (apart : ∀ other,
      Lowercase.ofText (e.name other) = Lowercase.ofText (e.name choice) → other = choice)
    (field : Field (.choice e)) (analyzed : field.analyzed = true)
    (valid : Path.check field.path = .ok ()) :
    ∃ literal, Clause.ofPredicate (field.compare .eq choice) =
      .ok (.test ⟨field.path, .eq, .choice literal⟩) ∧
      literal = Lowercase.ofText (e.name choice) ∧
      (ValueType.choice e).ofKey? literal =
        if Lowercase.Plain (e.name choice) then some choice else none := by
  refine ⟨_, Clause.ofPredicate_equals analyzed valid, rfl, ?_⟩
  rw [ValueType.ofKey?, ofText?_of_only (eq_of_sameLetters_lowered apart)]
  exact if_congr Lowercase.sameLetters_ofText_iff rfl rfl

/-- The grades of fruit. -/
def grades : Enumeration := ⟨"Grade", ["Low", "LOW", "Mid_Range", "ÄPFEL", "Größe"]⟩

/-- The field of grades. -/
def gradeField : Field (.choice grades) := ⟨"grade", true⟩

/-- A grade with a name of ASCII. -/
def midRange : grades.Carrier := (2 : Fin 5)

/-- A grade whose name has another letter. -/
def apples : grades.Carrier := (3 : Fin 5)

theorem lowered_apart_of_grades :
    (∀ other, Lowercase.ofText (grades.name other) = Lowercase.ofText (grades.name midRange) →
      other = midRange) ∧
      ∀ other, Lowercase.ofText (grades.name other) = Lowercase.ofText (grades.name apples) →
        other = apples := by
  decide +kernel

/-- A name of ASCII comes back. -/
theorem lowered_choice_read_midRange :
    (∀ other, Lowercase.ofText (grades.name other) = Lowercase.ofText (grades.name midRange) →
      other = midRange) ∧
      Clause.ofPredicate (gradeField.compare .eq midRange) =
        .ok (.test ⟨"grade", .eq, .choice "mid_range"⟩) ∧
      (ValueType.choice grades).ofKey? "mid_range" = some midRange := by
  have lowered : Lowercase.ofText (grades.name midRange) = "mid_range" := by decide +kernel
  have plain : Lowercase.Plain (grades.name midRange) := by decide +kernel
  obtain ⟨literal, compiled, rfl, read⟩ :=
    lowered_choice_read grades midRange lowered_apart_of_grades.1 gradeField rfl rfl
  rw [lowered] at compiled read
  rw [if_pos plain] at read
  exact ⟨lowered_apart_of_grades.1, compiled, read⟩

/-- A name with a letter outside ASCII is lowered to a text of its own, which is read as nothing. -/
theorem lowered_choice_lost :
    (∀ other, Lowercase.ofText (grades.name other) = Lowercase.ofText (grades.name apples) →
      other = apples) ∧
      Clause.ofPredicate (gradeField.compare .eq apples) =
        .ok (.test ⟨"grade", .eq, .choice "äpfel"⟩) ∧
      (ValueType.choice grades).ofKey? "äpfel" ≠ some apples := by
  have lowered : Lowercase.ofText (grades.name apples) = "äpfel" := by decide +kernel
  refine ⟨lowered_apart_of_grades.2, ?_, ?_⟩
  · rw [← lowered]
    exact Clause.ofPredicate_equals rfl rfl
  · show grades.ofText? "äpfel" ≠ some apples
    decide +kernel

end Enumeration

end FacetQuery
