/-
**Finite maps from names.**

A `Dict` lists its members in increasing order of their names, each name once; names are ordered by
code point, which is the order of their bytes in UTF-8. `insert` keeps that form, and every other
way to make a dictionary goes through it.

* `find?_insert` — **reading what was written**: the new value under its own name, the old one
  elsewhere.
* `Ordered.insert` — **the form is kept**.
-/

namespace FacetQuery

/-- Members in increasing order of their names. -/
abbrev Dict (α : Type) := List (String × α)

namespace Dict

variable {α β : Type}

/-- The member of a name. -/
def find? (name : String) : Dict α → Option α
  | [] => none
  | (other, value) :: rest => if other = name then some value else find? name rest

/-- Whether a name has a member. -/
def contains (name : String) (members : Dict α) : Bool := (find? name members).isSome

/-- Write a member in its place, over any earlier one of the same name. -/
def insert (name : String) (value : α) : Dict α → Dict α
  | [] => [(name, value)]
  | (other, old) :: rest =>
    if other = name then (name, value) :: rest
    else if name < other then (name, value) :: (other, old) :: rest
    else (other, old) :: insert name value rest

/-- The dictionary of a list of pairs; of two pairs with one name the later counts. -/
def ofList (pairs : List (String × α)) : Dict α :=
  pairs.foldl (fun members pair => insert pair.1 pair.2 members) []

/-- The names, in order. -/
def names (members : Dict α) : List String := members.map Prod.fst

/-- Strictly increasing names. -/
def Ordered (members : Dict α) : Prop := members.Pairwise fun a b => a.1 < b.1

/-! ### Laws -/

@[simp] theorem find?_nil (name : String) : find? name ([] : Dict α) = none := rfl

theorem find?_insert (name other : String) (value : α) (members : Dict α) :
    find? other (insert name value members) =
      if name = other then some value else find? other members := by
  induction members with
  | nil => simp [insert, find?]
  | cons head rest later =>
    obtain ⟨first, old⟩ := head
    by_cases same : first = name
    · subst same
      by_cases asked : first = other <;> simp [insert, find?, asked]
    · rw [insert, if_neg same]
      by_cases before : name < first
      · rw [if_pos before, find?]
      · rw [if_neg before, find?, later, find?]
        by_cases asked : first = other
        · have apart : name ≠ other := fun eq => same (asked.trans eq.symm)
          rw [if_pos asked, if_neg apart, if_pos asked]
        · rw [if_neg asked, if_neg asked]

@[simp] theorem find?_insert_self (name : String) (value : α) (members : Dict α) :
    find? name (insert name value members) = some value := by
  simp [find?_insert]

theorem mem_insert {name : String} {value : α} {members : Dict α} {pair : String × α}
    (member : pair ∈ insert name value members) : pair = (name, value) ∨ pair ∈ members := by
  induction members with
  | nil => simpa [insert] using member
  | cons head rest later =>
    obtain ⟨first, old⟩ := head
    by_cases same : first = name
    · simp only [insert, same, if_true, List.mem_cons] at member
      rcases member with new | kept
      · exact .inl new
      · exact .inr (List.mem_cons_of_mem _ kept)
    · by_cases before : name < first
      · simpa [insert, same, before] using member
      · simp only [insert, same, before, if_false, List.mem_cons] at member
        rcases member with head | tail
        · exact .inr (head ▸ List.mem_cons_self ..)
        · exact (later tail).imp_right (List.mem_cons_of_mem _)

theorem Ordered.insert {members : Dict α} (ordered : Ordered members) (name : String) (value : α) :
    Ordered (insert name value members) := by
  induction members with
  | nil => exact List.pairwise_singleton ..
  | cons head rest later =>
    obtain ⟨first, old⟩ := head
    obtain ⟨above, tail⟩ := List.pairwise_cons.mp ordered
    by_cases same : first = name
    · subst same
      rw [Dict.insert, if_pos rfl]
      exact List.pairwise_cons.mpr ⟨above, tail⟩
    · by_cases before : name < first
      · simp only [Dict.insert, same, before, if_true, if_false]
        refine List.pairwise_cons.mpr ⟨fun pair member => ?_, ordered⟩
        rcases List.mem_cons.mp member with eq | later
        · exact eq ▸ before
        · exact String.lt_trans before (above pair later)
      · have after : first < name := by
          refine Decidable.byContradiction fun notAfter => same ?_
          exact String.le_antisymm (String.not_lt.mp before) (String.not_lt.mp notAfter)
        simp only [Dict.insert, same, before, if_false]
        refine List.pairwise_cons.mpr ⟨fun pair member => ?_, later tail⟩
        rcases mem_insert member with new | kept
        · exact new ▸ after
        · exact above pair kept

end Dict

end FacetQuery
