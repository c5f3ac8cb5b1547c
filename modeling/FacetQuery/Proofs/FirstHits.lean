/-
**First hits read along a path.**

The value of a field in a hit is found by a pointer, and pointers have rules of their own: escapes
in their tokens, and places in arrays. But the path of a field that is found at all is one in the
grammar, so no token of its pointer has an escape and none counts anything. What is left is to go
from one object into the next by the names of the path.

* `Json.Reaches`, `Json.Stops` — **where names lead**, each from an object to its member, and where
  they lead nowhere.
* `Json.descend?_eq_some`, `Json.descend?_eq_none` — taking one member after another ends in one of
  these two ways.
* `Json.follow?_pointer` — **the pointer of a path leads where its names lead**, in every document.
* `Reading.first_hit_read` — **what is read of the first hit**, and when there is nothing.
-/

import FacetQuery.Proofs.PathGrammar
import FacetQuery.Reading.Lookup

namespace FacetQuery

/-- The names along a path. -/
def Path.names (path : String) : List String := (path.toList.splitOn '.').map String.ofList

namespace Json

variable {document target : Json} {name : List Char} {names : List String}

/-! ### Where names lead -/

/-- **Where names lead**: none to the document itself, and more to where the later ones lead from
the member of the first. Only objects have members. -/
inductive Reaches : Json → List String → Json → Prop
  | here (document : Json) : Reaches document [] document
  | inside {members : Dict Json} {name : String} {names : List String} {inner target : Json}
      (there : Dict.find? name members = some inner) (later : Reaches inner names target) :
      Reaches (.object members) (name :: names) target

/-- **Where names lead nowhere**: a name is left in what is no object, an object lacks the member of
a name, or the later names lead nowhere from there. -/
inductive Stops : Json → List String → Prop
  | noObject {document : Json} {name : String} {names : List String}
      (plain : document.members? = none) :
      Stops document (name :: names)
  | missing {members : Dict Json} {name : String} {names : List String}
      (absent : Dict.find? name members = none) :
      Stops (.object members) (name :: names)
  | inside {members : Dict Json} {name : String} {names : List String} {inner : Json}
      (there : Dict.find? name members = some inner) (later : Stops inner names) :
      Stops (.object members) (name :: names)

theorem descend?_cons (first : String) (document : Json) :
    document.descend? (first :: names) = (document.member? first).bind (descend? names) := rfl

/-- Taking one member after another ends where the names lead. -/
theorem descend?_eq_some :
    document.descend? names = some target ↔ document.Reaches names target := by
  constructor
  · intro found
    induction names generalizing document with
    | nil =>
      cases found
      exact .here _
    | cons first names later =>
      obtain ⟨inner, step, behind⟩ := Option.bind_eq_some_iff.mp found
      obtain ⟨members, object, there⟩ := Option.bind_eq_some_iff.mp step
      cases document with
      | object own =>
        cases object
        exact .inside there (later behind)
      | null | bool | number | string | array => cases object
  · intro reaches
    induction reaches with
    | here document => rfl
    | inside there _ found =>
      rw [descend?_cons, member?, members?, Option.bind_some, there, Option.bind_some, found]

/-- Taking one member after another fails where the names lead nowhere. -/
theorem descend?_eq_none : document.descend? names = none ↔ document.Stops names := by
  constructor
  · intro lost
    induction names generalizing document with
    | nil => cases lost
    | cons first names later =>
      cases document with
      | object members =>
        cases there : Dict.find? first members with
        | none => exact .missing there
        | some inner =>
          rw [descend?_cons, member?, members?, Option.bind_some, there, Option.bind_some] at lost
          exact .inside there (later lost)
      | null | bool | number | string | array => exact .noObject rfl
  · intro stops
    induction stops with
    | noObject plain => rw [descend?_cons, member?, plain, Option.bind_none, Option.bind_none]
    | missing absent =>
      rw [descend?_cons, member?, members?, Option.bind_some, absent, Option.bind_none]
    | inside there _ lost =>
      rw [descend?_cons, member?, members?, Option.bind_some, there, Option.bind_some, lost]

/-! ### Pointers of paths -/

namespace Pointer

/-- A token without a tilde stands for itself. -/
theorem resolved_eq_self {digit sign : Char} {token : List Char} (plain : '~' ∉ token) :
    resolved digit sign token = token := by
  fun_induction resolved digit sign token with
  | case1 rest => exact absurd List.mem_cons_self plain
  | case2 c rest other later => exact absurd List.mem_cons_self plain
  | case3 c rest other later => rw [later fun inside => plain (List.mem_cons_of_mem c inside)]
  | case4 => rfl

/-- An identifier is written as it is, since it has no tilde. -/
theorem unescaped_identifier (identifier : Path.isIdentifier name = true) :
    unescaped name = name := by
  have plain : '~' ∉ name := Path.notMem_identifier (by decide) identifier
  rw [unescaped, resolved_eq_self plain, resolved_eq_self plain]

theorem notDigit_of_isStart {c : Char} (start : Path.isStart c = true) : c.isDigit = false := by
  have noNumeral : ¬ Path.IsNumeral c := by
    rcases Path.isStart_iff.mp start with upper | lower | rfl
    · exact fun numeral => absurd (Char.le_trans upper.1 numeral.2) (by decide)
    · exact fun numeral => absurd (Char.le_trans lower.1 numeral.2) (by decide)
    · exact fun numeral => absurd numeral.2 (by decide)
  rw [← Path.isDigit_iff] at noNumeral
  exact Bool.eq_false_iff.mpr noNumeral

/-- An identifier counts no items, since no digit stands first in it. -/
theorem place?_identifier (identifier : Path.isIdentifier name = true) : place? name = none := by
  cases name with
  | nil => cases identifier
  | cons first rest =>
    have start : Path.isStart first = true := (Bool.and_eq_true_iff.mp identifier).1
    have unread : Scan.natural? (first :: rest) = none := by
      refine if_pos (.inr ?_)
      rw [List.all_cons, notDigit_of_isStart start]
      exact Bool.false_ne_true
    rw [place?, unread, ite_self]

/-- **One step by an identifier is to the member of that name**, and from no array to any item. -/
theorem step?_identifier (identifier : Path.isIdentifier name = true) (document : Json) :
    step? document name = document.member? (String.ofList name) := by
  cases document with
  | object members => rfl
  | array items =>
    rw [step?, place?_identifier identifier]
    rfl
  | null | bool | number | string => rfl

/-- The steps of identifiers are those of their names. -/
theorem foldlM_step? {tokens : List (List Char)}
    (each : ∀ token ∈ tokens, Path.isIdentifier token = true) (document : Json) :
    (tokens.map unescaped).foldlM step? document =
      document.descend? (tokens.map String.ofList) := by
  induction tokens generalizing document with
  | nil => rfl
  | cons token tokens later =>
    obtain ⟨identifier, behind⟩ := List.forall_mem_cons.mp each
    rw [List.map_cons, List.foldlM_cons, unescaped_identifier identifier,
      step?_identifier identifier, List.map_cons, descend?_cons]
    exact congrArg _ (funext fun inner => later behind inner)

end Pointer

/-- With slashes for points a text falls into the same segments, if there is a slash in none of
them. -/
theorem splitOn_slashes {text : List Char} (plain : ∀ segment ∈ text.splitOn '.', '/' ∉ segment) :
    (text.map fun c => if c = '.' then '/' else c).splitOn '/' = text.splitOn '.' := by
  induction text with
  | nil => rfl
  | cons c rest later =>
    rw [List.splitOn_cons_eq_if_modifyHead] at plain
    rw [List.map_cons, List.splitOn_cons_eq_if_modifyHead, List.splitOn_cons_eq_if_modifyHead]
    by_cases point : c = '.'
    · subst point
      rw [later fun segment member => plain segment (List.mem_cons_of_mem _ member)]
      rfl
    · obtain ⟨first, more, split⟩ := List.exists_cons_of_ne_nil (List.splitOn_ne_nil '.' rest)
      rw [if_neg (by simpa using point), split] at plain
      obtain ⟨here, behind⟩ := List.forall_mem_cons.mp plain
      obtain ⟨apart, inside⟩ := not_or.mp (mt List.mem_cons.mpr here)
      have same := later (split ▸ List.forall_mem_cons.mpr ⟨inside, behind⟩)
      rw [same, if_neg point, if_neg (by simpa using Ne.symm apart), if_neg (by simpa using point)]

/-- **The pointer of a path leads where its names lead**, in every document. -/
theorem follow?_pointer {path : String} (valid : Path.check path = .ok ()) (document : Json) :
    document.follow? (Path.pointer path) = document.descend? (Path.names path) := by
  have each := Path.check_eq_ok_iff_splitOn.mp valid
  have written :
      (Path.pointer path).toList = '/' :: path.toList.map fun c => if c = '.' then '/' else c := by
    rw [Path.pointer, String.toList_append, String.toList_map]
    rfl
  have tokens :
      (path.toList.map fun c => if c = '.' then '/' else c).splitOn '/' = path.toList.splitOn '.' :=
    splitOn_slashes fun segment member => Path.notMem_identifier (by decide) (each segment member)
  unfold follow?
  rw [written]
  show (List.map Pointer.unescaped (List.splitOn '/' _)).foldlM Pointer.step? document = _
  rw [tokens, Pointer.foldlM_step? each, Path.names]

end Json

namespace Reading

variable {t : ValueType} {α : Type} {outcomes : Outcomes} {field : Field t}
  {filter : Option Predicate} {name : String}
  {sources : List Json} {names : List String} {label : String} {read : Json → Option α}

/-! ### First hits -/

/-- The names that a path joins are the names along it. -/
theorem names_of_joined (nonempty : names ≠ [])
    (identifiers : ∀ each ∈ names, Path.Identifier each.toList)
    (joined : field.path = ".".intercalate names) :
    Path.check field.path = .ok () ∧ Path.names field.path = names := by
  have all : ∀ each ∈ names.map String.toList, Path.isIdentifier each = true := by
    simpa only [List.forall_mem_map, Path.isIdentifier_iff] using identifiers
  have someText : names.map String.toList ≠ [] := mt List.map_eq_nil_iff.mp nonempty
  have text : field.path.toList = ['.'].intercalate (names.map String.toList) := by
    rw [joined, String.toList_intercalate]
    rfl
  refine ⟨Path.check_eq_ok.mpr ⟨_, someText, all, text⟩, ?_⟩
  rw [Path.names, text, Path.splitOn_joined someText all, List.map_map]
  simp

/-- **The first hit is read where the names of the path lead in it.** -/
theorem firstAs_of_topHits (nonempty : names ≠ [])
    (identifiers : ∀ each ∈ names, Path.Identifier each.toList)
    (joined : field.path = ".".intercalate names)
    (located : locate outcomes field .firstBy filter = .ok ⟨name, some (.topHits sources)⟩)
    (label : String) (read : Json → Option α) :
    firstAs outcomes label read field filter =
      converted label read (sources.head?.bind (Json.descend? names)) := by
  obtain ⟨valid, along⟩ := names_of_joined nonempty identifiers joined
  have pointed : Json.follow? (Path.pointer field.path) = Json.descend? names := by
    funext document
    rw [Json.follow?_pointer valid, along]
  rw [firstAs, located]
  simp only [ok_bind, Found.expect, Found.outcome, pure_eq_ok, pointed]

/-- A value is converted, or refused with its text, unless it is null. -/
theorem converted_some {value : Json} (something : value ≠ .null) :
    converted label read (some value) =
      match read value with
      | some result => .ok (some result)
      | none => .error (.conversion value.text label) := by
  cases value with
  | null => exact absurd rfl something
  | bool | number | string | array | object => rfl

/-- Nothing is read exactly if there is no value, or null. -/
theorem converted_eq_none {value? : Option Json} :
    converted label read value? = .ok none ↔ value? = none ∨ value? = some .null := by
  cases value? with
  | none => exact ⟨fun _ => .inl rfl, fun _ => rfl⟩
  | some value =>
    by_cases null : value = .null
    · subst null
      exact ⟨fun _ => .inr rfl, fun _ => rfl⟩
    · rw [converted_some null]
      cases read value <;> simp [null]

/-- Names lead to nothing in the first hit if there is none, or if they lead nowhere in it. -/
theorem head?_bind_descend?_eq_none : sources.head?.bind (Json.descend? names) = none ↔
    sources = [] ∨ ∃ hit later, sources = hit :: later ∧ hit.Stops names := by
  cases sources with
  | nil => simp
  | cons hit later => simp [Json.descend?_eq_none]

/-- Names lead to a value in the first hit if there is one and they lead to it there. -/
theorem head?_bind_descend?_eq_some {value : Json} :
    sources.head?.bind (Json.descend? names) = some value ↔
    ∃ hit later, sources = hit :: later ∧ hit.Reaches names value := by
  cases sources with
  | nil => simp
  | cons hit later => simp [Json.descend?_eq_some]

/-- **What is read of the first hit.** Under the name of a field stand hits, and the path of the
field is some names joined by points. Then there is nothing to read exactly if there is no hit, or
the names lead nowhere in the first, or they lead to null. Otherwise the value is read to which they
lead in the first hit, from one object into the next; it is given as it is made out, or refused with
its text if it cannot be. The later hits count for nothing. -/
theorem first_hit_read (nonempty : names ≠ [])
    (identifiers : ∀ each ∈ names, Path.Identifier each.toList)
    (joined : field.path = ".".intercalate names)
    (located : locate outcomes field .firstBy filter = .ok ⟨name, some (.topHits sources)⟩)
    (label : String) (read : Json → Option α) :
    (firstAs outcomes label read field filter = .ok none ↔
        (sources = [] ∨ ∃ hit later, sources = hit :: later ∧ hit.Stops names) ∨
          ∃ hit later, sources = hit :: later ∧ hit.Reaches names .null) ∧
      (firstAs outcomes label read field filter ≠ .ok none →
        ∃ hit later value, sources = hit :: later ∧ hit.Reaches names value ∧ value ≠ .null ∧
          firstAs outcomes label read field filter =
            match read value with
            | some result => .ok (some result)
            | none => .error (.conversion value.text label)) ∧
      ∀ {others : Outcomes} {place : String} {hits : List Json}, hits.head? = sources.head? →
        locate others field .firstBy filter = .ok ⟨place, some (.topHits hits)⟩ →
        firstAs others label read field filter = firstAs outcomes label read field filter := by
  have here := firstAs_of_topHits nonempty identifiers joined located label read
  refine ⟨?_, fun something => ?_, fun {others place hits} same elsewhere => ?_⟩
  · rw [here, converted_eq_none, head?_bind_descend?_eq_none, head?_bind_descend?_eq_some]
  · rw [here, ne_eq, converted_eq_none, not_or] at something
    obtain ⟨value, reached⟩ := Option.ne_none_iff_exists'.mp something.1
    obtain ⟨hit, later, first, leads⟩ := head?_bind_descend?_eq_some.mp reached
    have held : value ≠ .null := fun null => something.2 (reached.trans (congrArg some null))
    refine ⟨hit, later, value, first, leads, held, ?_⟩
    rw [here, reached, converted_some held]
  · rw [here, firstAs_of_topHits nonempty identifiers joined elsewhere, same]

/-- The power of the engine. -/
def enginePower : Field .int64 := ⟨"engine.power", true⟩

/-- Two hits, of which only the second has one engine with a power; the first has a list of them. -/
def engineHits : List Json :=
  [.record [("engine", .array [.record [("power", .ofInt 90)]])],
    .record [("engine", .record [("power", .ofInt 75)])]]

/-- Names lead into no list, and there is no second try in the next hit. -/
theorem first_hit_read_engine :
    locate [("firstby_engine.power", .topHits engineHits)] enginePower .firstBy none =
        .ok ⟨"firstby_engine.power", some (.topHits engineHits)⟩ ∧
      firstBy [("firstby_engine.power", .topHits engineHits)]
        (.number (.integer (.signed .eight))) enginePower none = .ok none := by
  have located : locate [("firstby_engine.power", .topHits engineHits)] enginePower .firstBy none =
      .ok ⟨"firstby_engine.power", some (.topHits engineHits)⟩ := by rfl
  have identifiers : ∀ each ∈ ["engine", "power"], Path.Identifier each.toList := by
    simp only [← Path.isIdentifier_iff]
    decide
  refine ⟨located,
    (first_hit_read (by decide) identifiers rfl located _ _).1.mpr (.inl (.inr ⟨_, _, rfl, ?_⟩))⟩
  exact .inside rfl (.noObject rfl)

end Reading

end FacetQuery
