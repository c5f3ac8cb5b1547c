/-
**Lower case.**

`Lowercase.ofChar` gives the lower case of a character alone: one other character for most, two for
the capital I with a dot, the character itself for all that have none. `Lowercase.ofText` lowers a
whole text, where one character looks around itself: a capital sigma that ends a word, with a cased
letter before it and none behind it, becomes the final form, other marks between them being skipped.
-/

import FacetQuery.Text.Ranges

namespace FacetQuery.Lowercase

/-- Whether a character is a letter with case. -/
def isCased (c : Char) : Bool := cased.holds c

/-- Whether a character is skipped in looking for the letters around a sigma. -/
def isIgnorable (c : Char) : Bool := ignorable.holds c

/-- Whether a character belongs to a run. -/
def inRun (c : Char) (run : Nat × Nat × Nat × Int) : Bool :=
  let (first, last, stride, _) := run
  decide (first ≤ c.toNat ∧ c.toNat ≤ last ∧ (c.toNat - first) % stride = 0)

/-- The lower case of a character alone. -/
def ofChar (c : Char) : List Char :=
  if c = 'İ' then ['i', '\u0307']
  else match runs.find? (inRun c) with
    | some (_, _, _, shift) => [Char.ofNat (c.toNat + shift).toNat]
    | none => [c]

/-- Whether the first character that is not skipped is a letter with case. -/
def startsCased (text : List Char) : Bool :=
  match text.dropWhile isIgnorable with
  | c :: _ => isCased c
  | [] => false

/-- The lower case of a character between what stands before it, nearest first, and what follows. -/
def inContext (before : List Char) (c : Char) (after : List Char) : List Char :=
  if c = 'Σ' then [if startsCased before && !startsCased after then 'ς' else 'σ'] else ofChar c

/-- The lower case of a text behind some characters, nearest first. -/
def behind (before : List Char) : List Char → List Char
  | [] => []
  | c :: rest => inContext before c rest ++ behind (c :: before) rest

/-- The lower case of a text. -/
def ofText (text : String) : String := String.ofList (behind [] text.toList)

/-- The text with its first character alone in lower case. -/
def ofFirst (text : String) : String :=
  match text.toList with
  | [] => ""
  | c :: rest => String.ofList (ofChar c ++ rest)

end FacetQuery.Lowercase
