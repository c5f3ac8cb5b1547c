/-
**Pointers into documents.**

A pointer says where a document stands inside another: a slash before each of its tokens, and
nothing for the whole. A token names a member of an object, or counts the items of an array from
zero. Within a token `~1` stands for a slash and `~0` for a tilde.

* `Pointer.step?` — what one token leads to.
* `follow?` — **the document that a pointer leads to**, if there is one.
-/

import FacetQuery.Json.Basic
import FacetQuery.Numeral.Scan

namespace FacetQuery.Json

namespace Pointer

/-- A text with a character in place of each tilde that a digit follows, and of that digit. -/
def resolved (digit sign : Char) : List Char → List Char
  | '~' :: c :: rest =>
    if c = digit then sign :: resolved digit sign rest else '~' :: resolved digit sign (c :: rest)
  | c :: rest => c :: resolved digit sign rest
  | [] => []

/-- What a token stands for. Slashes come first, so that `~01` is a tilde and a one. -/
def unescaped (token : List Char) : List Char := resolved '0' '~' (resolved '1' '/' token)

/-- The place in an array that a token counts: digits alone, and no zero before another digit. -/
def place? (token : List Char) : Option Nat :=
  if token.head? = some '0' ∧ token.length ≠ 1 then none else Scan.natural? token

/-- What one token leads to. -/
def step? (document : Json) (token : List Char) : Option Json :=
  match document with
  | .object members => Dict.find? (String.ofList token) members
  | .array items => (place? token).bind fun place => items[place]?
  | _ => none

end Pointer

/-- The document that a pointer leads to. -/
def follow? (pointer : String) (document : Json) : Option Json :=
  match pointer.toList with
  | [] => some document
  | '/' :: tokens => ((tokens.splitOn '/').map Pointer.unescaped).foldlM Pointer.step? document
  | _ => none

end FacetQuery.Json
