/-
**Reading settings.**

A settings document has at most one line for each setting: a name, an equals sign, and the value.
The number of buckets is an integer of four bytes, and the percents are a list of numbers in
brackets, which may run over several lines and end with a comma. Anything else in the document makes
it unreadable, and what can be read still has to be in order (`Settings.check`).

The tokens of a document are read one at a time, and `State` is what may come next.
-/

import FacetQuery.Settings.Basic
import FacetQuery.Settings.Number
import FacetQuery.Settings.Token

namespace FacetQuery.Settings

/-- The settings that have been read. -/
structure Draft where
  maxBuckets : Option UInt32 := none
  percents : Option (List Double) := none

/-- The names of settings. -/
inductive Setting where
  | maxBuckets
  | percents
deriving DecidableEq, Repr

/-- The setting of a name. -/
def Setting.ofName? (name : List Char) : Option Setting :=
  if name = "max_buckets".toList then some .maxBuckets
  else if name = "default_percents".toList then some .percents
  else none

/-- Whether a setting has been read. -/
def Draft.has (draft : Draft) : Setting → Bool
  | .maxBuckets => draft.maxBuckets.isSome
  | .percents => draft.percents.isSome

/-- What has been read, and what may come next. -/
inductive State where
  | line (draft : Draft)
  | equals (draft : Draft) (setting : Setting)
  | value (draft : Draft) (setting : Setting)
  | item (draft : Draft) (read : List Double)
  | comma (draft : Draft) (read : List Double)
  | lineEnd (draft : Draft)

namespace State

/-- The state behind a name at the start of a line. -/
def named? (draft : Draft) (name : List Char) : Option State := do
  let setting ← Setting.ofName? name
  if draft.has setting then none else some (.equals draft setting)

/-- The number of buckets that a word writes. -/
def buckets? (word : List Char) : Option UInt32 := do
  let n ← integer? word
  if 0 ≤ n ∧ n < 4294967296 then some (UInt32.ofNat n.toNat) else none

/-- The draft behind the list of percents, of which the last is given first. -/
def closed (draft : Draft) (read : List Double) : State :=
  .lineEnd { draft with percents := some read.reverse }

/-- The state behind one more token. -/
def next? : State → Token → Option State
  | .line draft, .newline => some (.line draft)
  | .line draft, .word name => named? draft name
  | .line draft, .quoted name => named? draft name
  | .equals draft setting, .equals => some (.value draft setting)
  | .value draft .maxBuckets, .word text =>
    (buckets? text).map fun n => .lineEnd { draft with maxBuckets := some n }
  | .value draft .percents, .openBracket => some (.item draft [])
  | .item draft read, .newline => some (.item draft read)
  | .item draft read, .closeBracket => some (closed draft read)
  | .item draft read, .word text => (number? text).map fun x => .comma draft (x :: read)
  | .comma draft read, .newline => some (.comma draft read)
  | .comma draft read, .comma => some (.item draft read)
  | .comma draft read, .closeBracket => some (closed draft read)
  | .lineEnd draft, .newline => some (.line draft)
  | _, _ => none

/-- The draft of a document that may end here. -/
def draft? : State → Option Draft
  | .line draft => some draft
  | .lineEnd draft => some draft
  | _ => none

end State

/-- The settings of a draft, the standard ones where it has none. -/
def Draft.settings (draft : Draft) : Settings :=
  let standard : Settings := {}
  { maxBuckets := draft.maxBuckets.getD standard.maxBuckets
    percents := draft.percents.getD standard.percents }

/-- The settings that a document writes, in order or not. -/
def read? (source : String) : Option Settings := do
  let tokens ← Token.ofText? source
  let state ← tokens.foldlM State.next? (.line {})
  let draft ← state.draft?
  return draft.settings

/-- The settings of a document. -/
def ofText (source : String) : Except Failure Settings :=
  match read? source with
  | none => .error (.settings .unreadable)
  | some settings => do
    settings.check
    return settings

end FacetQuery.Settings
