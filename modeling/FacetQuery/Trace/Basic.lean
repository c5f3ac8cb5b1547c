/-
**Events.**

Building queries and reading answers can be watched. A watched operation has a result and a list of
the events on its way (`Watched`); events of the steps before a failure stand. Nothing an operation
returns depends on whether it is watched: `emit` adds an event or leaves it out, and has no other
result.
-/

import FacetQuery.Facet.Name
import FacetQuery.Failure

namespace FacetQuery

/-- Something that happened on the way. -/
inductive Event where
  | filterCompiled (fingerprint : Fingerprint) (leaves depth : UInt32)
  | facetsLowered (count : UInt32)
  | decoded (count : UInt32)
  | found (kind : FacetKind) (name : String)
  | absent (kind : FacetKind) (name : String)
  | failed (kind : FacetKind) (name : String) (failure : FailureKind)
deriving DecidableEq

/-- A count as an event reports it, the largest that four bytes hold for all above. -/
def Event.capped (n : Nat) : UInt32 := UInt32.ofNat (min n 4294967295)

/-- The result of an operation and the events on its way. -/
structure Watched (α : Type) where
  result : Except Failure α
  events : List Event

namespace Watched

variable {α β : Type}

/-- A result without events. -/
def lift (result : Except Failure α) : Watched α := ⟨result, []⟩

/-- One event, if someone watches. -/
def emit (watching : Bool) (event : Event) : Watched Unit :=
  ⟨.ok (), if watching then [event] else []⟩

/-- One operation and then another, which a failure of the first prevents. -/
def bind (first : Watched α) (next : α → Watched β) : Watched β :=
  match first.result with
  | .error failure => ⟨.error failure, first.events⟩
  | .ok value =>
    let second := next value
    ⟨second.result, first.events ++ second.events⟩

instance : Monad Watched where
  pure value := lift (.ok value)
  bind := bind

end Watched

end FacetQuery
