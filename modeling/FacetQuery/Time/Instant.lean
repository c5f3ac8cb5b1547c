/-
**Instants.**

An instant is a whole second since 1970 and nanoseconds behind it, which can go on past a thousand
million, behind any second. It is regular if they do so in a leap second alone, and that follows the
last second of a minute (`Instant.Regular`); what is counted or read is a regular instant. Instants
cover the years from `CalendarDate.firstYear` to `CalendarDate.lastYear`.
-/

import FacetQuery.Time.Calendar

namespace FacetQuery

namespace CalendarDate

/-- The first year that instants cover. -/
def firstYear : Int := -262143

/-- The last year that instants cover. -/
def lastYear : Int := 262142

end CalendarDate

namespace Instant

/-- The first second of the first year. -/
def earliest : Int := -8334601228800

/-- The last second of the last year. -/
def latest : Int := 8210266876799

theorem earliest_eq :
    earliest = CalendarDate.toDays ⟨CalendarDate.firstYear, 1, 1⟩ * 86400 := by decide

theorem latest_eq : latest = CalendarDate.toDays ⟨CalendarDate.lastYear + 1, 1, 1⟩ * 86400 - 1 := by
  decide

/-- What the parts of an instant obey. -/
def InRange (seconds : Int) (nanos : Nat) : Prop :=
  earliest ≤ seconds ∧ seconds ≤ latest ∧ nanos < 2000000000

instance (seconds : Int) (nanos : Nat) : Decidable (InRange seconds nanos) :=
  inferInstanceAs (Decidable (_ ∧ _))

end Instant

/-- A second since 1970 and the nanoseconds behind it. -/
@[ext]
structure Instant where
  seconds : Int
  nanos : Nat
  inRange : Instant.InRange seconds nanos
deriving DecidableEq

namespace Instant

/-- The nanoseconds make less than a second, or are those of a leap second, which follows the last
second of a minute. -/
def Regular (instant : Instant) : Prop := instant.nanos < 1000000000 ∨ instant.seconds % 60 = 59

instance (instant : Instant) : Decidable instant.Regular := inferInstanceAs (Decidable (_ ∨ _))

/-- The instant of a second and nanoseconds, if they make a regular one. -/
def ofParts? (seconds : Int) (nanos : Nat) : Option Instant :=
  if inRange : InRange seconds nanos then
    let instant : Instant := ⟨seconds, nanos, inRange⟩
    if instant.Regular then some instant else none
  else none

theorem ofParts?_eq_some {seconds : Int} {nanos : Nat} {instant : Instant} :
    ofParts? seconds nanos = some instant ↔
      instant.seconds = seconds ∧ instant.nanos = nanos ∧ instant.Regular := by
  unfold ofParts?
  constructor
  · intro made
    split at made
    · dsimp only at made
      split at made
      · rename_i regular
        cases made
        exact ⟨rfl, rfl, regular⟩
      · cases made
    · cases made
  · rintro ⟨rfl, rfl, regular⟩
    rw [dif_pos instant.inRange]
    exact if_pos regular

/-- The instant of a number of milliseconds since 1970, if it is covered. -/
def ofMillis? (millis : Int) : Option Instant :=
  ofParts? (millis / 1000) ((millis % 1000).toNat * 1000000)

/-- The day of an instant, from 1970. -/
def days (instant : Instant) : Int := instant.seconds / 86400

/-- The second of an instant in its day. -/
def secondOfDay (instant : Instant) : Nat := (instant.seconds % 86400).toNat

/-- Whether the nanoseconds of an instant make a second more. -/
def carries (instant : Instant) : Bool := decide (1000000000 ≤ instant.nanos)

end Instant

end FacetQuery
