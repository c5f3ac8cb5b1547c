/-
**Settings.**

What a caller may choose about the aggregations of all requests: how many buckets a grouping asks
for, and at which percents percentiles are taken when none are named. Filters and names do not
depend on it.
-/

import FacetQuery.Failure
import FacetQuery.Numeral.Layout

namespace FacetQuery

/-- Choices about the aggregations of all requests. -/
structure Settings where
  /-- The number of buckets that groupings and distinct values ask for. -/
  maxBuckets : UInt32 := 2147483647
  /-- The percents of percentiles that name none; the backend chooses when there are none here
  either. -/
  percents : List Double := []
deriving DecidableEq

namespace Settings

/-- Whether a number is a percent. -/
def isPercent (x : Double) : Bool := Binary.atMost (.zero false) x && x.atMost (.ofInt 100)

/-- Refuse settings that ask for no bucket or for something that is not a percent. -/
def check (settings : Settings) : Except Failure Unit :=
  if settings.maxBuckets = 0 then .error (.settings .noBuckets)
  else match settings.percents.find? fun x => !isPercent x with
    | some x => .error (.settings (.percent (Layout.message.write x)))
    | none => .ok ()

end Settings

end FacetQuery
