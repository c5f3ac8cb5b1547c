/-
**What can go wrong, and how it is said.**

A `Failure` keeps its cause; the wording is in `Failure.message` and in the reasons it uses. Each
failure belongs to a class (`Failure.kind`), and only a missing aggregation counts as missing.
-/

import FacetQuery.Outcome.Kind
import FacetQuery.Schema.FieldKind

namespace FacetQuery

/-- Why an expression is not supported. -/
inductive Refusal where
  | emptyPath
  | segment (text : String)
  | nullOperand
  | unboundedOperand
  | mismatch (operand : String) (kind : FieldKind)
  | unorderedField
  | bareField
  | noOperands
  | other (text : String)
deriving DecidableEq, Repr

/-- The wording of a refusal. -/
def Refusal.message : Refusal → String
  | emptyPath => "empty field path"
  | segment text => s!"segment '{text}' is not a simple field accessor"
  | nullOperand => "comparison against null"
  | unboundedOperand => "non-finite float operand"
  | mismatch operand kind => s!"operand {operand} does not match field type {kind.label}"
  | unorderedField => "range comparison on a boolean field"
  | bareField => "only boolean fields may be used without a comparison"
  | noOperands => "combinator without operands"
  | other text => text

/-- What is wrong with the shape of a response. -/
inductive Malformation where
  | noObject
  | noBuckets
  | noKey
  | noDocCount
  | noMetric
  | noCount
  | noPercentiles
  | noPercent
  | percentText (text : String)
  | noStatsCount
  | noHits
  | mismatch (expected found : OutcomeKind)
  | other (text : String)
deriving DecidableEq, Repr

/-- The wording of a malformation. -/
def Malformation.message : Malformation → String
  | noObject => "expected an object"
  | noBuckets => "expected a 'buckets' array"
  | noKey => "bucket without a scalar 'key'"
  | noDocCount => "expected a 'doc_count'"
  | noMetric => "metric 'value' is not numeric"
  | noCount => "expected an integral 'value'"
  | noPercentiles => "expected percentile 'values'"
  | noPercent => "percentile without a key"
  | percentText text => s!"percentile key '{text}' is not numeric"
  | noStatsCount => "stats without a 'count'"
  | noHits => "expected 'hits.hits'"
  | mismatch expected found => s!"expected {expected.phrase}, found {found.label}"
  | other text => text

/-- What is wrong with settings. -/
inductive SettingsFault where
  | unreadable
  | noBuckets
  | percent (text : String)
  | other (text : String)
deriving DecidableEq, Repr

/-- The wording of a fault in settings. -/
def SettingsFault.message : SettingsFault → String
  | unreadable => "the document cannot be read"
  | noBuckets => "max_buckets must be at least 1"
  | percent text => s!"percentile {text} is outside 0..=100"
  | other text => text

/-- The classes of failures. -/
inductive FailureKind where
  | unsupported
  | missing
  | conversion
  | ambiguous
  | malformed
  | settings
deriving DecidableEq, Repr

/-- The name of a class. -/
def FailureKind.label : FailureKind → String
  | unsupported => "unsupported"
  | missing => "missing"
  | conversion => "conversion"
  | ambiguous => "ambiguous"
  | malformed => "malformed"
  | settings => "config"

/-- Why a query could not be built, or its answer not be read. -/
inductive Failure where
  | unsupported (expression : String) (reason : Refusal)
  | missing (name : String)
  | conversion (key target : String)
  | ambiguous (name : String)
  | malformed (name : String) (reason : Malformation)
  | settings (reason : SettingsFault)
deriving DecidableEq, Repr

namespace Failure

/-- The wording of a failure. -/
def message : Failure → String
  | unsupported expression reason => s!"unsupported expression '{expression}': {reason.message}"
  | missing name => s!"aggregation '{name}' is missing from the response"
  | conversion key target => s!"bucket key '{key}' cannot be converted to {target}"
  | ambiguous name => s!"aggregation name '{name}' is derived more than once in the same query"
  | malformed name reason =>
    s!"aggregation '{name}' has an unexpected response shape: {reason.message}"
  | settings reason => s!"invalid search config: {reason.message}"

/-- The class of a failure. -/
def kind : Failure → FailureKind
  | unsupported .. => .unsupported
  | missing .. => .missing
  | conversion .. => .conversion
  | ambiguous .. => .ambiguous
  | malformed .. => .malformed
  | settings .. => .settings

/-- Whether the failure is that an aggregation was not returned. -/
def isMissing : Failure → Bool
  | missing _ => true
  | _ => false

/-- The wording behind the name of the class. -/
def messageWithKind (failure : Failure) : String := s!"{failure.kind.label}: {failure.message}"

end Failure

end FacetQuery
