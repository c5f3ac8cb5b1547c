import FacetQuery.Reading.View
import FacetQuery.Outcome.Stored
import FacetQuery.Search.Session
import FacetQuery.Settings.Document
import FacetQuery.Proofs.DistinctNames
import FacetQuery.Proofs.LevelAnswers
import FacetQuery.Proofs.MeasureReading
import FacetQuery.Proofs.Resolution
import FacetQuery.Proofs.FacetReading
import FacetQuery.Proofs.Compilation
import FacetQuery.Proofs.PathGrammar
import FacetQuery.Proofs.Truth
import FacetQuery.Proofs.LookupNames
import FacetQuery.Proofs.Octets
import FacetQuery.Proofs.StreamInjective
import FacetQuery.Proofs.Magnitudes
import FacetQuery.Proofs.Agreement
import FacetQuery.Proofs.FacetLevels
import FacetQuery.Proofs.Acceptance
import FacetQuery.Proofs.Unrequested
import FacetQuery.Proofs.BucketMembers
import FacetQuery.Proofs.NameTrees
import FacetQuery.Proofs.NumberValues
import FacetQuery.Proofs.CountReading
import FacetQuery.Proofs.KeyedEntries
import FacetQuery.Proofs.IntegerKeys
import FacetQuery.Proofs.DateKeys
import FacetQuery.Proofs.FlatClauses
import FacetQuery.Proofs.Regrouping
import FacetQuery.Proofs.SearchCalls
import FacetQuery.Proofs.WatchedSteps
import FacetQuery.Proofs.SettingsChoices
import FacetQuery.Proofs.ChoiceKeys
import FacetQuery.Proofs.WatchedReads
import FacetQuery.Proofs.SiblingOrder
import FacetQuery.Proofs.TypedPredicates
import FacetQuery.Proofs.NullFree
import FacetQuery.Proofs.AskedAggregations
import FacetQuery.Proofs.UsableBodies
import FacetQuery.Proofs.ReadMembers
import FacetQuery.Proofs.StoredAnswers
import FacetQuery.Proofs.FiniteAnswers
import FacetQuery.Proofs.FirstOffence
import FacetQuery.Proofs.AtomOrder
import FacetQuery.Proofs.KeyChains
import FacetQuery.Proofs.WholeKeys
import FacetQuery.Proofs.NearestNumbers
import FacetQuery.Proofs.TypedMetrics
import FacetQuery.Proofs.PercentileForms
import FacetQuery.Proofs.BucketKeys
import FacetQuery.Proofs.CalendarDays
import FacetQuery.Proofs.InstantTexts
import FacetQuery.Proofs.TypedKeys
import FacetQuery.Proofs.DictionaryFamily
import FacetQuery.Proofs.FirstHits
import FacetQuery.Proofs.CaseVariants
